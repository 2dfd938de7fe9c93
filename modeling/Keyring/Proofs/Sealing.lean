import Keyring.Proofs.Act
import Keyring.Sealing

/-!
# Sealed texts

What `openText` does with any byte string, whether or not it was ever sealed.

* `openText_cases` : a text long enough for a salt and a nonce opens, or the password is refused;
* `drop_eq_tag_of_openText` : the last sixteen bytes of a text that opens follow from the others;
* `sealFresh_apply` : sealing afresh is sealing with the next bytes of the supply;
* `seal_inverse_open` : sealing and opening are inverse in both directions, and nothing opens that is
  shorter than what is sealed or differs from it in the tag.

Keys are derived and texts are masked for inputs of every length.
-/

namespace Keyring

namespace Crypto.Gcm

theorem length_encrypt (key nonce text : Bytes) :
    (encrypt key nonce text).length = text.length + 16 := by
  rw [encrypt, List.length_append, length_mask, length_tag]

end Crypto.Gcm

namespace Sealing

open Crypto

variable {W : Type} {sealedText password text : Bytes}

/-- The length of a tag. -/
def tagLength : Nat := 16

/-! ### How opening ends -/

theorem openText_of_short (password : Bytes) (h : sealedText.length < saltLength + nonceLength) :
    openText sealedText password = .error (tooShort sealedText.length) := by
  rw [openText, if_pos h]
  rfl

/-- A text long enough for a salt and a nonce opens, or the password is refused. -/
theorem openText_cases (password : Bytes) (h : saltLength + nonceLength ≤ sealedText.length) :
    (∃ text, openText sealedText password = .ok text) ∨
      openText sealedText password = .error .invalidPassword := by
  have hsalt : (sealedText.take saltLength).length = saltLength :=
    List.length_take_of_le (Nat.le_of_add_right_le h)
  simp only [openText, Nat.not_lt.2 h, if_false, deriveKey_eq hsalt]
  simp only [bind, Except.bind, pure, Except.pure]
  split
  · exact .inl ⟨_, rfl⟩
  · exact .inr rfl

theorem le_length_of_openText (h : openText sealedText password = .ok text) :
    saltLength + nonceLength ≤ sealedText.length := by
  refine Nat.le_of_not_lt fun hlt => ?_
  rw [openText_of_short password hlt] at h
  cases h

/-! ### Lengths -/

theorem length_sealText {salt nonce : Bytes} (hsalt : salt.length = saltLength)
    (hnonce : nonce.length = nonceLength) (h : sealText salt nonce text password = .ok sealedText) :
    sealedText.length = text.length + (saltLength + nonceLength + tagLength) := by
  rw [sealText_eq nonce text password hsalt] at h
  rw [← Except.ok.inj h, List.length_append, List.length_append, hsalt, hnonce, Gcm.length_encrypt,
    tagLength]
  omega

theorem length_of_openText (h : openText sealedText password = .ok text) :
    sealedText.length = text.length + (saltLength + nonceLength + tagLength) := by
  have hlength := le_length_of_openText h
  refine length_sealText (List.length_take_of_le (Nat.le_of_add_right_le hlength)) ?_
    (sealText_of_openText h)
  refine List.length_take_of_le ?_
  rw [List.length_drop]
  omega

/-! ### The tag -/

/-- The tag that belongs to a salt, a nonce and a masked text, one behind the other. -/
def tagOf (password front : Bytes) : Bytes :=
  Gcm.tag (Argon2id.derive .default keyLength password (front.take saltLength))
    ((front.drop saltLength).take nonceLength) ((front.drop saltLength).drop nonceLength)

/-- A text that opens ends in the tag of what stands before. -/
theorem drop_eq_tag_of_openText (h : openText sealedText password = .ok text) :
    sealedText.drop (sealedText.length - tagLength) =
      tagOf password (sealedText.take (sealedText.length - tagLength)) := by
  have hlength := le_length_of_openText h
  have hsalt : (sealedText.take saltLength).length = saltLength :=
    List.length_take_of_le (Nat.le_of_add_right_le hlength)
  have hnonce : ((sealedText.drop saltLength).take nonceLength).length = nonceLength := by
    refine List.length_take_of_le ?_
    rw [List.length_drop]
    omega
  have hseal := sealText_of_openText h
  generalize sealedText.take saltLength = salt at hsalt hseal
  generalize (sealedText.drop saltLength).take nonceLength = nonce at hnonce hseal
  rw [sealText_eq nonce text password hsalt] at hseal
  -- the text is the salt, the nonce, the masked text and the tag of that
  obtain rfl := Except.ok.inj hseal
  rw [Gcm.encrypt, ← List.append_assoc]
  generalize Gcm.mask _ nonce text = masked
  have hfront : (salt ++ nonce ++ masked ++ Gcm.tag (Argon2id.derive .default keyLength password salt)
      nonce masked).length - tagLength = (salt ++ nonce ++ masked).length := by
    rw [List.length_append, Gcm.length_tag, tagLength, Nat.add_sub_cancel]
  rw [hfront, List.drop_left, List.take_left, tagOf, List.append_assoc, List.take_left' hsalt,
    List.drop_left' hsalt, List.take_left' hnonce, List.drop_left' hnonce]

/-- A text that differs in the tag alone from one that opens is refused. -/
theorem openText_of_tampered {other : Bytes} (h : openText sealedText password = .ok text)
    (hlength : other.length = sealedText.length)
    (hfront : other.take (sealedText.length - tagLength) =
      sealedText.take (sealedText.length - tagLength)) (hne : other ≠ sealedText) :
    openText other password = .error .invalidPassword := by
  have hlong : saltLength + nonceLength ≤ other.length := hlength ▸ le_length_of_openText h
  rcases openText_cases password hlong with ⟨text', h'⟩ | h'
  · -- if it opened, it would end in the same tag
    have htag := drop_eq_tag_of_openText h'
    rw [hlength, hfront, ← drop_eq_tag_of_openText h] at htag
    refine absurd ?_ hne
    rw [← List.take_append_drop (sealedText.length - tagLength) other, hfront, htag,
      List.take_append_drop]
  · exact h'

/-! ### Both directions -/

/-- Sealing afresh is sealing with the next bytes of the supply. -/
theorem sealFresh_apply (text password : Bytes) (s : Session W) :
    sealFresh text password s =
      (sealText (s.entropy.next saltLength)
          (Entropy.next { s.entropy with used := s.entropy.used + saltLength } nonceLength)
          text password,
        { s with entropy :=
            { s.entropy with used := s.entropy.used + saltLength + nonceLength } }) :=
  Act.liftM_apply _ _

/-- Sealing afresh does not fail, what it gives opens again, and all that it uses up is random
bytes. -/
theorem sealFresh_ends (text password : Bytes) (s : Session W) :
    (sealFresh text password).Ends s
      (fun sealedText t => openText sealedText password = .ok text ∧ t.world = s.world ∧
        t.journal = s.journal)
      fun _ => False := by
  have hsalt := s.entropy.length_next saltLength
  have hseal := sealText_eq (Entropy.next { s.entropy with used := s.entropy.used + saltLength }
    nonceLength) text password hsalt
  rw [Act.Ends, Act.Ensures, sealFresh_apply, hseal]
  exact ⟨openText_of_sealText (Entropy.length_next _ _) hseal, rfl, rfl⟩

theorem sealFresh_succeeds (text password : Bytes) :
    (sealFresh text password : Act W Bytes).Succeeds fun sealedText =>
      openText sealedText password = .ok text := fun s =>
  (sealFresh_ends text password s).imp (fun _ _ h => h.1) fun _ h => h

/-- **Sealing and opening are inverse.**  Whatever salt and nonce are drawn, a sealed text has sixty
bytes more than the text and opens as it was; and whatever opens was sealed, under the salt and the
nonce that it starts with, so that no other tag is taken.  A text without room for a salt and a nonce
is none, and one without room for a tag is refused like a wrong password. -/
theorem seal_inverse_open (password : Bytes) (s : Session W) :
    (∀ text, (sealFresh text password s).1 =
      sealText (s.entropy.next 32) (Entropy.next { s.entropy with used := s.entropy.used + 32 } 12)
        text password) ∧
    (∀ salt nonce text : Bytes, salt.length = 32 → nonce.length = 12 →
      ∃ sealedText, sealText salt nonce text password = .ok sealedText ∧
        sealedText.length = text.length + 60 ∧ openText sealedText password = .ok text) ∧
    (∀ sealedText text : Bytes, openText sealedText password = .ok text →
      60 ≤ sealedText.length ∧ text.length = sealedText.length - 60 ∧
      sealText (sealedText.take 32) ((sealedText.drop 32).take 12) text password = .ok sealedText ∧
      ∀ other : Bytes, other.length = sealedText.length →
        other.take (sealedText.length - 16) = sealedText.take (sealedText.length - 16) →
          other ≠ sealedText → openText other password = .error .invalidPassword) ∧
    ∀ sealedText : Bytes,
      (sealedText.length < 44 →
        openText sealedText password = .error (tooShort sealedText.length)) ∧
      (44 ≤ sealedText.length → sealedText.length < 60 →
        openText sealedText password = .error .invalidPassword) := by
  refine ⟨fun text => ?_, fun salt nonce text hsalt hnonce => ?_, fun sealedText text h => ?_,
    fun sealedText => ⟨openText_of_short password, fun hle hlt => ?_⟩⟩
  · rw [sealFresh_apply]
    rfl
  · have hseal := sealText_eq nonce text password hsalt
    exact ⟨_, hseal, length_sealText hsalt hnonce hseal, openText_of_sealText hnonce hseal⟩
  · have hlength : sealedText.length = text.length + 60 := length_of_openText h
    refine ⟨?_, ?_, sealText_of_openText h, fun other => openText_of_tampered h⟩
    all_goals omega
  · rcases openText_cases password hle with ⟨text, h⟩ | h
    · have hlength : sealedText.length = text.length + 60 := length_of_openText h
      omega
    · exact h

/-- The empty text is sealed in sixty bytes, and opens no more once its tag is changed; what is shorter
is refused one way or the other. -/
theorem seal_inverse_open_empty :
    ∃ sealedText, sealText (Bytes.zeros 32) (Bytes.zeros 12) [] [0x70] = .ok sealedText ∧
      sealedText.length = 60 ∧ openText sealedText [0x70] = .ok [] ∧
      sealText (sealedText.take 32) ((sealedText.drop 32).take 12) [] [0x70] = .ok sealedText ∧
      openText (sealedText.take 44 ++ (sealedText.drop 44).map (· + 1)) [0x70] =
        .error .invalidPassword ∧
      openText (Bytes.zeros 43) [0x70] = .error (tooShort 43) ∧
      openText (Bytes.zeros 44) [0x70] = .error .invalidPassword ∧
      openText (Bytes.zeros 59) [0x70] = .error .invalidPassword := by
  obtain ⟨-, hseals, hopens, hshort⟩ := seal_inverse_open [0x70] ⟨(), ⟨fun _ => 0, 0⟩, 0, []⟩
  obtain ⟨sealedText, hseal, hlength, hopen⟩ :=
    hseals (Bytes.zeros 32) (Bytes.zeros 12) [] (by decide) (by decide)
  obtain ⟨-, -, hagain, htampered⟩ := hopens sealedText [] hopen
  refine ⟨sealedText, hseal, hlength, hopen, hagain, htampered _ ?_ ?_ ?_,
    (hshort (Bytes.zeros 43)).1 (by decide), (hshort (Bytes.zeros 44)).2 (by decide) (by decide),
    (hshort (Bytes.zeros 59)).2 (by decide) (by decide)⟩
  · simp [hlength]
  · rw [hlength]
    exact List.take_left' (by simp [hlength])
  · intro hsame
    have htag : (sealedText.drop 44).map (· + 1) = sealedText.drop 44 :=
      List.append_cancel_left (hsame.trans (List.take_append_drop 44 sealedText).symm)
    have hdrop : (sealedText.drop 44).length = 16 := by simp [hlength]
    rcases htail : sealedText.drop 44 with _ | ⟨b, bs⟩
    · simp [htail] at hdrop
    · simp [htail] at htag

end Sealing

end Keyring
