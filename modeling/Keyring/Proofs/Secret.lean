import Keyring.Proofs.Sealing
import Keyring.Proofs.Text.Hex
import Keyring.Secret

/-!
# Secrets read back

What the cipher that seals secrets under a master passphrase does with any password and with any text.

* `Cipher.Conceals` : a text is the digits of a sealed text that opens as the bytes of a password;
* `Cipher.Unreadable` : what is wrong with every other text, and what is said of it;
* `Cipher.openSecret_cases` : a text is one or the other, and which of the two decides how it is
  decrypted;
* `Cipher.sealing_exact` : every password is encrypted as a text that conceals it, in letters of
  either case, and no text fails to be decrypted with another kind of error.
-/

namespace Keyring

namespace Cipher

variable {W : Type}

/-! ### Decrypting -/

/-- A text whose digits open as the bytes of a password. -/
def Conceals (master secret plain : Password) : Prop :=
  ∃ sealedText, Text.Hex.decode secret.bytes = .ok sealedText ∧
    Sealing.openText sealedText master.bytes = .ok plain.bytes

/-- What is wrong with a text that conceals no password, in words. -/
inductive Unreadable (master secret : Password) : String → Prop where
  /-- The text is not hexadecimal. -/
  | digits {fault : Text.Hex.Error} (h : Text.Hex.decode secret.bytes = .error fault) :
      Unreadable master secret ("Secret is not valid hex: " ++ fault.message)
  /-- The digits do not open under the master passphrase. -/
  | blob {sealedText : Bytes} {fault : Error}
      (hdigits : Text.Hex.decode secret.bytes = .ok sealedText)
      (h : Sealing.openText sealedText master.bytes = .error fault) :
      Unreadable master secret fault.text
  /-- What opens is not the bytes of a text. -/
  | plain {sealedText bytes : Bytes} (hdigits : Text.Hex.decode secret.bytes = .ok sealedText)
      (hopen : Sealing.openText sealedText master.bytes = .ok bytes)
      (h : ¬ Bytes.IsText bytes) : Unreadable master secret "Decrypted secret is not UTF-8"

theorem Conceals.openSecret_eq {master secret plain : Password} (h : Conceals master secret plain) :
    openSecret master secret = .ok plain := by
  obtain ⟨sealedText, hdigits, hopen⟩ := h
  have htext : Bytes.toString? plain.bytes = some plain.text := Bytes.toString?_ofString plain.text
  simp only [openSecret, hdigits, hopen, mapError_ok, bind, Except.bind, htext]
  rfl

/-- A text conceals a password, which it is decrypted as, or is refused for what is wrong with it. -/
theorem openSecret_cases (master secret : Password) :
    (∃ plain, Conceals master secret plain ∧ openSecret master secret = .ok plain) ∨
      ∃ reason, Unreadable master secret reason ∧
        openSecret master secret = .error (.secretDecryption reason) := by
  cases hdigits : Text.Hex.decode secret.bytes with
  | error fault =>
    refine .inr ⟨_, .digits hdigits, ?_⟩
    rw [openSecret, hdigits]
    rfl
  | ok sealedText =>
    cases hopen : Sealing.openText sealedText master.bytes with
    | error fault =>
      refine .inr ⟨_, .blob hdigits hopen, ?_⟩
      simp only [openSecret, hdigits, hopen, mapError_ok, bind, Except.bind]
      rfl
    | ok bytes =>
      cases htext : Bytes.toString? bytes with
      | none =>
        have hbytes : ¬ Bytes.IsText bytes := fun h => h.toString?_ne_none htext
        refine .inr ⟨_, .plain hdigits hopen hbytes, ?_⟩
        simp only [openSecret, hdigits, hopen, mapError_ok, bind, Except.bind, htext]
        rfl
      | some text =>
        obtain rfl := Bytes.eq_ofString_of_toString? htext
        have hconceals : Conceals master secret ⟨text⟩ := ⟨sealedText, hdigits, hopen⟩
        exact .inl ⟨⟨text⟩, hconceals, hconceals.openSecret_eq⟩

/-! ### Encrypting -/

/-- A password is encrypted as a text that conceals it, whatever the case of its letters. -/
theorem encrypt_conceals (master plain : Password) (s : Session W) :
    ((sealing master).encrypt plain).Ensures s fun r _ =>
      ∃ secret, r = .ok secret ∧
        ∀ written : Password, Text.sameIgnoringCase written.text secret.text = true →
          Conceals master written plain := by
  -- sealing does not fail, so there is no error to put into words
  have hseal : (Act.mapError (fun e => Error.secretEncryption e.text)
      (Sealing.sealFresh plain.bytes master.bytes)).Ends s
        (fun sealedText _ => Sealing.openText sealedText master.bytes = .ok plain.bytes)
        fun _ => False :=
    .mapError (Sealing.sealFresh_succeeds plain.bytes master.bytes s)
  refine Act.Ensures.bind hseal (fun sealedText t hopen => .pure ?_) fun _ _ h => h.elim
  refine ⟨_, rfl, fun written hwritten => ?_⟩
  exact ⟨sealedText, Text.Hex.decode_of_sameIgnoringCase hwritten, hopen⟩

/-! ### Both directions -/

/-- **Sealed secrets are read back.**  Under any master passphrase, encrypting a password does not
fail, and the text that it gives is decrypted as the password, also after its letters were put into
the other case.  Any other text whatsoever is decrypted as the password that it conceals, or refused as
a secret that cannot be decrypted, with the reason: it is not hexadecimal, it does not open, or what
opens is not UTF-8.  Nothing else is touched by decrypting. -/
theorem sealing_exact (master : Password) :
    (∀ (plain : Password) (s : Session W),
      ∃ secret, ((sealing master).encrypt plain s).1 = .ok secret ∧
        ∀ written : Password, Text.sameIgnoringCase written.text secret.text = true →
          ∀ t : Session W, (sealing master).decrypt written t = (.ok plain, t)) ∧
    ∀ (secret : Password) (t : Session W),
      (∃ plain, Conceals master secret plain ∧ (sealing master).decrypt secret t = (.ok plain, t)) ∨
        ∃ reason, Unreadable master secret reason ∧
          (sealing master).decrypt secret t = (.error (.secretDecryption reason), t) := by
  have hdecrypt : ∀ (secret : Password) (t : Session W),
      (sealing master).decrypt secret t = (openSecret master secret, t) := fun secret t =>
    Act.liftM_apply _ t
  constructor
  · intro plain s
    obtain ⟨secret, hsecret, hwritten⟩ := encrypt_conceals master plain s
    refine ⟨secret, hsecret, fun written hsame t => ?_⟩
    rw [hdecrypt, (hwritten written hsame).openSecret_eq]
  · intro secret t
    simp only [hdecrypt]
    rcases openSecret_cases master secret with ⟨plain, hplain, h⟩ | ⟨reason, hreason, h⟩
    · exact .inl ⟨plain, hplain, by rw [h]⟩
    · exact .inr ⟨reason, hreason, by rw [h]⟩

/-- A password with a letter outside ASCII is read back from capital digits, by whoever knows the
passphrase; a password in the clear is no secret. -/
theorem sealing_exact_capitals :
    let session : Session Unit := ⟨(), ⟨fun _ => 0xab, 0⟩, 0, []⟩
    (∃ secret, ((sealing ⟨"master"⟩).encrypt ⟨"schlüssel"⟩ session).1 = .ok secret ∧
      (sealing ⟨"master"⟩).decrypt ⟨String.ofList (secret.text.toList.map Char.toUpper)⟩ session =
        (.ok ⟨"schlüssel"⟩, session)) ∧
    (sealing ⟨"master"⟩).decrypt ⟨"changeit"⟩ session =
      (.error (.secretDecryption "Secret is not valid hex: Invalid character 'h' at position 1"),
        session) := by
  intro session
  obtain ⟨hencrypt, -⟩ := sealing_exact (W := Unit) ⟨"master"⟩
  obtain ⟨secret, hsecret, hread⟩ := hencrypt ⟨"schlüssel"⟩ session
  have hdigits : Text.Hex.decode (Password.bytes ⟨"changeit"⟩) = .error (.invalidDigit 0x68 1) := by
    rfl
  have hclear : openSecret ⟨"master"⟩ ⟨"changeit"⟩ =
      .error (.secretDecryption "Secret is not valid hex: Invalid character 'h' at position 1") := by
    rw [openSecret, hdigits]
    rfl
  exact ⟨⟨secret, hsecret, hread _ (Text.Hex.sameIgnoringCase_toUpper _) session⟩,
    (Act.liftM_apply _ session).trans (by rw [hclear])⟩

end Cipher

end Keyring
