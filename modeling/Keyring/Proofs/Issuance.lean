import Keyring.Keys.Issuance
import Keyring.Proofs.Act

/-!
# When a validity period has no end

A certificate is issued for some days from now on.  The end of its validity has to be a representable
point in time, of which the last one is the end of the year 9999; there is no such end if the days lead
behind that (`Period.exists_ofDays_iff`), and nothing else is wrong with a period
(`Period.ofDays_eq_ok_iff`).

`keyPair_overflows_iff` : a key pair is given up for that reason just if the subject is one, a key was
drawn and the clock and the days together lead behind the last second.  Nothing before and nothing behind
the period blames it: `blames_sign`, `blames_orFail` and `KeyEntry.blames_of` say what else a key pair
may fail with.
-/

namespace Keyring

/-- Only a certificate can be at fault in a check of certificates. -/
theorem kind_of_forM_readCertificate {chain : List Bytes} {e : Error}
    (h : (chain.forM fun certificate => discard (readCertificate certificate)) = .error e) :
    e.kind = .certificate := by
  rw [List.forM_eq_forM] at h
  induction chain with
  | nil => cases h
  | cons certificate chain ih =>
    rw [List.forM_cons] at h
    rcases bind_eq_error_iff.1 h with h | ⟨_, -, h⟩
    · rw [readCertificate] at h
      split at h
      · cases h
      · obtain rfl := Except.error.inj h
        rfl
    · exact ih h

/-- What makes no entry has an empty part or a certificate that is none. -/
theorem KeyEntry.kind_of_of {key : Bytes} {chain : List Bytes} {e : Error}
    (h : KeyEntry.of key chain = .error e) :
    e.kind = .invalidArgument ∨ e.kind = .certificate := by
  by_cases hkey : key = []
  · rw [KeyEntry.of, if_pos hkey] at h
    obtain rfl := Except.error.inj h
    exact .inl rfl
  · by_cases hchain : chain = []
    · rw [KeyEntry.of, if_neg hkey, if_pos hchain] at h
      obtain rfl := Except.error.inj h
      exact .inl rfl
    · rw [KeyEntry.of, if_neg hkey, if_neg hchain] at h
      rcases bind_eq_error_iff.1 h with h | ⟨_, -, h⟩
      · exact .inr (kind_of_forM_readCertificate h)
      · cases h

namespace Keys

open Calendar

variable {W : Type}

/-! ### Periods -/

namespace Period

theorem ofDays_eq_ok_iff {now : Moment} {days : Nat} {period : Period} :
    ofDays now days = .ok period ↔
      period.notBefore = now ∧
        period.notAfter.seconds = now.seconds + (days * secondsPerDay : Nat) := by
  rw [ofDays, ← Moment.addDays?_eq_some_iff]
  obtain ⟨notBefore, notAfter⟩ := period
  cases now.addDays? days with
  | none => simp
  | some last => simp [eq_comm]

theorem exists_ofDays_iff {now : Moment} {days : Nat} :
    (∃ period, ofDays now days = .ok period) ↔
      now.seconds + (days * secondsPerDay : Nat) ≤ lastSecond := by
  rw [ofDays, ← Moment.exists_addDays?_iff]
  cases now.addDays? days <;> simp

theorem ofDays_eq_error_iff {now : Moment} {days : Nat} {e : Error} :
    ofDays now days = .error e ↔
      e = .validityOverflow ∧ lastSecond < now.seconds + (days * secondsPerDay : Nat) := by
  rw [← Int.not_le, ← Moment.exists_addDays?_iff, ofDays]
  cases now.addDays? days with
  | none => simp [eq_comm]
  | some last => simp

end Period

/-- By the clock, there is no period just if its end is behind the last second. -/
theorem validity_eq_error_iff {now days : Nat} {e : Error} :
    validity now days = .error e ↔
      e = .validityOverflow ∧ lastSecond < now + days * secondsPerDay := by
  rw [validity]
  split
  · rename_i m hm
    have hseconds : m.seconds = now := Moment.ofClock?_eq_some_iff.1 hm
    rw [bind_eq_error_iff, Period.ofDays_eq_error_iff, hseconds]
    simp only [pure, Except.pure, reduceCtorEq, and_false, exists_false, or_false,
      and_congr_right_iff]
    omega
  · -- the clock itself is behind the last second
    rename_i hm
    have hnow := Moment.ofClock?_eq_none_iff.1 hm
    simp only [Except.error.injEq, eq_comm, iff_self_and]
    omega

/-! ### Key pairs -/

theorem PrivateKey.blames_drawScalar {p : Error → Prop} (curve : NamedCurve) (fuel : Nat) :
    (PrivateKey.drawScalar curve fuel : Act W (Option Nat)).Blames p := by
  induction fuel with
  | zero => exact .pure none
  | succ fuel ih =>
    refine .bind (.draw _) fun bytes => ?_
    split
    · exact .pure _
    · exact ih

/-- Signing is no act that fails, though there may be no signature. -/
theorem PrivateKey.blames_sign {p : Error → Prop} (k : PrivateKey) (message : Bytes) :
    (k.sign message : Act W (Option Bytes)).Blames p := by
  cases k with
  | ec curve scalar =>
    refine .bind (blames_drawScalar curve _) fun nonce => ?_
    cases nonce with
    | none => exact .pure _
    | some nonce => exact .pure _
  | ed25519 seed => exact .pure _
  | rsa k => exact .pure _

theorem blames_orFail {α : Type} {p : Error → Prop} (text : String) (found : Option α)
    (h : p (.certificate text)) : (orFail text found : Act W α).Blames p := by
  cases found with
  | none => exact .throw h
  | some a => exact .pure a

theorem PrivateKey.drawScalar_now (curve : NamedCurve) (fuel : Nat) (s : Session W) :
    (PrivateKey.drawScalar curve fuel).Ensures s fun r t => t.now = s.now ∧ ∃ found, r = .ok found := by
  induction fuel generalizing s with
  | zero => exact .pure ⟨rfl, none, rfl⟩
  | succ fuel ih =>
    refine .bind (p := fun r t => t.now = s.now ∧ ∃ bytes, r = .ok bytes) ⟨rfl, _, rfl⟩
      (fun bytes t ht => ?_) fun e t h => by cases h.2.choose_spec
    split
    · exact .pure ⟨ht.1, _, rfl⟩
    · exact (ih t).imp fun r u hu => ⟨hu.1.trans ht.1, hu.2⟩

/-- Drawing a key does not fail, though there may be no key, and takes no time. -/
theorem PrivateKey.fresh_now (algorithm : KeyAlgorithm) (s : Session W) :
    (PrivateKey.fresh algorithm).Ensures s fun r t => t.now = s.now ∧ ∃ found, r = .ok found := by
  cases algorithm with
  | ec curve =>
    refine .bind (drawScalar_now curve attempts s) (fun scalar t ht => .pure ⟨ht.1, _, rfl⟩)
      fun e t h => by cases h.2.choose_spec
  | ed25519 => exact ⟨rfl, _, rfl⟩

/-- The subject of a key pair is one, and a key is drawn for it. -/
structure Draws (algorithm : KeyAlgorithm) (subject : String) (s : Session W) : Prop where
  subject : ∃ found, X509.Subject.ofArgument subject = .ok found
  key : ∃ key, (PrivateKey.fresh algorithm s).1 = .ok (some key)

/-- What is no subject is refused as an argument. -/
theorem ofArgument_eq_error {subject : String} {e : Error}
    (h : X509.Subject.ofArgument subject = .error e) :
    ∃ fault : X509.SubjectFault, e = .invalidArgument fault.text := by
  rw [X509.Subject.ofArgument] at h
  cases hparse : X509.Subject.parse subject with
  | error fault =>
    rw [hparse] at h
    exact ⟨fault, (Except.error.inj h).symm⟩
  | ok found =>
    rw [hparse] at h
    cases h

/-- What comes behind the period of a certificate does not fail over a period. -/
theorem blames_signed (key : PrivateKey) (body : Bytes) (signed : Bytes → Bytes) :
    Act.Blames (W := W) (do
        let signature ← orFail ("Failed to serialize certificate: " ++ unspecified)
          (← key.sign body)
        KeyEntry.of key.encode [signed signature])
      fun e => e ≠ .validityOverflow := by
  refine .bind (PrivateKey.blames_sign key body) fun found =>
    .bind (blames_orFail _ found (by simp)) fun signature => .lift fun e he => ?_
  rintro rfl
  cases KeyEntry.kind_of_of he with
  | inl h => cases h
  | inr h => cases h

/-- **A key pair overflows just if its validity has no end.** -/
theorem keyPair_overflows_iff (algorithm : KeyAlgorithm) (subject : String) (days : Nat)
    (s : Session W) :
    (keyPair algorithm subject days s).1 = .error .validityOverflow ↔
      Draws algorithm subject s ∧ lastSecond < s.now + days * secondsPerDay := by
  suffices h : (keyPair algorithm subject days).Ensures s fun r _ =>
      r = .error .validityOverflow ↔
        Draws algorithm subject s ∧ lastSecond < s.now + days * secondsPerDay from h
  unfold keyPair
  refine .bind (p := fun r t => X509.Subject.ofArgument subject = r ∧ s = t) (.lift ⟨rfl, rfl⟩) ?_ ?_
  · rintro found _ ⟨hsubject, rfl⟩
    refine .bind (p := fun r t => (PrivateKey.fresh algorithm s).1 = r ∧ t.now = s.now)
      ⟨rfl, (PrivateKey.fresh_now algorithm s).1⟩ ?_ ?_
    · rintro drawn t ⟨hdrawn, hnow⟩
      cases drawn with
      | none =>
        refine iff_of_false (fun h => by cases h) fun h => ?_
        obtain ⟨key, hkey⟩ := h.1.key
        cases hdrawn.symm.trans hkey
      | some key =>
        have hdraws : Draws algorithm subject s := ⟨⟨found, hsubject⟩, key, hdrawn⟩
        refine .bind (p := fun r u => .ok key = r ∧ t = u) ⟨rfl, rfl⟩ ?_ (fun e _ h => by cases h.1)
        rintro _ _ ⟨⟨⟩, rfl⟩
        refine .bind (p := fun r u => .ok t.now = r ∧ t = u) ⟨rfl, rfl⟩ ?_ (fun e _ h => by cases h.1)
        rintro _ _ ⟨⟨⟩, rfl⟩
        refine .bind (p := fun r _ => validity t.now days = r) (.lift rfl) ?_ ?_
        · rintro ⟨notBefore, notAfter⟩ u hvalid
          refine (blames_signed key _ _ u).imp fun r _ hr => iff_of_false (fun h => hr _ h rfl) ?_
          rintro ⟨-, hlast⟩
          rw [← hnow] at hlast
          cases hvalid.symm.trans (validity_eq_error_iff.2 ⟨rfl, hlast⟩)
        · intro e u hvalid
          obtain ⟨rfl, hlast⟩ := validity_eq_error_iff.1 hvalid
          exact iff_of_true rfl ⟨hdraws, hnow ▸ hlast⟩
    · rintro e t ⟨he, -⟩
      obtain ⟨-, found, hok⟩ := PrivateKey.fresh_now algorithm s
      cases he.symm.trans hok
  · rintro e _ ⟨hsubject, -⟩
    obtain ⟨fault, rfl⟩ := ofArgument_eq_error hsubject
    refine iff_of_false (fun h => by cases h) fun h => ?_
    obtain ⟨found, hfound⟩ := h.1.subject
    cases hsubject.symm.trans hfound

end Keys

end Keyring
