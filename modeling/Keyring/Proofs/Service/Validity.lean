import Keyring.Proofs.Aliases
import Keyring.Proofs.Issuance
import Keyring.Proofs.Service.Atomicity
import Keyring.Proofs.Service.Changing

/-!
# Key pairs that would outlive the calendar

The service draws key pairs with a certificate that is valid for some days from now on.  Where the end
of the days is behind the last representable second there is no such certificate, and nothing of the
service stands in between: `createKeyPair_overflows_iff` says that a key pair with a name is given up
for that reason just if a container is served and `Keys.keyPair` gives it up.  What the collaborators
fail with is another matter, since it is always told as a failed decryption or as a failed write
(`kind_of_storeEntry`).

`overflow_exact` says from the calendar to the service when a key pair has no end, and
`not_period_total` that days of 32 bits may lead there.
-/

namespace Keyring.Service

open Operation Calendar Keys

variable {W : Type} (c : Collaborators W)

/-- An entry that is not put has not been decrypted or not been written, whatever the collaborators
failed with. -/
theorem kind_of_storeEntry (name : String) (entry : Entry) (store : LoadedStore) (s : Session W) :
    (storeEntry c name entry).Ensures (.loaded store) s fun r _ _ =>
      ∀ e, r = .error e → e.kind = .secretDecryption ∨ e.kind = .storePersist := by
  refine storeEntry_ensures c (Act.Ensures.mapError (p := fun _ _ => True) trivial ?_ ?_)
  · intro password t _ stored u _ _
    refine .of_forall fun r v w _ => ?_
    cases r with
    | ok _ => exact fun e he => by cases he
    | error cause =>
      rintro _ ⟨⟩
      exact .inr (Error.kind_classify .storePersist (fun _ => rfl) cause)
  · rintro cause t - _ ⟨⟩
    exact .inl (Error.kind_classify .secretDecryption (fun _ => rfl) cause)

/-- **The service gives up a key pair over its validity just where the key pair itself is.** -/
theorem createKeyPair_overflows_iff (name : String) (algorithm : KeyAlgorithm) (subject : String)
    (days : Nat) (st : State) (s : Session W) :
    (createKeyPair c name algorithm subject days st s).1.1 = .error .validityOverflow ↔
      name ≠ "" ∧ (∃ store, st = .loaded store) ∧
        (keyPair algorithm subject days s).1 = .error .validityOverflow := by
  suffices h : (createKeyPair c name algorithm subject days).Ensures st s fun r _ _ =>
      r = .error .validityOverflow ↔ name ≠ "" ∧ (∃ store, st = .loaded store) ∧
        (keyPair algorithm subject days s).1 = .error .validityOverflow from h
  unfold createKeyPair
  split
  · rename_i hempty
    refine iff_of_false (fun h => ?_) fun h => h.1 (String.isEmpty_iff.1 hempty)
    cases h
  · rename_i hempty
    have hname : name ≠ "" := mt String.isEmpty_iff.2 hempty
    cases st with
    | uninitialized | closed =>
      refine iff_of_false (fun h => ?_) fun h => ?_
      · cases h
      · obtain ⟨store, hstore⟩ := h.2.1
        cases hstore
    | loaded store =>
      rw [and_iff_right hname, and_iff_right ⟨store, rfl⟩]
      refine .bind (p := fun r st t => st = .loaded store ∧ s = t ∧ ∃ u, r = .ok u) ⟨rfl, rfl, (), rfl⟩
        ?_ ?_
      · rintro _ _ _ ⟨rfl, rfl, -⟩
        refine .bind_perform (p := fun r _ => (keyPair algorithm subject days s).1 = r) rfl ?_ ?_
        · intro e t hdrawn
          refine .bind_pure ((kind_of_storeEntry c name (.key e) store t).imp fun r _ _ hr => ?_)
          rw [hdrawn]
          refine iff_of_false (fun h => ?_) fun h => ?_
          · -- putting the entry fails over something else
            cases r with
            | ok _ => cases h
            | error e' =>
              obtain rfl : e' = .validityOverflow := Except.error.inj h
              cases hr _ rfl with
              | inl hkind => cases hkind
              | inr hkind => cases hkind
          · cases h
        · intro e t herror
          rw [herror]
      · rintro e _ _ ⟨-, -, u, h⟩
        cases h

/-- **A key pair overflows just if its validity would end behind the year 9999.**  From any
representable point in time, a period of some days is complete just if its end is representable, and
then it begins there and lasts exactly these days.  Drawing a key pair, and creating one under a name
where a container is served, are given up over the period just if that end is not representable, provided
that the subject is one and a key was drawn. -/
theorem overflow_exact :
    (∀ (now : Moment) (days : Nat),
      ((∃ period, Period.ofDays now days = .ok period) ↔
        now.seconds + (days * 86400 : Nat) ≤ lastSecond) ∧
      ∀ period, Period.ofDays now days = .ok period ↔ period.notBefore = now ∧
        period.notAfter.seconds - period.notBefore.seconds = (days * 86400 : Nat)) ∧
    ∀ (algorithm : KeyAlgorithm) (subject : String) (days : Nat) (s : Session W),
      ((keyPair algorithm subject days s).1 = .error .validityOverflow ↔
        Draws algorithm subject s ∧ lastSecond < s.now + days * 86400) ∧
      ∀ (name : String) (st : State),
        ((createKeyPair c name algorithm subject days st s).1.1 = .error .validityOverflow ↔
          name ≠ "" ∧ (∃ store, st = .loaded store) ∧ Draws algorithm subject s ∧
            lastSecond < s.now + days * 86400) := by
  refine ⟨fun now days => ⟨Period.exists_ofDays_iff, fun period => ?_⟩, fun algorithm subject days s =>
    ⟨keyPair_overflows_iff algorithm subject days s, fun name st => ?_⟩⟩
  · rw [Period.ofDays_eq_ok_iff]
    refine and_congr_right fun hnow => ?_
    subst hnow
    exact Int.sub_eq_iff_eq_add'.symm
  · rw [createKeyPair_overflows_iff, keyPair_overflows_iff]
    rfl

/-- The start of 1970. -/
def epoch : Moment := ⟨0, firstSecond_le_zero, Int.natCast_nonneg lastSecond⟩

/-- From the start of 1970 on, the most days that thirty-two bits hold have no end, and a key pair for
them is given up, both when it is drawn and when it is to be put under a name. -/
theorem not_period_total :
    (¬ ∀ (now : Moment) (days : Nat), days < UInt32.size →
      ∃ period, Period.ofDays now days = .ok period ∧
        period.notAfter.seconds - period.notBefore.seconds = (days * 86400 : Nat)) ∧
    (keyPair .ed25519 "CN=gateway" 4294967295 refusingSession).1 = .error .validityOverflow ∧
    (createKeyPair .refusing "gateway" .ed25519 "CN=gateway" 4294967295 (.loaded oneEntry)
      refusingSession).1.1 = .error .validityOverflow := by
  have hpair : (keyPair .ed25519 "CN=gateway" 4294967295 refusingSession).1 =
      .error .validityOverflow :=
    (keyPair_overflows_iff _ _ _ _).2 ⟨⟨⟨_, rfl⟩, _, rfl⟩, by decide⟩
  refine ⟨fun h => ?_, hpair, (createKeyPair_overflows_iff _ _ _ _ _ _ _).2
    ⟨by decide, ⟨_, rfl⟩, hpair⟩⟩
  obtain ⟨period, hperiod, -⟩ := h epoch 4294967295 (by decide)
  have hlast := Period.exists_ofDays_iff.1 ⟨period, hperiod⟩
  revert hlast
  decide

end Keyring.Service
