import Keyring.Proofs.Act
import Keyring.Container
import Keyring.Keys.Issuance
import Keyring.Tls.KeyManager

/-!
# Acts that only draw

Sealing, re-protecting a container, drawing keys, issuing certificates and deriving key managers use
up random bytes and report, but leave the world alone (`Act.Quiet`): only the collaborators of the
service work on it.  A key is not drawn without random bytes (`Keys.PrivateKey.fresh_used`), so that a
session tells whether one was.
-/

namespace Keyring

variable {W : Type}

namespace Sealing

theorem quiet_sealFresh (text password : Bytes) : (sealFresh text password : Act W Bytes).Quiet := by
  unfold sealFresh
  exact .bind (.draw _) fun salt => .bind (.draw _) fun nonce => .lift _

theorem quiet_freshPassword : (freshPassword : Act W Password).Quiet := by
  unfold freshPassword
  exact .bind (.draw _) fun bytes => .pure _

end Sealing

theorem StoredEntry.quiet_ofEntry (entry : Entry) (password : Password) :
    (StoredEntry.ofEntry entry password : Act W StoredEntry).Quiet := by
  unfold StoredEntry.ofEntry
  refine .bind .now fun now => ?_
  cases entry with
  | key e => exact .bind (Sealing.quiet_sealFresh _ _) fun sealedKey => .pure _
  | trusted e => exact .pure _

theorem StoredEntry.quiet_reprotect (stored : StoredEntry) (old new : Password) :
    (stored.reprotect old new : Act W StoredEntry).Quiet := by
  unfold StoredEntry.reprotect
  cases stored with
  | key sealedKey chain createdAt =>
    exact .bind (.lift _) fun key => .bind (Sealing.quiet_sealFresh _ _) fun sealedKey => .pure _
  | trusted certificate createdAt => exact .pure _

theorem Container.quiet_reprotect (container : Container) (old new : Password) :
    ((reprotect old new).onCopy container : Act W Container).Quiet := by
  rw [onCopy_reprotect]
  exact .foldlM (fun t x => .bind (x.2.quiet_reprotect old new) fun stored => .pure _) _ _

namespace Keys

theorem PrivateKey.quiet_drawScalar (curve : NamedCurve) (fuel : Nat) :
    (PrivateKey.drawScalar curve fuel : Act W (Option Nat)).Quiet := by
  induction fuel with
  | zero => exact .pure none
  | succ fuel ih =>
    refine .bind (.draw _) fun bytes => ?_
    split
    · exact .pure _
    · exact ih

theorem PrivateKey.quiet_fresh (algorithm : KeyAlgorithm) :
    (PrivateKey.fresh algorithm : Act W (Option PrivateKey)).Quiet := by
  cases algorithm with
  | ec curve => exact .bind (quiet_drawScalar curve _) fun scalar => .pure _
  | ed25519 => exact .bind (.draw _) fun seed => .pure _

/-- Drawing a scalar uses up random bytes, unless it is given up at once. -/
theorem PrivateKey.drawScalar_used (curve : NamedCurve) (fuel : Nat) (s : Session W) :
    (PrivateKey.drawScalar curve fuel).Ensures s fun _ t =>
      s.entropy.used + min 1 fuel ≤ t.entropy.used := by
  induction fuel generalizing s with
  | zero => exact .pure (Nat.le_refl _)
  | succ fuel ih =>
    have hsize : 1 ≤ curve.curve.size := by cases curve <;> decide
    refine .bind (p := fun _ t => t.entropy.used = s.entropy.used + curve.curve.size) rfl
      (fun bytes t ht => ?_) fun _ t ht => ?_
    · split
      · exact .pure (by omega)
      · exact (ih t).imp fun _ u hu => by omega
    · omega

/-- No key is drawn without random bytes. -/
theorem PrivateKey.fresh_used (algorithm : KeyAlgorithm) (s : Session W) :
    (PrivateKey.fresh algorithm).Ensures s fun _ t => s.entropy.used < t.entropy.used := by
  cases algorithm with
  | ec curve =>
    refine .bind (drawScalar_used curve attempts s) (fun _ t ht => .pure ?_) fun _ t ht => ?_
    all_goals exact Nat.lt_of_succ_le ht
  | ed25519 => exact Nat.lt_add_of_pos_right (by decide)

theorem PrivateKey.quiet_sign (k : PrivateKey) (message : Bytes) :
    (k.sign message : Act W (Option Bytes)).Quiet := by
  cases k with
  | ec curve scalar =>
    refine .bind (quiet_drawScalar curve _) fun nonce => ?_
    cases nonce with
    | none => exact .pure _
    | some nonce => exact .pure _
  | ed25519 seed => exact .pure _
  | rsa k => exact .pure _

theorem quiet_orFail {α : Type} (text : String) (found : Option α) :
    (orFail text found : Act W α).Quiet := by
  cases found with
  | none => exact .throw _
  | some a => exact .pure a

theorem quiet_keyPair (algorithm : KeyAlgorithm) (subject : String) (days : Nat) :
    (keyPair algorithm subject days : Act W KeyEntry).Quiet := by
  unfold keyPair
  refine .bind (.lift _) fun subject => .bind (PrivateKey.quiet_fresh _) fun drawn =>
    .bind (quiet_orFail _ _) fun key => .bind .now fun now => .bind (.lift _) fun period => ?_
  exact .bind (PrivateKey.quiet_sign _ _) fun signed => .bind (quiet_orFail _ _) fun signature =>
    .lift _

theorem quiet_request (entry : KeyEntry) (subject : String) :
    (request entry subject : Act W Request).Quiet := by
  unfold request
  refine .bind (.lift _) fun subject => .bind (quiet_orFail _ _) fun key =>
    .bind (PrivateKey.quiet_sign _ _) fun signed => ?_
  exact .bind (quiet_orFail _ _) fun signature => .pure _

end Keys

theorem Tls.KeyManager.quiet_ofContainer (container : Container) (password : Password)
    (algorithm : String) :
    (Tls.KeyManager.ofContainer container password algorithm :
      Act W (List Tls.KeyManager)).Quiet := by
  unfold Tls.KeyManager.ofContainer
  exact .bind (.lift _) fun algorithm => .bind (.lift _) fun keys =>
    .bind (.report _ _ _) fun _ => .pure _

end Keyring
