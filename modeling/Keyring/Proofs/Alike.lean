import Keyring.Proofs.Act
import Keyring.Container
import Keyring.Keys.Issuance
import Keyring.Tls.KeyManager

/-!
# Acts on two worlds

`Act.Alike f act act'` : whenever the world of `act'` is the image under `f` of the world of `act`, the
two give the same result, use up the same random bytes, report the same, and end in such worlds again.
There is one rule for each way to build an act.

An act that can be run in every world does not look at it, and so is like itself in any two worlds.
That cannot be said of all such acts at once, so it is proved along the text of each: sealing,
re-protecting a container, drawing keys, issuing certificates and deriving key managers.
-/

namespace Keyring

variable {V W α β : Type}

/-- A session on the image of a world. -/
def Session.map (f : V → W) (s : Session V) : Session W := { s with world := f s.world }

namespace Act

/-- Two acts do the same on a world and its image. -/
def Alike (f : V → W) (act : Act V α) (act' : Act W α) : Prop :=
  ∀ s, act' (s.map f) = ((act s).1, (act s).2.map f)

namespace Alike

variable {f : V → W}

theorem pure (a : α) : Alike f (Pure.pure a) (Pure.pure a) := fun _ => rfl

theorem throw (e : Error) : Alike f (MonadExcept.throw e : Act V α) (MonadExcept.throw e) :=
  fun _ => rfl

theorem lift (x : Except Error α) : Alike f (liftM x) (liftM x) := fun s => by
  rw [liftM_apply, liftM_apply]

theorem now : Alike f Act.now Act.now := fun _ => rfl

theorem draw (count : Nat) : Alike f (Act.draw count) (Act.draw count) := fun _ => rfl

theorem report (level : Level) (message : String) (fields : List (String × String)) :
    Alike f (Act.report level message fields) (Act.report level message fields) := fun _ => rfl

theorem bind {act : Act V α} {act' : Act W α} {next : α → Act V β} {next' : α → Act W β}
    (h : Alike f act act') (hnext : ∀ a, Alike f (next a) (next' a)) :
    Alike f (act >>= next) (act' >>= next') := by
  intro s
  rw [bind_apply, bind_apply, h s]
  rcases act s with ⟨e | a, t⟩
  · rfl
  · exact hnext a t

theorem tryCatch {act : Act V α} {act' : Act W α} {handle : Error → Act V α}
    {handle' : Error → Act W α} (h : Alike f act act') (hhandle : ∀ e, Alike f (handle e) (handle' e)) :
    Alike f (MonadExcept.tryCatch act handle) (MonadExcept.tryCatch act' handle') := by
  intro s
  rw [tryCatch_apply, tryCatch_apply, h s]
  rcases act s with ⟨e | a, t⟩
  · exact hhandle e t
  · rfl

theorem mapError {act : Act V α} {act' : Act W α} {g : Error → Error} (h : Alike f act act') :
    Alike f (Act.mapError g act) (Act.mapError g act') :=
  tryCatch h fun _ => throw _

theorem foldlM {step : β → α → Act V β} {step' : β → α → Act W β}
    (h : ∀ b a, Alike f (step b a) (step' b a)) (b : β) (xs : List α) :
    Alike f (xs.foldlM step b) (xs.foldlM step' b) := by
  induction xs generalizing b with
  | nil => exact .pure b
  | cons x xs ih =>
    rw [List.foldlM_cons, List.foldlM_cons]
    exact (h b x).bind ih

end Alike

end Act

/-! ### Acts that do not look at the world -/

variable {f : V → W}

theorem Sealing.alike_sealFresh (text password : Bytes) :
    Act.Alike f (sealFresh text password) (sealFresh text password) :=
  .bind (.draw _) fun _ => .bind (.draw _) fun _ => .lift _

theorem Sealing.alike_freshPassword : Act.Alike f freshPassword freshPassword :=
  .bind (.draw _) fun _ => .pure _

theorem StoredEntry.alike_ofEntry (entry : Entry) (password : Password) :
    Act.Alike f (ofEntry entry password) (ofEntry entry password) := by
  refine .bind .now fun now => ?_
  cases entry with
  | key e => exact .bind (Sealing.alike_sealFresh _ _) fun sealedKey => .pure _
  | trusted e => exact .pure _

theorem StoredEntry.alike_reprotect (stored : StoredEntry) (old new : Password) :
    Act.Alike f (stored.reprotect old new) (stored.reprotect old new) := by
  cases stored with
  | key sealedKey chain createdAt =>
    exact .bind (.lift _) fun key => .bind (Sealing.alike_sealFresh _ _) fun sealedKey => .pure _
  | trusted certificate createdAt => exact .pure _

theorem Container.alike_reprotect (container : Container) (old new : Password) :
    Act.Alike f ((reprotect old new).onCopy container) ((reprotect old new).onCopy container) := by
  rw [onCopy_reprotect, onCopy_reprotect]
  exact .foldlM (fun _ x => .bind (x.2.alike_reprotect old new) fun _ => .pure _) _ _

theorem Container.alike_set (container : Container) (name : String) (entry : Entry)
    (password : Password) :
    Act.Alike f (container.set name entry password) (container.set name entry password) :=
  .bind (StoredEntry.alike_ofEntry entry password) fun _ => .pure _

namespace Keys

theorem PrivateKey.alike_drawScalar (curve : NamedCurve) (fuel : Nat) :
    Act.Alike f (drawScalar curve fuel) (drawScalar curve fuel) := by
  induction fuel with
  | zero => exact .pure none
  | succ fuel ih =>
    refine .bind (.draw _) fun bytes => ?_
    split
    · exact .pure _
    · exact ih

theorem PrivateKey.alike_fresh (algorithm : KeyAlgorithm) :
    Act.Alike f (fresh algorithm) (fresh algorithm) := by
  cases algorithm with
  | ec curve => exact .bind (alike_drawScalar curve _) fun scalar => .pure _
  | ed25519 => exact .bind (.draw _) fun seed => .pure _

theorem PrivateKey.alike_sign (k : PrivateKey) (message : Bytes) :
    Act.Alike f (k.sign message) (k.sign message) := by
  cases k with
  | ec curve scalar =>
    refine .bind (alike_drawScalar curve _) fun nonce => ?_
    cases nonce with
    | none => exact .pure _
    | some nonce => exact .pure _
  | ed25519 seed => exact .pure _
  | rsa k => exact .pure _

theorem alike_orFail (text : String) (found : Option α) :
    Act.Alike f (orFail text found) (orFail text found) := by
  cases found with
  | none => exact .throw _
  | some a => exact .pure a

theorem alike_keyPair (algorithm : KeyAlgorithm) (subject : String) (days : Nat) :
    Act.Alike f (keyPair algorithm subject days) (keyPair algorithm subject days) :=
  .bind (.lift _) fun _ => .bind (PrivateKey.alike_fresh _) fun _ =>
    .bind (alike_orFail _ _) fun _ => .bind .now fun _ => .bind (.lift _) fun _ =>
      .bind (PrivateKey.alike_sign _ _) fun _ => .bind (alike_orFail _ _) fun _ => .lift _

theorem alike_request (entry : KeyEntry) (subject : String) :
    Act.Alike f (request entry subject) (request entry subject) :=
  .bind (.lift _) fun _ => .bind (alike_orFail _ _) fun _ =>
    .bind (PrivateKey.alike_sign _ _) fun _ => .bind (alike_orFail _ _) fun _ => .pure _

end Keys

theorem Tls.KeyManager.alike_ofContainer (container : Container) (password : Password)
    (algorithm : String) :
    Act.Alike f (ofContainer container password algorithm)
      (ofContainer container password algorithm) :=
  .bind (.lift _) fun _ => .bind (.lift _) fun _ => .bind (.report _ _ _) fun _ => .pure _

end Keyring
