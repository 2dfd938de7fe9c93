import Keyring.Proofs.Quiet
import Keyring.Proofs.Service.Operation

/-!
# The course of a session

What every call of a collaborator does to a session, the steps of the service do to it as well: they
call collaborators, draw, report and check, and nothing else.  So if the calls at a path take the
session along a course (`Collaborators.Along`), then so do opening a container there, putting it under
another password, putting it back, randomizing its password, and with these loading it and going over
to other options, whether they succeed or fail.
-/

namespace Keyring.Service

open Operation

variable {W : Type}

/-- The calls of collaborators that concern a path, and those of the cipher, go along a course. -/
structure Collaborators.Along (R : Session W → Session W → Prop) (c : Collaborators W)
    (path : Files.Path) : Prop where
  contains : Operation.Along R (c.backend.contains path)
  load (password : Password) : Operation.Along R (c.backend.load path password)
  store (container : Container) (password : Password) :
    Operation.Along R (c.backend.store container path password)
  decrypt (secret : Password) : Operation.Along R (c.cipher.decrypt secret)
  encrypt (password : Password) : Operation.Along R (c.cipher.encrypt password)

namespace Collaborators.Along

variable {R : Session W → Session W → Prop} [Course R] {c : Collaborators W} {path : Files.Path}

section

variable (H : c.Along R path)

include H

omit [Course R] in
theorem plainPassword (o : Config.Options) : Operation.Along R (plainPassword c o) :=
  .mapError (H.decrypt o.password)

theorem putBack (container : Container) (password : Password) (cause : Error) :
    Operation.Along R (putBack c container path password cause) :=
  .tryCatch (.bind (H.store container password) fun _ => .of_quiet (.pure _)) fun _ =>
    .bind (.of_quiet (.report _ _ _)) fun _ => .of_quiet (.pure _)

end

variable {o : Config.Options} (H : c.Along R o.path)

include H

theorem openContainer (password : Password) : Operation.Along R (openContainer c o password) := by
  refine .bind H.contains fun there => ?_
  split
  · exact .mapError (H.load password)
  · exact .bind (.of_quiet (.report _ _ _)) fun _ =>
      .bind (.mapError (H.store _ _)) fun _ => .of_quiet (.pure _)

theorem reprotect (container : Container) (old new : Password) :
    Operation.Along R (reprotect c container o old new) :=
  .bind (.mapError (.of_quiet (container.quiet_reprotect old new))) fun _ =>
    .bind (.mapError (H.store _ _)) fun _ => .of_quiet (.pure _)

theorem moveContainer (current : LoadedStore) (password : Password) :
    Operation.Along R (moveContainer c current o password) := by
  unfold Service.moveContainer
  split
  · exact .bind (.of_quiet (.report _ _ _)) fun _ =>
      .bind (H.openContainer password) fun _ => .of_quiet (.pure _)
  · split
    · refine .bind (H.plainPassword current.options) fun old => ?_
      split
      · exact .of_quiet (.pure _)
      · exact .bind (.of_quiet (.report _ _ _)) fun _ =>
          .bind (H.reprotect _ old password) fun _ => .of_quiet (.pure _)
    · exact .of_quiet (.pure _)

theorem randomize (hupdate : ∀ serviceId p, Operation.Along R (c.updateConfiguration serviceId p))
    (container : Container) (password : Password) :
    Operation.Along R (randomize c o container password) := by
  unfold Service.randomize
  split
  · refine .bind (.of_quiet Sealing.quiet_freshPassword) fun new => ?_
    refine .bind (.mapError (H.encrypt new)) fun secret => ?_
    refine .bind (H.reprotect container password new) fun reprotected => ?_
    have hsaved := Operation.Along.tryCatch (hupdate o.serviceId (o.withPassword secret)) fun e =>
      .bind (.of_quiet (.report .warn "failed to save regenerated password; restoring keystore"
        [("error", e.text)])) fun _ =>
          .bind (H.putBack container password (e.classify .configurationStore)) fun cause =>
            .of_quiet (.throw cause)
    exact .bind hsaved fun _ => .bind (.of_quiet (.report _ _ _)) fun _ =>
      .bind (.of_quiet (.lift _)) fun _ => .of_quiet (.pure _)
  · exact .of_quiet (.pure _)

theorem loadStore (hupdate : ∀ serviceId p, Operation.Along R (c.updateConfiguration serviceId p)) :
    Operation.Along R (Service.load c o) :=
  .bind (H.plainPassword o) fun password => .bind (H.openContainer password) fun container =>
    .bind (H.randomize hupdate container password) fun _ => .bind (.of_quiet (.report _ _ _)) fun _ =>
      .of_quiet (.pure _)

/-- Going over to other options may put a container back under the path in force, too. -/
theorem change (hupdate : ∀ serviceId p, Operation.Along R (c.updateConfiguration serviceId p))
    {current : LoadedStore} (hcurrent : c.Along R current.options.path) :
    Operation.Along R (Service.change c current o) := by
  refine .bind (H.plainPassword o) fun password => .bind (H.moveContainer current password) ?_
  rintro ⟨container, old⟩
  cases old with
  | none => exact H.randomize hupdate container password
  | some old =>
    exact .tryCatch (H.randomize hupdate container password) fun e =>
      .bind (hcurrent.putBack current.container old e) fun _ => .of_quiet (.throw _)

end Collaborators.Along

end Keyring.Service
