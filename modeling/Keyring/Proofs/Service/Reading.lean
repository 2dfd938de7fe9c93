import Keyring.Proofs.Quiet
import Keyring.Proofs.Service.Command
import Keyring.Proofs.Service.Operation

/-!
# Operations that only look

Most commands only look at the container (`Command.looks`).  They leave the state alone, and the only
collaborator that they call is the cipher, to decrypt: they take the session along every course that
decrypting takes (`Command.readOnly_run`).
-/

namespace Keyring.Service

open Operation

variable {W : Type} (c : Collaborators W) {R : Session W → Session W → Prop} [Course R]
  (hR : ∀ secret s, (c.cipher.decrypt secret).Ensures s fun _ t => R s t)

include hR

omit [Course R] in
theorem readOnly_plainPassword (o : Config.Options) : (perform (plainPassword c o)).ReadOnly R :=
  .perform fun s => Act.Ensures.mapError (hR o.password s) (fun _ _ ht => ht) fun _ _ ht => ht

theorem readOnly_entry (name : Option String) : ReadOnly R <| entry? c name := by
  unfold entry?
  refine .bind (.required _ _) fun name => .bind .loadedStore fun s => ?_
  split
  · exact .pure none
  · exact .bind (readOnly_plainPassword c hR _) fun password => .lift _

theorem readOnly_entries : (entries c).ReadOnly R := by
  unfold entries
  exact .bind .loadedStore fun s => .bind (readOnly_plainPassword c hR _) fun password => .lift _

theorem readOnly_keyManagers (algorithm : Option String) :
    (keyManagers c algorithm).ReadOnly R := by
  unfold keyManagers
  exact .bind (.required _ _) fun algorithm => .bind .loadedStore fun s =>
    .bind (readOnly_plainPassword c hR _) fun password =>
      .quiet (Tls.KeyManager.quiet_ofContainer _ _ _)

theorem readOnly_request (name subject : String) : (request c name subject).ReadOnly R := by
  unfold request
  refine .bind (readOnly_entry c hR _) fun found => ?_
  match found with
  | none => exact .throw _
  | some (.trusted _) => exact .throw _
  | some (.key e) => exact .quiet (Keys.quiet_request e subject)

omit hR

/-- The commands that only look. -/
def Command.looks : Command → Bool
  | .isActive | .store | .aliases | .entry _ | .entries | .keyManagers _ | .request .. => true
  | .activate _ | .reconfigure _ | .close | .setEntry .. | .deleteEntry _ | .createKeyPair .. => false

include hR

/-- A command that only looks leaves the state alone and takes the session where decrypting does. -/
theorem Command.readOnly_run {command : Command} (h : command.looks) :
    (command.run c).ReadOnly R := by
  cases command with
  | isActive => exact .bind .state fun _ => .pure _
  | store => exact .bind (.bind .loadedStore fun _ => .pure _) fun _ => .pure _
  | aliases => exact .bind (.bind .loadedStore fun _ => .pure _) fun _ => .pure _
  | entry name => exact .bind (readOnly_entry c hR name) fun _ => .pure _
  | entries => exact .bind (readOnly_entries c hR) fun _ => .pure _
  | keyManagers algorithm => exact .bind (readOnly_keyManagers c hR algorithm) fun _ => .pure _
  | request name subject => exact .bind (readOnly_request c hR name subject) fun _ => .pure _
  | activate | reconfigure | close | setEntry | deleteEntry | createKeyPair => cases h

end Keyring.Service
