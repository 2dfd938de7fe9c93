import Keyring.Proofs.Alike
import Keyring.Proofs.Service.Command
import Keyring.Proofs.Service.Operation

/-!
# The service sees the world through its collaborators

* `Collaborators.Alike` : the collaborators of two services do the same on a world and its image;
* `Command.alike_run` : then every command does the same on both: the services give the same answers,
  go through the same states, and end in a world and its image again.

So a service may be given collaborators that do more than others, as long as the image of the world
does not show it.
-/

namespace Keyring.Service

variable {V W α β : Type} {f : V → W}

/-- The collaborators of two services do the same on a world and its image. -/
structure Collaborators.Alike (f : V → W) (c : Collaborators V) (c' : Collaborators W) : Prop where
  contains (path : Files.Path) : Act.Alike f (c.backend.contains path) (c'.backend.contains path)
  load (path : Files.Path) (password : Password) :
    Act.Alike f (c.backend.load path password) (c'.backend.load path password)
  store (container : Container) (path : Files.Path) (password : Password) :
    Act.Alike f (c.backend.store container path password) (c'.backend.store container path password)
  decrypt (secret : Password) : Act.Alike f (c.cipher.decrypt secret) (c'.cipher.decrypt secret)
  encrypt (password : Password) : Act.Alike f (c.cipher.encrypt password) (c'.cipher.encrypt password)
  updateConfiguration (serviceId : Option String) (properties : Config.Properties) :
    Act.Alike f (c.updateConfiguration serviceId properties)
      (c'.updateConfiguration serviceId properties)

/-! ### Operations on two worlds -/

namespace Operation

/-- Two operations do the same on a world and its image. -/
def Alike (f : V → W) (op : Operation V α) (op' : Operation W α) : Prop :=
  ∀ st s, op' st (s.map f) = ((op st s).1, (op st s).2.map f)

namespace Alike

theorem pure (a : α) : Alike f (Pure.pure a) (Pure.pure a) := fun _ _ => rfl

theorem throw (e : Error) : Alike f (MonadExcept.throw e : Operation V α) (MonadExcept.throw e) :=
  fun _ _ => rfl

/-- Nothing follows an error. -/
theorem throw_bind (e : Error) (next : α → Operation V β) (next' : α → Operation W β) :
    Alike f (MonadExcept.throw e >>= next) (MonadExcept.throw e >>= next') := fun _ _ => rfl

theorem lift (x : Except Error α) : Alike f (liftM x) (liftM x) := fun st s => by
  rw [liftM_apply, liftM_apply]

theorem perform {act : Act V α} {act' : Act W α} (h : Act.Alike f act act') :
    Alike f (Service.perform act) (Service.perform act') := by
  intro st s
  rw [perform_apply, perform_apply, h s]

theorem state : Alike f Service.state Service.state := fun _ _ => rfl

theorem setState (new : State) : Alike f (Service.setState new) (Service.setState new) :=
  fun _ _ => rfl

theorem loadedStore : Alike f Service.loadedStore Service.loadedStore := by
  intro st s
  cases st <;> rfl

theorem required (argument : Option α) (text : String) :
    Alike f (Service.required argument text) (Service.required argument text) := by
  cases argument with
  | none => exact throw _
  | some a => exact pure a

theorem bind {op : Operation V α} {op' : Operation W α} {next : α → Operation V β}
    {next' : α → Operation W β} (h : Alike f op op') (hnext : ∀ a, Alike f (next a) (next' a)) :
    Alike f (op >>= next) (op' >>= next') := by
  intro st s
  rw [Edit.bind_apply, Edit.bind_apply, h st s]
  rcases op st s with ⟨⟨e | a, st'⟩, t⟩
  · rfl
  · exact hnext a st' t

theorem tryCatch {op : Operation V α} {op' : Operation W α} {handle : Error → Operation V α}
    {handle' : Error → Operation W α} (h : Alike f op op')
    (hhandle : ∀ e, Alike f (handle e) (handle' e)) :
    Alike f (MonadExcept.tryCatch op handle) (MonadExcept.tryCatch op' handle') := by
  intro st s
  rw [tryCatch_apply, tryCatch_apply, h st s]
  rcases op st s with ⟨⟨e | a, st'⟩, t⟩
  · exact hhandle e st' t
  · rfl

theorem setContainer (container : Container) :
    Alike f (Service.setContainer container) (Service.setContainer container) :=
  loadedStore.bind fun _ => setState _

end Alike

end Operation

/-! ### What the service does -/

section

variable {c : Collaborators V} {c' : Collaborators W} (H : c.Alike f c')

include H

theorem alike_plainPassword (o : Config.Options) :
    Act.Alike f (plainPassword c o) (plainPassword c' o) :=
  .mapError (H.decrypt o.password)

theorem alike_openContainer (o : Config.Options) (password : Password) :
    Act.Alike f (openContainer c o password) (openContainer c' o password) := by
  refine .bind (H.contains o.path) fun there => ?_
  split
  · exact .mapError (H.load o.path password)
  · exact .bind (.report _ _ _) fun _ =>
      .bind (.mapError (H.store Table.empty o.path password)) fun _ => .pure _

theorem alike_reprotect (container : Container) (o : Config.Options) (old new : Password) :
    Act.Alike f (reprotect c container o old new) (reprotect c' container o old new) :=
  .bind (.mapError (container.alike_reprotect old new)) fun k =>
    .bind (.mapError (H.store k o.path new)) fun _ => .pure k

theorem alike_putBack (container : Container) (path : Files.Path) (password : Password)
    (cause : Error) :
    Act.Alike f (putBack c container path password cause)
      (putBack c' container path password cause) :=
  .tryCatch (.bind (H.store container path password) fun _ => .pure _) fun _ =>
    .bind (.report _ _ _) fun _ => .pure _

theorem alike_randomize (o : Config.Options) (container : Container) (password : Password) :
    Act.Alike f (randomize c o container password) (randomize c' o container password) := by
  unfold randomize
  split
  · refine .bind Sealing.alike_freshPassword fun new => .bind (.mapError (H.encrypt new)) fun secret =>
      .bind (alike_reprotect H container o password new) fun reprotected => ?_
    refine .bind (.tryCatch (H.updateConfiguration _ _) fun e => ?_) fun _ =>
      .bind (.report _ _ _) fun _ => .bind (.lift _) fun _ => .pure _
    exact .bind (.report _ _ _) fun _ => .bind (alike_putBack H _ _ _ _) fun _ => .throw _
  · exact .pure _

theorem alike_load (o : Config.Options) : Act.Alike f (load c o) (load c' o) :=
  .bind (alike_plainPassword H o) fun password => .bind (alike_openContainer H o password) fun _ =>
    .bind (alike_randomize H o _ password) fun _ => .bind (.report _ _ _) fun _ => .pure _

theorem alike_moveContainer (current : LoadedStore) (o : Config.Options) (password : Password) :
    Act.Alike f (moveContainer c current o password) (moveContainer c' current o password) := by
  unfold moveContainer
  split
  · exact .bind (.report _ _ _) fun _ => .bind (alike_openContainer H o password) fun _ => .pure _
  · split
    · refine .bind (alike_plainPassword H current.options) fun old => ?_
      split
      · exact .pure _
      · exact .bind (.report _ _ _) fun _ => .bind (alike_reprotect H _ _ _ _) fun _ => .pure _
    · exact .pure _

theorem alike_change (current : LoadedStore) (o : Config.Options) :
    Act.Alike f (change c current o) (change c' current o) := by
  refine .bind (alike_plainPassword H o) fun password =>
    .bind (alike_moveContainer H current o password) fun ⟨container, old⟩ => ?_
  cases old with
  | none => exact alike_randomize H o container password
  | some old =>
    exact .tryCatch (alike_randomize H o container password) fun _ =>
      .bind (alike_putBack H _ _ _ _) fun _ => .throw _

/-! ### Operations -/

theorem alike_changeTo (o : Config.Options) :
    Operation.Alike f (changeTo c o) (changeTo c' o) := by
  refine .bind .loadedStore fun current => ?_
  split
  · exact .perform (.report _ _ _)
  · exact .bind (.perform (alike_change H current o)) fun _ => .setState _

theorem alike_activate (properties : Option Config.Properties) :
    Operation.Alike f (activate c properties) (activate c' properties) := by
  refine .bind (.lift _) fun o => .bind .state fun st => ?_
  cases st with
  | closed => exact .throw _
  | loaded _ => exact alike_changeTo H o
  | uninitialized => exact .bind (.perform (alike_load H o)) fun _ => .setState _

theorem alike_reconfigure (properties : Option Config.Properties) :
    Operation.Alike f (reconfigure c properties) (reconfigure c' properties) :=
  .bind (.lift _) fun o => alike_changeTo H o

theorem alike_entry (name : Option String) :
    Operation.Alike f ( entry? c name) ( entry? c' name) := by
  refine .bind (.required _ _) fun name => .bind .loadedStore fun s => ?_
  split
  · exact .pure none
  · exact .bind (.perform (alike_plainPassword H s.options)) fun _ => .lift _

theorem alike_entries : Operation.Alike f (entries c) (entries c') :=
  .bind .loadedStore fun s => .bind (.perform (alike_plainPassword H s.options)) fun _ => .lift _

theorem alike_keyManagers (algorithm : Option String) :
    Operation.Alike f (keyManagers c algorithm) (keyManagers c' algorithm) :=
  .bind (.required _ _) fun _ => .bind .loadedStore fun s =>
    .bind (.perform (alike_plainPassword H s.options)) fun _ =>
      .perform (Tls.KeyManager.alike_ofContainer _ _ _)

theorem alike_request (name subject : String) :
    Operation.Alike f (request c name subject) (request c' name subject) := by
  refine .bind (alike_entry H _) fun found => ?_
  match found with
  | none => exact .throw _
  | some (.trusted _) => exact .throw _
  | some (.key e) => exact .perform (Keys.alike_request e subject)

theorem alike_persist (password : Password) (name : String) (previous : Option StoredEntry) :
    Operation.Alike f (persist c password name previous) (persist c' password name previous) :=
  .bind .loadedStore fun _ => .tryCatch (.perform (H.store _ _ _)) fun _ =>
    .bind (.perform (.report _ _ _)) fun _ => .bind (.setContainer _) fun _ => .throw _

theorem alike_storeEntry (name : String) (entry : Entry) :
    Operation.Alike f (storeEntry c name entry) (storeEntry c' name entry) :=
  .bind .loadedStore fun s => .bind (.perform (alike_plainPassword H s.options)) fun _ =>
    .bind (.perform (Container.alike_set _ _ _ _)) fun _ => .bind (.setContainer _) fun _ =>
      .bind (alike_persist H _ _ _) fun _ => .perform (.report _ _ _)

theorem alike_setEntry (name : Option String) (entry : Option Entry) :
    Operation.Alike f (setEntry c name entry) (setEntry c' name entry) := by
  refine .bind (.required _ _) fun name => ?_
  split
  · exact .throw_bind _ _ _
  · exact .bind (.required _ _) fun entry => alike_storeEntry H _ _

theorem alike_deleteEntry (name : Option String) :
    Operation.Alike f (deleteEntry c name) (deleteEntry c' name) := by
  refine .bind (.required _ _) fun name => .bind .loadedStore fun s => ?_
  split
  · exact .bind (.perform (alike_plainPassword H s.options)) fun _ =>
      .bind (.setContainer _) fun _ => .bind (alike_persist H _ _ _) fun _ =>
        .perform (.report _ _ _)
  · exact .perform (.report _ _ _)

theorem alike_createKeyPair (name : String) (algorithm : Keys.KeyAlgorithm) (subject : String)
    (days : Nat) :
    Operation.Alike f (createKeyPair c name algorithm subject days)
      (createKeyPair c' name algorithm subject days) := by
  unfold createKeyPair
  split
  · exact .throw_bind _ _ _
  · exact .bind (.bind .loadedStore fun _ => .pure _) fun _ =>
      .bind (.perform (Keys.alike_keyPair _ _ _)) fun _ =>
        .bind (alike_storeEntry H _ _) fun _ => .pure _

/-- **The service sees the world through its collaborators**: on collaborators that do the same, every
command does the same. -/
theorem Command.alike_run (command : Command) : Operation.Alike f (command.run c) (command.run c') := by
  cases command with
  | activate properties => exact .bind (alike_activate H _) fun _ => .pure _
  | reconfigure properties => exact .bind (alike_reconfigure H _) fun _ => .pure _
  | close =>
    refine .bind (.bind .state fun st => ?_) fun _ => .pure _
    split
    · exact .bind (.perform (.report _ _ _)) fun _ => .setState _
    · exact .setState _
  | isActive => exact .bind .state fun _ => .pure _
  | store => exact .bind (.bind .loadedStore fun _ => .pure _) fun _ => .pure _
  | aliases => exact .bind (.bind .loadedStore fun _ => .pure _) fun _ => .pure _
  | entry name => exact .bind (alike_entry H _) fun _ => .pure _
  | entries => exact .bind (alike_entries H) fun _ => .pure _
  | keyManagers algorithm => exact .bind (alike_keyManagers H _) fun _ => .pure _
  | request name subject => exact .bind (alike_request H _ _) fun _ => .pure _
  | setEntry name entry => exact .bind (alike_setEntry H _ _) fun _ => .pure _
  | deleteEntry name => exact .bind (alike_deleteEntry H _) fun _ => .pure _
  | createKeyPair name algorithm subject days =>
    exact .bind (alike_createKeyPair H _ _ _ _) fun _ => .pure _

end

end Keyring.Service
