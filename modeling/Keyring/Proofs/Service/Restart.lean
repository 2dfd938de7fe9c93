import Keyring.Proofs.Service.Along
import Keyring.Proofs.Service.Ledger
import Keyring.Proofs.Service.Settled

/-!
# Starting again after the password was replaced

With honest collaborators (`Honest`), whatever way a service comes to replace the password of its
configuration by a random one, what it leaves behind is enough to start again (`Restartable`):

* `randomize_randomized`, `load_randomized`, `change_randomized` : the container is kept under the
  random password and one configuration is written that says so (`Randomized`);
* `Randomized.toRestartable` : that configuration is no change for the service that runs, and a new
  service that gets it serves the same container;
* `Reached.restartable` : both together, for every state that commands lead to.
-/

namespace Keyring.Service

open Operation

variable {W : Type} {c : Collaborators W}

/-! ### Honest collaborators -/

/-- A session in which as much is kept and as much of the configuration is written. -/
structure Held (record : W → Files.Path → Option Record)
    (written : W → List (Option String × Config.Properties)) (s t : Session W) : Prop where
  records : record t.world = record s.world
  written : written t.world = written s.world

/-- As much of the configuration is written as before. -/
def AsWritten (written : W → List (Option String × Config.Properties)) (s t : Session W) : Prop :=
  written t.world = written s.world

instance (written : W → List (Option String × Config.Properties)) : Course (AsWritten written) where
  of_continues h := congrArg written h.world
  trans h h' := Eq.trans h' h

namespace Held

variable {record : W → Files.Path → Option Record}
  {written : W → List (Option String × Config.Properties)} {s t u : Session W}

theorem of_continues (h : Act.Continues s t) : Held record written s t :=
  ⟨by rw [h.world], by rw [h.world]⟩

theorem trans (h : Held record written s t) (h' : Held record written t u) :
    Held record written s u :=
  ⟨h'.records.trans h.records, h'.written.trans h.written⟩

end Held

/-- A backend that answers from what it keeps and stores or fails, a cipher that decrypts what it
encrypted, and a configuration store that writes down or fails. -/
structure Honest (c : Collaborators W) (record : W → Files.Path → Option Record)
    (written : W → List (Option String × Config.Properties)) : Prop where
  contains (path : Files.Path) (s : Session W) : (c.backend.contains path).Ends s
    (fun there t => Held record written s t ∧ there = (record s.world path).isSome) fun _ => False
  load (path : Files.Path) (password : Password) (s : Session W) :
    (c.backend.load path password).Ends s
      (fun container t => Held record written s t ∧
        record s.world path = some (container, password))
      fun t => Held record written s t ∧
        ∀ container, record s.world path ≠ some (container, password)
  store (container : Container) (path : Files.Path) (password : Password) (s : Session W) :
    (c.backend.store container path password).Ends s
      (fun _ t => written t.world = written s.world ∧
        record t.world path = some (container, password))
      (Held record written s)
  decrypt (secret : Password) (s : Session W) :
    (c.cipher.decrypt secret).Ensures s fun _ => Held record written s
  encrypt (password : Password) (s : Session W) : (c.cipher.encrypt password).Ends s
    (fun secret t => Held record written s t ∧ ∀ u, (c.cipher.decrypt secret u).1 = .ok password)
    (Held record written s)
  updateConfiguration (serviceId : Option String) (p : Config.Properties) (s : Session W) :
    (c.updateConfiguration serviceId p).Ends s
      (fun _ t => record t.world = record s.world ∧
        written t.world = written s.world ++ [(serviceId, p)])
      (Held record written s)

/-! ### What a randomized password leaves behind -/

/-- Between two worlds a container was put under a random password where `o` says, and a
configuration that says so is all that was written. -/
structure Randomized (c : Collaborators W) (record : W → Files.Path → Option Record)
    (written : W → List (Option String × Config.Properties)) (o : Config.Options) (before after : W)
    (store : LoadedStore) (secret password : Password) : Prop where
  options : Config.Options.ofProperties (o.withPassword secret) = .ok store.options
  written : written after = written before ++ [(o.serviceId, o.withPassword secret)]
  decrypt (u : Session W) : (c.cipher.decrypt secret u).1 = .ok password
  kept : record after o.path = some (store.container, password)

section

variable {record : W → Files.Path → Option Record}
  {written : W → List (Option String × Config.Properties)}

/-- Nothing that was written before matters but what it is. -/
theorem Randomized.of_written {o : Config.Options} {before between after : W} {store : LoadedStore}
    {secret password : Password} (hwritten : written between = written before)
    (h : Randomized c record written o between after store secret password) :
    Randomized c record written o before after store secret password :=
  ⟨h.options, hwritten ▸ h.written, h.decrypt, h.kept⟩

variable (H : Honest c record written)

include H

/-- Nothing but `updateConfiguration` writes configurations. -/
theorem Honest.along (path : Files.Path) : c.Along (AsWritten written) path where
  contains := .of_ends fun s => (H.contains path s).imp (fun _ _ ht => ht.1.written) fun _ h => h.elim
  load password := .of_ends fun s => (H.load path password s).imp (fun _ _ ht => ht.1.written)
    fun _ ht => ht.1.written
  store container password := .of_ends fun s => (H.store container path password s).imp
    (fun _ _ ht => ht.1) fun _ ht => ht.written
  decrypt secret := fun s => (H.decrypt secret s).imp fun _ _ ht => ht.written
  encrypt password := .of_ends fun s => (H.encrypt password s).imp (fun _ _ ht => ht.1.written)
    fun _ ht => ht.written

/-! ### Randomizing -/

theorem reprotect_kept (container : Container) (o : Config.Options) (old new : Password)
    (s : Session W) :
    (reprotect c container o old new).Ends s
      (fun k t => written t.world = written s.world ∧ record t.world o.path = some (k, new))
      fun _ => True := by
  refine .bind (.mapError (.of_quiet (container.quiet_reprotect old new) (fun _ _ ht => ht)
    fun _ _ => trivial)) (fun k t ht => ?_) fun _ _ => trivial
  refine .bind (.mapError (H.store k o.path new t)) ?_ fun _ _ => trivial
  rintro _ u ⟨hwritten, hkept⟩
  exact .pure ⟨by rw [hwritten, ht.world], hkept⟩

theorem randomize_randomized {o : Config.Options} (ho : o.randomize = true) (container : Container)
    (password : Password) (s : Session W) :
    (randomize c o container password).Ends s
      (fun store t => ∃ secret password,
        Randomized c record written o s.world t.world store secret password)
      fun _ => True := by
  unfold randomize
  rw [if_pos ho]
  refine .bind (Act.Ends.of_quiet Sealing.quiet_freshPassword (fun _ _ ht => ht) fun _ _ => trivial)
    (fun new t₁ h₁ => ?_) fun _ _ => trivial
  refine .bind (.mapError (H.encrypt new t₁)) ?_ fun _ _ => trivial
  rintro secret t₂ ⟨h₂, hdecrypt⟩
  refine .bind (reprotect_kept H container o password new t₂) ?_ fun _ _ => trivial
  rintro k t₃ ⟨hwritten, hkept⟩
  have hwritten₃ : written t₃.world = written s.world := by rw [hwritten, h₂.written, h₁.world]
  -- whether or not the container is put back, a configuration that is not taken is an error
  refine Act.Ends.bind (q := fun _ => True) (.tryCatch
    (H.updateConfiguration o.serviceId (o.withPassword secret) t₃) (fun _ _ ht => ht) fun e t _ => ?_)
    ?_ fun _ _ => trivial
  · exact .bind_report fun u _ => .bind (.of_forall _) (fun _ _ _ => .throw trivial) fun _ _ => trivial
  · rintro _ t₄ ⟨hrecord, hwritten₄⟩
    refine .bind_report fun u hu => ?_
    rw [Act.Ends, Act.Ensures, Act.bind_apply, Act.liftM_apply]
    cases hoptions : Config.Options.ofProperties (o.withPassword secret) with
    | error e => trivial
    | ok o' =>
      refine ⟨secret, new, hoptions, ?_, hdecrypt, ?_⟩
      · rw [← hwritten₃, ← hwritten₄, ← hu.world]
        rfl
      · rw [← hkept, ← hrecord, ← hu.world]
        rfl

theorem load_randomized {o : Config.Options} (ho : o.randomize = true) (s : Session W) :
    (load c o).Ends s
      (fun store t => ∃ secret password,
        Randomized c record written o s.world t.world store secret password)
      fun _ => True := by
  have halong := H.along o.path
  refine .bind ((halong.plainPassword o).ends s) (fun password t₁ h₁ => ?_) fun _ _ => trivial
  refine .bind ((halong.openContainer password).ends t₁) (fun container t₂ h₂ => ?_)
    fun _ _ => trivial
  refine .bind (randomize_randomized H ho container password t₂) ?_ fun _ _ => trivial
  rintro store t₃ ⟨secret, new, h₃⟩
  refine .bind_report fun u hu => .pure ⟨secret, new, ?_⟩
  rw [hu.world]
  exact h₃.of_written (h₂.trans h₁)

theorem change_randomized {o : Config.Options} (ho : o.randomize = true) (current : LoadedStore)
    (s : Session W) :
    (change c current o).Ends s
      (fun store t => ∃ secret password,
        Randomized c record written o s.world t.world store secret password)
      fun _ => True := by
  have halong := H.along o.path
  refine .bind ((halong.plainPassword o).ends s) (fun password t₁ h₁ => ?_) fun _ _ => trivial
  refine .bind ((halong.moveContainer current password).ends t₁) ?_ fun _ _ => trivial
  rintro ⟨container, old⟩ t₂ h₂
  have hrandomize : (randomize c o container password).Ends t₂
      (fun store t => ∃ secret password,
        Randomized c record written o s.world t.world store secret password)
      fun _ => True := by
    refine (randomize_randomized H ho container password t₂).imp ?_ fun _ h => h
    rintro store t ⟨secret, new, h⟩
    exact ⟨secret, new, h.of_written (h₂.trans h₁)⟩
  cases old with
  | none => exact hrandomize
  | some old =>
    refine .tryCatch hrandomize (fun _ _ h => h) fun e t _ => ?_
    exact .bind (.of_forall _) (fun _ _ _ => .throw trivial) fun _ _ => trivial

/-! ### Starting again -/

/-- Decrypting the new secret. -/
theorem Randomized.decrypt_ends {o : Config.Options} {before after : W} {store : LoadedStore}
    {secret password : Password}
    (h : Randomized c record written o before after store secret password) (u : Session W) :
    (c.cipher.decrypt secret).Ends u (fun q v => q = password ∧ Held record written u v)
      fun _ => False := by
  have hheld := H.decrypt secret u
  have hresult := h.decrypt u
  rw [Act.Ensures] at hheld
  rw [Act.Ends, Act.Ensures, hresult]
  exact ⟨rfl, hheld⟩

/-- What is kept under a path is what is opened there; nothing is stored for that. -/
theorem openContainer_kept {c' : Collaborators W}
    (hcontains : c'.backend.contains = c.backend.contains) (hload : c'.backend.load = c.backend.load)
    {o : Config.Options} {container : Container} {password : Password} {u : Session W}
    (hkept : record u.world o.path = some (container, password)) :
    (openContainer c' o password).Ends u
      (fun container' v => container' = container ∧ Held record written u v) fun _ => False := by
  unfold openContainer
  rw [hcontains, hload]
  refine .bind (H.contains o.path u) ?_ fun _ h => h
  rintro there v ⟨hv, rfl⟩
  rw [hkept]
  refine (Act.Ends.mapError (H.load o.path password v)).imp ?_ ?_
  · rintro container' w ⟨hw, hload⟩
    rw [hv.records, hkept] at hload
    obtain rfl : container = container' := congrArg Prod.fst (Option.some.inj hload)
    exact ⟨rfl, hv.trans hw⟩
  · rintro w ⟨-, hload⟩
    exact hload container (by rw [hv.records, hkept])

/-- Loading by the new options gives what is served, whatever storing and writing would do. -/
theorem Randomized.load_ends {p : Config.Properties} {o : Config.Options}
    (hp : Config.Options.ofProperties p = .ok o) {before after : W} {store : LoadedStore}
    {secret password : Password}
    (h : Randomized c record written o before after store secret password) {c' : Collaborators W}
    (hcontains : c'.backend.contains = c.backend.contains) (hload : c'.backend.load = c.backend.load)
    (hcipher : c'.cipher = c.cipher) {u : Session W} (hu : record u.world = record after) :
    (load c' store.options).Ends u
      (fun store' v => store' = store ∧ Held record written u v) fun _ => False := by
  have hoptions := h.options
  rw [Config.Options.ofProperties_withPassword hp secret] at hoptions
  have hpassword : store.options.password = secret := by rw [← Except.ok.inj hoptions]
  have hpath : store.options.path = o.path := by rw [← Except.ok.inj hoptions]
  have hrandomize : store.options.randomize = false := by rw [← Except.ok.inj hoptions]
  have hdecrypt : (plainPassword c' store.options).Ends u
      (fun q v => q = password ∧ Held record written u v) fun _ => False := by
    rw [plainPassword, hcipher, hpassword]
    exact .mapError (h.decrypt_ends H u)
  refine .bind hdecrypt ?_ fun _ h => h
  rintro q v₁ ⟨hq, h₁⟩
  have hkept : record v₁.world store.options.path = some (store.container, password) := by
    rw [h₁.records, hu, hpath]
    exact h.kept
  rw [hq]
  refine .bind (openContainer_kept H hcontains hload hkept) ?_ fun _ h => h
  rintro _ v₂ ⟨rfl, h₂⟩
  rw [randomize, hrandomize]
  have hserved : (Pure.pure ⟨store.options, store.container⟩ : Act W LoadedStore).Ends v₂
      (fun store' v => store' = store ∧ Held record written u v) fun _ => False :=
    .pure ⟨rfl, h₁.trans h₂⟩
  refine .bind hserved ?_ fun _ h => h
  rintro _ v₃ ⟨rfl, h₃⟩
  exact .bind_report fun v₄ h₄ => .pure ⟨rfl, h₃.trans (.of_continues h₄)⟩

end

/-! ### The written configuration -/

/-- From the world `before` to the world `after`, the password of the configuration `p` with the
options `o` was replaced by what `secret` stands for, and the service can be started again. -/
structure Restartable (c : Collaborators W) (record : W → Files.Path → Option Record)
    (written : W → List (Option String × Config.Properties)) (p : Config.Properties)
    (o : Config.Options) (before after : W) (store : LoadedStore) (secret : Password) : Prop where
  /-- The configuration is written once: it is the one that was given, but for the password. -/
  handedBack : written after = written before ++ [(o.serviceId, Config.Options.replaced p secret)]
  /-- The container is kept under the password that the written configuration decrypts to. -/
  kept : ∃ password, (∀ u, (c.cipher.decrypt secret u).1 = .ok password) ∧
    record after o.path = some (store.container, password)
  /-- What is served asks for no other password. -/
  settled : store.options.randomize = false
  /-- To the service that runs, the written configuration is no change: it calls nobody. -/
  unchanged (c' : Collaborators W) (u : Session W) :
    reconfigure c' (some (Config.Options.replaced p secret)) (.loaded store) u =
      ((.ok (), .loaded store),
        { u with journal := u.journal ++ [⟨.debug, "keystore configuration unchanged", []⟩] })
  /-- A new service that gets the written configuration serves what the old one does, and neither
  stores a container nor writes a configuration. -/
  restarts (c' : Collaborators W) (u : Session W)
    (hcontains : c'.backend.contains = c.backend.contains) (hload : c'.backend.load = c.backend.load)
    (hcipher : c'.cipher = c.cipher) (hu : record u.world = record after) :
    (activate c' (some (Config.Options.replaced p secret))).Ensures .uninitialized u fun r st v =>
      r = .ok () ∧ st = .loaded store ∧ record v.world = record u.world ∧
        written v.world = written u.world

section

variable {record : W → Files.Path → Option Record}
  {written : W → List (Option String × Config.Properties)}

variable (H : Honest c record written)

include H

omit H in
/-- The written configuration resolves to the options in force. -/
theorem Randomized.resolve_replaced {p : Config.Properties} {o : Config.Options}
    (hp : Config.Options.ofProperties p = .ok o) {before after : W} {store : LoadedStore}
    {secret password : Password}
    (h : Randomized c record written o before after store secret password) :
    Config.Options.resolve (some (Config.Options.replaced p secret)) = .ok store.options := by
  rw [← Config.Options.withPassword_eq hp]
  exact h.options

/-- A randomized password leaves all behind that is needed to start again. -/
theorem Randomized.toRestartable {p : Config.Properties} {o : Config.Options}
    (hp : Config.Options.ofProperties p = .ok o) {before after : W} {store : LoadedStore}
    {secret password : Password}
    (h : Randomized c record written o before after store secret password) :
    Restartable c record written p o before after store secret where
  handedBack := by
    rw [← Config.Options.withPassword_eq hp]
    exact h.written
  kept := ⟨password, h.decrypt, h.kept⟩
  settled := Config.Options.randomize_of_withPassword h.options
  unchanged c' u := by
    rw [reconfigure, Edit.bind_apply, liftM_apply, h.resolve_replaced hp]
    exact changeTo_same (by simp [Config.Options.same, Files.Path.same]) u
  restarts c' u hcontains hload hcipher hu := by
    have hresolve := h.resolve_replaced hp
    refine .bind_lift (fun o' ho' => .bind_state ?_) fun e he => ?_
    · obtain rfl : store.options = o' := Except.ok.inj (hresolve.symm.trans ho')
      refine .bind_perform (h.load_ends H hp hcontains hload hcipher hu) ?_ fun _ _ h => h.elim
      rintro _ v ⟨rfl, hv⟩
      exact .setState ⟨rfl, rfl, hv.records, hv.written⟩
    · rw [hresolve] at he
      cases he

theorem changeTo_restartable {p : Config.Properties} {o : Config.Options}
    (hp : Config.Options.ofProperties p = .ok o) (ho : o.randomize = true) {st : State}
    (hst : Settled st) (s : Session W) :
    (changeTo c o).Ensures st s fun r st' t => ∀ a, r = .ok a → ∃ store secret,
      st' = .loaded store ∧ Restartable c record written p o s.world t.world store secret := by
  refine .bind_loadedStore (fun current hcurrent => ?_) fun _ a ha => by cases ha
  have hsettled := hst current hcurrent
  split
  · -- what is served asks for no random password, so it cannot mean the same
    rename_i hsame
    simp [Config.Options.same, ho, hsettled] at hsame
  · refine .bind_perform (change_randomized H ho current s) ?_ fun e t _ a ha => by cases ha
    rintro store t ⟨secret, password, h⟩
    exact .setState fun _ _ => ⟨store, secret, rfl, h.toRestartable H hp⟩

theorem activate_restartable {p : Config.Properties} {o : Config.Options}
    (hp : Config.Options.ofProperties p = .ok o) (ho : o.randomize = true) {st : State}
    (hst : Settled st) (s : Session W) :
    (activate c (some p)).Ensures st s fun r st' t => ∀ a, r = .ok a → ∃ store secret,
      st' = .loaded store ∧ Restartable c record written p o s.world t.world store secret := by
  refine .bind_lift (fun o' ho' => .bind_state ?_) fun e _ a ha => by cases ha
  obtain rfl : o = o' := Except.ok.inj (hp.symm.trans ho')
  cases st with
  | closed => exact fun a ha => by cases ha
  | loaded _ => exact changeTo_restartable H hp ho hst s
  | uninitialized =>
    refine .bind_perform (load_randomized H ho s) ?_ fun e t _ a ha => by cases ha
    rintro store t ⟨secret, password, h⟩
    exact .setState fun _ _ => ⟨store, secret, rfl, h.toRestartable H hp⟩

theorem reconfigure_restartable {p : Config.Properties} {o : Config.Options}
    (hp : Config.Options.ofProperties p = .ok o) (ho : o.randomize = true) {st : State}
    (hst : Settled st) (s : Session W) :
    (reconfigure c (some p)).Ensures st s fun r st' t => ∀ a, r = .ok a → ∃ store secret,
      st' = .loaded store ∧ Restartable c record written p o s.world t.world store secret := by
  refine .bind_lift (fun o' ho' => ?_) fun e _ a ha => by cases ha
  obtain rfl : o = o' := Except.ok.inj (hp.symm.trans ho')
  exact changeTo_restartable H hp ho hst s

end

/-- Only a configuration that resolves can be applied. -/
theorem Command.resolves_of_ok {p : Config.Properties} {command : Command}
    (hcommand : command = .activate (some p) ∨ command = .reconfigure (some p)) {st : State}
    {s : Session W} {a : Answer} (hrun : (command.run c st s).1.1 = .ok a) :
    ∃ o, Config.Options.ofProperties p = .ok o := by
  cases ho : Config.Options.ofProperties p with
  | ok o => exact ⟨o, rfl⟩
  | error e =>
    have hresolve : Config.Options.resolve (some p) = .error e := ho
    rcases hcommand with rfl | rfl
    · rw [run, Service.activate, Edit.bind_apply, Edit.bind_apply, liftM_apply, hresolve] at hrun
      cases hrun
    · rw [run, Service.reconfigure, Edit.bind_apply, Edit.bind_apply, liftM_apply, hresolve] at hrun
      cases hrun

/-- **What a random password leaves behind is enough to start again.**  In every state that commands
lead to, if a configuration that asks for a random password is applied with success, then the
configuration that was written has the new password, which the container is kept under; it changes
nothing for the service that runs, and a new service that gets it serves the same container. -/
theorem Reached.restartable {record : W → Files.Path → Option Record}
    {written : W → List (Option String × Config.Properties)} (H : Honest c record written)
    {st : State} (hst : Reached c st) {p : Config.Properties}
    (hp : Config.Options.setting p .randomize Config.Value.asBoolean false = .ok true)
    {command : Command} (hcommand : command = .activate (some p) ∨ command = .reconfigure (some p))
    {s t : Session W} {a : Answer} {st' : State} (hrun : command.run c st s = ((.ok a, st'), t)) :
    ∃ o store secret, Config.Options.ofProperties p = .ok o ∧ st' = .loaded store ∧
      Restartable c record written p o s.world t.world store secret := by
  obtain ⟨o, ho⟩ := command.resolves_of_ok hcommand (by rw [hrun])
  have hrandomize : o.randomize = true :=
    (Except.ok.inj (hp.symm.trans (Config.Options.ofProperties_eq_ok_iff.1 ho).randomize)).symm
  have hensures : (command.run c).Ensures st s fun r st' t => ∀ a, r = .ok a → ∃ store secret,
      st' = .loaded store ∧ Restartable c record written p o s.world t.world store secret := by
    rcases hcommand with rfl | rfl
    · exact .bind_pure_of_ok (activate_restartable H ho hrandomize hst.settled s)
    · exact .bind_pure_of_ok (reconfigure_restartable H ho hrandomize hst.settled s)
  rw [Ensures, hrun] at hensures
  obtain ⟨store, secret, hstore, h⟩ := hensures a rfl
  exact ⟨o, store, secret, ho, hstore, h⟩

/-! ### A password that is replaced

A container is kept under the password `one`.  It is activated, and then put under `two` and from there
under a random password. -/

/-- A ledger, and the configurations that were written. -/
structure Registry where
  kept : Records
  written : List (Option String × Config.Properties)

/-- A ledger, marked secrets, and configurations that are written down. -/
def Collaborators.registry : Collaborators Registry where
  backend := Ledger.backend.within ⟨Registry.kept, fun kept r => { r with kept }⟩
  cipher := .tagged
  updateConfiguration serviceId p := Act.onWorld fun r =>
    (.ok (), { r with written := r.written ++ [(serviceId, p)] })

theorem honest_registry :
    Honest .registry (fun r path => r.kept path.components) Registry.written where
  contains path s := ⟨⟨rfl, rfl⟩, rfl⟩
  load path password s := by
    rw [Act.Ends, Act.Ensures]
    simp only [Collaborators.registry, Backend.within, Act.within, Ledger.backend, Act.onWorld_apply]
    rcases hr : s.world.kept path.components with _ | ⟨container, p⟩
    · exact ⟨⟨rfl, rfl⟩, fun _ h => by simp at h⟩
    · by_cases hp : p = password
      · simp only [if_pos hp]
        exact ⟨⟨rfl, rfl⟩, by simp [hp]⟩
      · simp only [if_neg hp]
        exact ⟨⟨rfl, rfl⟩, fun _ h => by simp [hp] at h⟩
  store container path password s := ⟨rfl, Function.update_self ..⟩
  decrypt secret s := by
    simp only [Collaborators.registry, Cipher.tagged]
    rcases Text.splitFirst? '|' secret.text.toList with _ | ⟨_, password⟩
    · exact .throw ⟨rfl, rfl⟩
    · exact .pure ⟨rfl, rfl⟩
  encrypt password s := by
    refine ⟨⟨rfl, rfl⟩, fun u => ?_⟩
    have hsplit : Text.splitFirst? '|' (Cipher.mark ++ password.text.toList) =
        some (['t'], password.text.toList) := by
      simp [Cipher.mark, Text.splitFirst?]
    simp only [Collaborators.registry, Cipher.tagged, String.toList_ofList, hsplit,
      String.ofList_toList]
    rfl
  updateConfiguration serviceId p s := ⟨rfl, rfl⟩

namespace Randomization

def session : Session Registry where
  world :=
    { kept := Function.update (fun _ => none) Ledger.path.components
        (some (Table.empty.insert "root" (.trusted [0x30] 7), ⟨"one"⟩))
      written := [] }
  entropy := ⟨fun _ => 0, 0⟩
  now := 0
  journal := []

def activated : (Except Error Answer × State) × Session Registry :=
  (Command.activate (some (Ledger.properties "t|one" false))).run .registry .uninitialized session

def randomized : (Except Error Answer × State) × Session Registry :=
  (Command.reconfigure (some (Ledger.properties "t|two" true))).run .registry activated.1.2 activated.2

theorem outcome_randomized : randomized.1.1 = .ok .done := by decide +kernel

end Randomization

theorem Reached.restartable_randomized :
    ∃ o store secret, Config.Options.ofProperties (Ledger.properties "t|two" true) = .ok o ∧
      Randomization.randomized.1.2 = .loaded store ∧
      Restartable .registry (fun r path => r.kept path.components) Registry.written
        (Ledger.properties "t|two" true) o Randomization.activated.2.world
        Randomization.randomized.2.world store secret := by
  have hparts : ∀ x : (Except Error Answer × State) × Session Registry, x.1.1 = .ok .done →
      x = ((.ok .done, x.1.2), x.2) := fun x hx => Prod.ext (Prod.ext hx rfl) rfl
  exact (Reached.call _ _ .start).restartable honest_registry (by decide +kernel) (.inr rfl)
    (hparts Randomization.randomized Randomization.outcome_randomized)

end Keyring.Service
