import Keyring.Proofs.Reprotection
import Keyring.Proofs.Service.Along
import Keyring.Proofs.Service.Endings
import Keyring.Proofs.Service.Spelling
import Keyring.Proofs.Service.Trace
import Keyring.Service.Stores

/-!
# Removing what is not there

Removing an alias that the served container does not list calls nobody and changes nothing
(`RemovesNothing`, `removesNothing_iff`).  So whether that is so for the empty alias depends on where
containers come from.  No command puts an entry under the empty alias, and re-protecting keeps the
aliases; but a container that is loaded may list whatever its maker put into it.

* `Loads` : a world with the containers that were loaded from it, written down by
  `Collaborators.noting`;
* `Served` : the states that commands lead to, with all containers that were loaded on the way;
* `Served.named` : as long as none of them lists the empty alias, the served container does not;
* `Served.removes_nothing` : what follows for removals, the second one of an alias among them.
-/

namespace Keyring

/-! ### The empty alias -/

/-- No entry of a container stands under the empty alias. -/
def Container.Named (container : Container) : Prop := "" ∉ container.aliases

namespace Container.Named

variable {container container' : Container}

theorem empty : Container.Named Table.empty := by
  simp [Container.Named, Container.aliases, Table.keys, Table.empty]

theorem of_aliases (h : container.Named) (haliases : container'.aliases = container.aliases) :
    container'.Named := by
  rw [Container.Named, haliases]
  exact h

/-- Commands put no entry under the empty alias. -/
theorem edits (h : container.Named) (hedits : Service.Edits container container') :
    container'.Named := by
  intro hempty
  cases hedits with
  | put hname stored =>
    rcases Table.mem_keys_insert.1 hempty with hn | hmem
    · exact hname hn.symm
    · exact h hmem
  | removed name => exact h (Table.mem_keys_erase.1 hempty).2

end Container.Named

namespace Service

open Operation

variable {W : Type} {c : Collaborators W}

/-! ### Containers that are loaded -/

/-- A world with the containers that were loaded from it, in order. -/
structure Loads (W : Type) where
  world : W
  containers : List Container

namespace Loads

/-- The world that is called on. -/
def inner : Focus (Loads W) W := ⟨world, fun world l => { l with world }⟩

/-- A session in which containers were loaded. -/
def session (s : Session W) (containers : List Container) : Session (Loads W) :=
  { s with world := ⟨s.world, containers⟩ }

/-- Loads a container and writes it down. -/
def note (act : Act W Container) : Act (Loads W) Container := do
  let container ← Act.within inner act
  Act.onWorld fun l => (.ok container, { l with containers := l.containers ++ [container] })

/-- None of the containers loaded so far lists the empty alias. -/
def Named (t : Session (Loads W)) : Prop := ∀ container ∈ t.world.containers, container.Named

/-- A later session: what was loaded before is still written down. -/
def Grows (s t : Session (Loads W)) : Prop := s.world.containers ⊆ t.world.containers

instance : Course (Grows : Session (Loads W) → Session (Loads W) → Prop) where
  of_continues h := by
    rw [Grows, h.world]
    exact List.Subset.refl _
  trans h h' := List.Subset.trans h h'

theorem Named.of_grows {s t : Session (Loads W)} (h : Named t) (ht : Grows s t) : Named s :=
  fun container hcontainer => h container (ht hcontainer)

theorem within_apply {α : Type} (act : Act W α) (s : Session (Loads W)) :
    Act.within inner act s =
      ((act (s.map world)).1,
        { (act (s.map world)).2 with
          world := ⟨(act (s.map world)).2.world, s.world.containers⟩ }) :=
  rfl

theorem along_within {α : Type} (act : Act W α) : Along Grows (Act.within inner act) := fun s =>
  List.Subset.refl s.world.containers

theorem note_ends (act : Act W Container) (s : Session (Loads W)) :
    (note act).Ends s (fun container t => container ∈ t.world.containers ∧ Grows s t) (Grows s) := by
  rw [Act.Ends, Act.Ensures, note, Act.bind_apply, within_apply]
  rcases act (s.map world) with ⟨_ | container, t⟩
  · exact List.Subset.refl _
  · exact ⟨by simp [Act.onWorld_apply], by simp [Act.onWorld_apply, Grows]⟩

theorem alike_note (act : Act W Container) : Act.Alike world (note act) act := by
  intro s
  rw [note, Act.bind_apply, within_apply]
  rcases act (s.map world) with ⟨_ | _, t⟩ <;> rfl

end Loads

/-- Collaborators that write down every container that is loaded. -/
def Collaborators.noting (c : Collaborators W) : Collaborators (Loads W) where
  backend :=
    { contains := fun path => Act.within Loads.inner (c.backend.contains path)
      load := fun path password => Loads.note (c.backend.load path password)
      store := fun container path password =>
        Act.within Loads.inner (c.backend.store container path password) }
  cipher :=
    { decrypt := fun secret => Act.within Loads.inner (c.cipher.decrypt secret)
      encrypt := fun password => Act.within Loads.inner (c.cipher.encrypt password) }
  updateConfiguration serviceId properties :=
    Act.within Loads.inner (c.updateConfiguration serviceId properties)

/-- Writing containers down changes nothing else. -/
theorem Collaborators.alike_noting (c : Collaborators W) : c.noting.Alike Loads.world c where
  contains _ _ := rfl
  load _ _ := Loads.alike_note _
  store _ _ _ _ := rfl
  decrypt _ _ := rfl
  encrypt _ _ := rfl
  updateConfiguration _ _ _ := rfl

theorem Collaborators.along_noting (c : Collaborators W) (path : Files.Path) :
    c.noting.Along Loads.Grows path where
  contains := Loads.along_within _
  load _ := .of_ends fun s => (Loads.note_ends _ s).imp (fun _ _ ht => ht.2) fun _ ht => ht
  store _ _ := Loads.along_within _
  decrypt _ := Loads.along_within _
  encrypt _ := Loads.along_within _

/-! ### Where the served container comes from -/

/-- A container that the service opens is loaded, or it is empty. -/
theorem openContainer_named (o : Config.Options) (password : Password) (s : Session (Loads W)) :
    (openContainer c.noting o password).Ends s
      (fun container t => Loads.Named t → container.Named) fun _ => True := by
  refine .bind (.of_forall _) (fun there t _ => ?_) fun _ _ => trivial
  split
  · refine .mapError ((Loads.note_ends _ t).imp ?_ fun _ _ => trivial)
    intro container u hu hnamed
    exact hnamed container hu.1
  · refine .bind_report fun u _ => ?_
    exact .bind (.of_forall _) (fun _ _ _ => .pure fun _ => .empty) fun _ _ => trivial

theorem reprotect_aliases (container : Container) (o : Config.Options) (old new : Password) :
    (reprotect c container o old new).Returns fun k => k.aliases = container.aliases :=
  .bind (.mapError (container.reprotect_reprotected old new)) fun _ hk =>
    .bind_any fun _ => .pure hk.aliases

theorem randomize_aliases (o : Config.Options) (container : Container) (password : Password) :
    (randomize c o container password).Returns fun store =>
      store.container.aliases = container.aliases := by
  unfold randomize
  split
  · refine .bind_any fun new => .bind_any fun secret => ?_
    refine .bind (reprotect_aliases container o password new) fun k hk => ?_
    exact .bind_any fun _ => .bind_any fun _ => .bind_any fun _ => .pure hk
  · exact .pure rfl

theorem randomize_named {o : Config.Options} {container : Container} {s : Session (Loads W)}
    (h : Loads.Named s → container.Named) (password : Password) :
    (randomize c.noting o container password).Ends s
      (fun store t => Loads.Named t → store.container.Named) fun _ => True := by
  have halong := (c.along_noting o.path).randomize (fun _ _ => Loads.along_within _) container
    password s
  have haliases := Act.Ends.of_returns (s := s) (randomize_aliases (c := c.noting) o container password)
  refine (haliases.and halong).imp ?_ fun _ _ => trivial
  rintro store t ⟨hsame, ht⟩ hnamed
  exact (h (hnamed.of_grows ht)).of_aliases hsame

theorem load_named (o : Config.Options) (s : Session (Loads W)) :
    (load c.noting o).Ends s (fun store t => Loads.Named t → store.container.Named)
      fun _ => True := by
  refine .bind (.of_forall _) (fun password t _ => ?_) fun _ _ => trivial
  refine .bind (openContainer_named o password t) (fun container u hu => ?_) fun _ _ => trivial
  refine .bind (randomize_named hu password) (fun store v hv => ?_) fun _ _ => trivial
  refine .bind_report fun w hw => .pure fun hnamed => hv (hnamed.of_grows ?_)
  exact Course.of_continues hw

/-- Going over to other options opens a container, or keeps the aliases of the one that is served. -/
theorem moveContainer_named (current : LoadedStore) (o : Config.Options) (password : Password)
    (s : Session (Loads W)) :
    (moveContainer c.noting current o password).Ends s
      (fun moved t => moved.1.aliases = current.container.aliases ∨
        (Loads.Named t → moved.1.Named))
      fun _ => True := by
  unfold moveContainer
  split
  · refine .bind_report fun t _ => ?_
    exact .bind (openContainer_named o password t) (fun _ _ hk => .pure (.inr hk)) fun _ _ => trivial
  · refine Act.Ends.imp (.of_returns (p := fun moved =>
      moved.1.aliases = current.container.aliases) ?_) (fun _ _ h => .inl h) fun _ h => h
    split
    · refine .bind_any fun old => ?_
      split
      · exact .pure rfl
      · exact .bind_any fun _ =>
          .bind (reprotect_aliases current.container o old password) fun _ hk => .pure hk
    · exact .pure rfl

theorem change_named {current : LoadedStore} {s : Session (Loads W)}
    (hcurrent : Loads.Named s → current.container.Named) (o : Config.Options) :
    (change c.noting current o).Ends s (fun store t => Loads.Named t → store.container.Named)
      fun _ => True := by
  have halong := c.along_noting o.path
  refine .bind ((halong.plainPassword o).ends s) (fun password t ht => ?_) fun _ _ => trivial
  have hmoved := (moveContainer_named current o password t).and
    (halong.moveContainer current password t)
  refine .bind hmoved ?_ fun _ _ => trivial
  rintro ⟨container, old⟩ u ⟨hcontainer, hu⟩
  have hnamed : Loads.Named u → container.Named := by
    intro hnamed
    rcases hcontainer with hsame | hopened
    · exact (hcurrent (hnamed.of_grows (Course.trans ht hu))).of_aliases hsame
    · exact hopened hnamed
  cases old with
  | none => exact randomize_named hnamed password
  | some old =>
    -- putting the old container back ends in an error, so nothing else is served
    refine .tryCatch (randomize_named hnamed password) (fun _ _ h => h) fun e t _ => ?_
    exact .bind (.of_forall _) (fun _ _ _ => .throw trivial) fun _ _ => trivial

/-- If no container that was loaded lists the empty alias, neither does the one that is served. -/
def Sourced (st : State) (containers : List Container) : Prop :=
  ∀ store, st = .loaded store → (∀ container ∈ containers, container.Named) → store.container.Named

namespace Sourced

variable {st : State} {s t : Session (Loads W)}

theorem of_grows (h : Sourced st s.world.containers) (ht : Loads.Grows s t) :
    Sourced st t.world.containers :=
  fun store hst hnamed => h store hst (Loads.Named.of_grows hnamed ht)

theorem of_named {store : LoadedStore} (h : Loads.Named t → store.container.Named) :
    Sourced (.loaded store) t.world.containers :=
  State.forall_loaded h

end Sourced

/-- The steps of a command leave the served container without the empty alias, as long as none is
loaded that lists it. -/
theorem sourced_endings (command : Command) {st : State} {s : Session (Loads W)}
    (hst : Sourced st s.world.containers) :
    Endings c.noting Loads.Grows (fun _ _ => True) command st s
      (fun st' t => Sourced st' t.world.containers) (Loads.Grows s) where
  look t ht := ⟨hst.of_grows ht, ht⟩
  closed _ _ _ hstore := by cases hstore
  decrypt secret t := by
    have halong : Along Loads.Grows (c.noting.cipher.decrypt secret) := Loads.along_within _
    exact (halong.ends t).imp (fun _ _ hu => ⟨hu, trivial⟩) fun _ hu => hu
  load o _ _ := by
    have halong := (c.along_noting o.path).loadStore (fun _ _ => Loads.along_within _) s
    exact ((load_named o s).and halong).imp (fun _ _ h => .of_named h.1) fun _ h => h.2
  change current o _ hcurrent := by
    have halong := (c.along_noting o.path).change (fun _ _ => Loads.along_within _)
      (c.along_noting current.options.path) s
    exact ((change_named (hst current hcurrent) o).and halong).imp (fun _ _ h => .of_named h.1)
      fun _ h => h.2
  commits store container password t hstore hedits ht _ := by
    subst hstore
    have halong := (c.along_noting store.options.path).store container password t
    refine halong.imp fun r u hu v hv => ?_
    have hv' : Loads.Grows s v := Course.trans (Course.trans ht hu) (Course.of_continues hv)
    cases r with
    | ok _ => exact .of_named fun hnamed => (hst store rfl (hnamed.of_grows hv')).edits hedits
    | error _ => exact ⟨rfl, hv'⟩

/-- **No command brings the empty alias in**, unless it loads a container that lists it. -/
theorem Command.sourced_run (command : Command) {st : State} {s : Session (Loads W)}
    (hst : Sourced st s.world.containers) :
    Sourced (command.run c.noting st s).1.2 (command.run c.noting st s).2.world.containers := by
  rcases (sourced_endings command hst).run_ends.good_or_bad with h | ⟨-, hsame, hgrows⟩
  · exact h
  · rw [hsame]
    exact hst.of_grows hgrows

/-! ### Runs -/

/-- The states that commands lead to, called in any order and in any sessions, with the containers
that were loaded on the way. -/
inductive Served (c : Collaborators W) : State → List Container → Prop where
  | start : Served c .uninitialized []
  | call {st : State} {containers : List Container} (command : Command) (s : Session W)
      (h : Served c st containers) :
      Served c (command.run c st s).1.2
        (command.run c.noting st (Loads.session s containers)).2.world.containers

namespace Served

variable {st : State} {store : LoadedStore} {containers : List Container}

theorem sourced (h : Served c st containers) : Sourced st containers := by
  induction h with
  | start => exact fun _ hst => by cases hst
  | @call st containers command s _ ih =>
    -- the run that writes containers down goes through the same states
    have halike := Command.alike_run c.alike_noting command st (Loads.session s containers)
    have hrun := command.sourced_run (c := c) (s := Loads.session s containers) ih
    rw [show (Loads.session s containers).map Loads.world = s from rfl] at halike
    rw [halike]
    exact hrun

/-- **What is served lists the empty alias only if a container that was loaded did.** -/
theorem named (h : Served c (.loaded store) containers)
    (hcontainers : ∀ container ∈ containers, container.Named) : store.container.Named :=
  h.sourced store rfl hcontainers

end Served

/-! ### Removals -/

/-- Removing an alias succeeds, calls nobody, leaves what is served as it is, and only reports that
there was nothing to remove. -/
def RemovesNothing (c : Collaborators W) (store : LoadedStore) (name : String)
    (s : Session (Traced W)) : Prop :=
  (Command.deleteEntry (some name)).run c.traced (.loaded store) s =
    ((.ok .done, .loaded store),
      { s with journal := s.journal ++ [⟨.debug, "no entry to delete", [("alias", name)]⟩] })

/-- Removing an alias that is listed calls somebody. -/
theorem Command.deleteEntry_calls {store : LoadedStore} {name : String}
    (hname : name ∈ store.container.aliases) (s : Session (Traced W)) :
    ((Command.deleteEntry (some name)).run c.traced).Ensures (.loaded store) s fun _ _ t =>
      ∃ steps, steps ≠ [] ∧ t.world.steps = s.world.steps ++ steps := by
  refine .bind_pure (deleteEntry_ensures c.traced (fun habsent => ?_) fun _ => ?_)
  · exact absurd hname (Table.contains_eq_false_iff.1 habsent)
  · have hdecrypt : (plainPassword c.traced store.options).Traces fun _ steps => steps ≠ [] :=
      .mapError (.make _ _) (fun _ _ hsteps => by simp [hsteps]) fun _ _ hsteps => by simp [hsteps]
    refine (hdecrypt s).imp fun r t ht => ?_
    obtain ⟨steps, hsteps, hne⟩ := ht
    cases r with
    | error _ => exact ⟨steps, hne, hsteps⟩
    | ok password =>
      refine Act.Ensures.imp (Act.Traces.make _ _ t) fun r u hu v hv => ?_
      obtain ⟨new, hnew, -⟩ := hu
      have hcalls : v.world.steps = s.world.steps ++ (steps ++ new) := by
        rw [hv.world, hnew, hsteps, List.append_assoc]
      cases r <;> exact ⟨steps ++ new, by simp [hne], hcalls⟩

/-- **Removing touches nothing just if there is nothing to remove.** -/
theorem removesNothing_iff {store : LoadedStore} {name : String} {s : Session (Traced W)} :
    RemovesNothing c store name s ↔ name ∉ store.container.aliases := by
  constructor
  · intro h hname
    have hcalls := Command.deleteEntry_calls (c := c) hname s
    rw [Ensures, h] at hcalls
    obtain ⟨steps, hne, hsteps⟩ := hcalls
    exact hne (List.self_eq_append_right.1 hsteps)
  · intro hname
    have hcontains : ¬ store.container.contains name = true := mt Table.contains_iff.1 hname
    have hrun : ((Command.deleteEntry (some name)).run c.traced).Ensures (.loaded store) s
        fun r st t => ((r, st), t) = ((.ok .done, .loaded store),
          { s with journal := s.journal ++ [⟨.debug, "no entry to delete", [("alias", name)]⟩] }) := by
      refine .bind_pure ?_
      unfold deleteEntry
      refine .bind_given ?_
      refine .bind_loaded ?_
      rw [if_neg hcontains]
      exact rfl
    exact hrun

/-- After a removal that succeeds the alias is not there. -/
theorem Command.deleteEntry_absent (store : LoadedStore) (name : String) (s : Session W) :
    ((Command.deleteEntry (some name)).run c).Returns (.loaded store) s fun _ st =>
      ∃ store', st = .loaded store' ∧ name ∉ store'.container.aliases := by
  refine .bind_pure (deleteEntry_ensures c (fun habsent _ _ _ _ => ?_) fun _ => ?_)
  · exact ⟨store, rfl, Table.contains_eq_false_iff.1 habsent⟩
  · -- whoever decrypts and stores, what is served in the end is the container without the alias
    refine .of_forall fun r t => ?_
    cases r with
    | error _ => exact fun _ ha => by cases ha
    | ok password =>
      refine Act.Ensures.of_forall fun r u v _ => ?_
      cases r with
      | error _ => exact fun _ ha => by cases ha
      | ok _ => exact fun _ _ => ⟨_, rfl, fun hname => (Table.mem_keys_erase.1 hname).1 rfl⟩

/-- **Removing what is not there touches nothing.**  In every state that is reached, that is so for just
those aliases that are not listed; the empty alias is one of them as long as no container that was
loaded lists it; and after a removal that succeeds, a second one touches nothing. -/
theorem Served.removes_nothing {store : LoadedStore} {containers : List Container}
    (h : Served c (.loaded store) containers) :
    (∀ name s, RemovesNothing c store name s ↔ name ∉ store.container.aliases) ∧
    ((∀ container ∈ containers, "" ∉ container.aliases) → ∀ s, RemovesNothing c store "" s) ∧
    ∀ name s st t,
      (Command.deleteEntry (some name)).run c (.loaded store) s = ((.ok .done, st), t) →
        ∃ store', st = .loaded store' ∧ ∀ u, RemovesNothing c store' name u := by
  refine ⟨fun name s => removesNothing_iff, fun hcontainers s => ?_, fun name s st t hrun => ?_⟩
  · exact removesNothing_iff.2 (h.named hcontainers)
  · have habsent := Command.deleteEntry_absent (c := c) store name s
    rw [Returns, Ensures, hrun] at habsent
    obtain ⟨store', hstore, hname⟩ := habsent .done rfl
    exact ⟨store', hstore, fun u => removesNothing_iff.2 hname⟩

/-! ### Containers in memory -/

namespace InMemory

/-- Collaborators that keep everything in memory. -/
def collaborators : Collaborators Stores := Stores.collaborators .memory .plain .memory

/-- A container is kept. -/
def session (container : Container) : Session Stores where
  world := ⟨Table.empty.insert "k" (container, ⟨"pw"⟩), Files.Disk.fresh, Table.empty⟩
  entropy := ⟨fun _ => 0, 0⟩
  now := 0
  journal := []

/-- What is served once it is loaded. -/
def store (container : Container) : LoadedStore := ⟨OneFile.options "k", container⟩

theorem served (container : Container) :
    Served collaborators (.loaded (store container)) [container] :=
  .call (.activate (some (OneFile.properties "k"))) (session container) .start

end InMemory

/-- From a container with one entry, removing the empty alias touches nothing, and neither does removing
the alias of the entry once the entry is gone. -/
theorem Served.removes_nothing_one_entry :
    (∀ s, RemovesNothing InMemory.collaborators (InMemory.store oneEntry.container) "" s) ∧
      ∀ s, RemovesNothing InMemory.collaborators (InMemory.store Table.empty) "root" s := by
  obtain ⟨-, hempty, hsecond⟩ := (InMemory.served oneEntry.container).removes_nothing
  refine ⟨hempty (by decide +kernel), ?_⟩
  have hfirst : ((Command.deleteEntry (some "root")).run InMemory.collaborators
      (.loaded (InMemory.store oneEntry.container)) (InMemory.session oneEntry.container)).1 =
        (.ok .done, .loaded (InMemory.store Table.empty)) := by
    decide +kernel
  obtain ⟨store', hstore, hremoves⟩ := hsecond "root" (InMemory.session oneEntry.container) _ _
    (Prod.ext hfirst rfl)
  obtain rfl := State.loaded.inj hstore
  exact hremoves

/-! ### Containers in files -/

/-- A file may hold any container, and whatever it holds is served. -/
theorem OneFile.served (container : Container) :
    ∃ containers, Served .onDisk (.loaded ⟨options "k", container⟩) containers := by
  have hstored := OneFile.storeFile_ends container ⟨"pw"⟩ (s := session) rfl rfl
  have hfiled := onFiles_onDisk.store_ends container ⟨"k"⟩ ⟨"pw"⟩ session
  rcases hr : (Collaborators.onDisk.backend.store container ⟨"k"⟩ ⟨"pw"⟩ session).1 with e | _
  · exact (hstored.of_error hr).elim
  · obtain ⟨-, -, hfiled⟩ := hfiled.of_ok hr
    obtain ⟨t, hrun, -⟩ := onFiles_onDisk.activate_filed (p := properties "k") (o := options "k")
      (by decide +kernel) rfl rfl hfiled
    have hserved := Served.call (c := .onDisk) (.activate (some (properties "k")))
      (Collaborators.onDisk.backend.store container ⟨"k"⟩ ⟨"pw"⟩ session).2 .start
    rw [hrun] at hserved
    exact ⟨_, hserved⟩

/-- What is served from a file that lists the empty alias. -/
def unnamed : LoadedStore where
  options := OneFile.options "k"
  container := oneEntry.container.insert "" (.trusted [0x30] 7)

/-- **From a container that lists the empty alias, that alias is removed like any other**: somebody is
called, and if the removal succeeds, the container is not the one that was served. -/
theorem Served.not_removes_nothing_unnamed :
    (∃ containers, Served .onDisk (.loaded unnamed) containers) ∧
      ∀ s, ¬ RemovesNothing .onDisk unnamed "" s ∧
        ∀ st t, (Command.deleteEntry (some "")).run Collaborators.onDisk.traced (.loaded unnamed) s =
          ((.ok .done, st), t) → st ≠ .loaded unnamed := by
  have hlisted : "" ∈ unnamed.container.aliases := by decide +kernel
  refine ⟨OneFile.served _, fun s => ⟨fun h => removesNothing_iff.1 h hlisted, ?_⟩⟩
  rintro _ t hrun rfl
  have habsent := Command.deleteEntry_absent (c := Collaborators.onDisk.traced) unnamed "" s
  rw [Returns, Ensures, hrun] at habsent
  obtain ⟨store, hstore, hname⟩ := habsent .done rfl
  obtain rfl := State.loaded.inj hstore
  exact hname hlisted

end Service

end Keyring
