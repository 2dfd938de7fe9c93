import Keyring.Proofs.Config.Options
import Keyring.Proofs.Reprotection
import Keyring.Proofs.Service.Atomicity
import Keyring.Proofs.Service.Progress

/-!
# The service is a map from aliases to entries

A run at one place is mirrored by a table that changes only where an entry was put or removed with
success (`Mirrored`).  However often the container is put under another password meanwhile, and
whatever fails, reading an entry gives what the table has (`Mirrored.reads`).

The invariant is `Represents` : the served container opens, with the password that its options decrypt
to, to exactly the table (`Container.Opens`).  Every command keeps it (`Command.represents_run`): a
change of an entry is the change of the table, re-protecting opens to what was there, and a command
that fails leaves the state as it was.
-/

namespace Keyring

variable {W : Type}

/-- Decrypting, where it succeeds, is a function, and takes back what encrypting gives. -/
structure Cipher.DecryptsBy (cipher : Cipher W) (plain : Password → Password) : Prop where
  decrypt (secret : Password) : (cipher.decrypt secret).Returns fun password => password = plain secret
  encrypt (password : Password) : (cipher.encrypt password).Returns fun secret => plain secret = password

/-- The entry of a key pair that is drawn is well-formed. -/
theorem Keys.keyPair_returns (algorithm : KeyAlgorithm) (subject : String) (days : Nat) :
    (keyPair algorithm subject days : Act W KeyEntry).Returns KeyEntry.WellFormed := by
  unfold keyPair
  refine .bind_any fun subject => .bind_any fun drawn => .bind_any fun key => .bind_any fun now =>
    .bind_any fun period => .bind_any fun signed => .bind_any fun signature => .lift fun e he => ?_
  exact (KeyEntry.of_eq_ok_iff.1 he).2

namespace Service

open Operation

variable {c : Collaborators W} {plain : Password → Password}

/-! ### Steps that do not concern the state -/

section

variable (H : c.cipher.DecryptsBy plain)

include H

theorem plainPassword_returns (o : Config.Options) :
    (plainPassword c o).Returns fun password => password = plain o.password :=
  .mapError (H.decrypt o.password)

omit H in
theorem reprotect_returns (container : Container) (o : Config.Options) (old new : Password) :
    (reprotect c container o old new).Returns fun k =>
      ∀ m, container.Opens old m → k.Opens new m := by
  unfold reprotect
  refine .bind (.mapError (container.reprotect_reprotected old new)) fun k hk => ?_
  exact .bind_any fun _ => .pure fun _ => hk.opens

/-- Randomizing leaves the place and what the container opens to. -/
theorem randomize_returns {o : Config.Options} {p : Config.Properties} (container : Container)
    (ho : Config.Options.ofProperties p = .ok o) :
    (randomize c o container (plain o.password)).Returns fun store =>
      store.options.path = o.path ∧ ∀ m, container.Opens (plain o.password) m →
        store.container.Opens (plain store.options.password) m := by
  unfold randomize
  split
  · refine .bind_any fun new => ?_
    refine .bind (.mapError (H.encrypt new)) ?_
    rintro secret rfl
    refine .bind (reprotect_returns container o _ _) fun k hk => ?_
    refine .bind_any fun _ => .bind_any fun _ => ?_
    rw [Config.Options.ofProperties_withPassword ho secret]
    exact .pure ⟨rfl, hk⟩
  · exact .pure ⟨rfl, fun m h => h⟩

theorem load_returns {o : Config.Options} {p : Config.Properties}
    (ho : Config.Options.ofProperties p = .ok o) :
    (load c o).Returns fun store => store.options.path = o.path := by
  unfold load
  refine .bind (plainPassword_returns H o) ?_
  rintro _ rfl
  refine .bind_any fun container => .bind (randomize_returns H container ho) fun store hstore => ?_
  exact .bind_any fun _ => .pure hstore.1

/-- Going over to options with the same place leaves what the container opens to. -/
theorem change_returns {current : LoadedStore} {o : Config.Options} {p : Config.Properties}
    {m : Table Entry} (ho : Config.Options.ofProperties p = .ok o)
    (hpath : current.options.path.components = o.path.components)
    (h : current.container.Opens (plain current.options.password) m) :
    (change c current o).Returns fun store =>
      store.options.path = o.path ∧ store.container.Opens (plain store.options.password) m := by
  unfold change
  refine .bind (plainPassword_returns H o) ?_
  rintro _ rfl
  refine .bind (p := fun moved => moved.1.Opens (plain o.password) m) ?_ ?_
  · unfold moveContainer
    split
    · -- the place stays, so no container is opened
      rename_i hsame
      simp [Files.Path.same, hpath] at hsame
    · split
      · refine .bind (plainPassword_returns H current.options) ?_
        rintro _ rfl
        split
        · rename_i hold
          exact .pure (hold ▸ h)
        · refine .bind_any fun _ => .bind (reprotect_returns _ o _ _) fun k hk => ?_
          exact .pure (hk m h)
      · rename_i hsecret
        have hsecret : current.options.password = o.password := by simpa using hsecret
        exact .pure (hsecret ▸ h)
  · rintro ⟨container, old⟩ hmoved
    have hrandomize := (randomize_returns H container ho).imp fun store hstore =>
      And.intro hstore.1 (hstore.2 m hmoved)
    cases old with
    | none => exact hrandomize
    | some old =>
      -- putting the old container back ends in an error, never in an answer
      exact .tryCatch hrandomize fun e => .bind_any fun _ => .throw _

end

/-! ### A table beside the state -/

/-- The place is the one of the served options, and the served container opens to the table. -/
structure Serves (plain : Password → Password) (place : List Files.Component) (store : LoadedStore)
    (m : Table Entry) : Prop where
  path : store.options.path.components = place
  container : store.container.Opens (plain store.options.password) m

/-- What a table beside the state says of it. -/
structure Represents (plain : Password → Password) (place : List Files.Component) (st : State)
    (m : Table Entry) : Prop where
  emptyAlias : m.find? "" = none
  start : st = .uninitialized → m = Table.empty
  served : ∀ store, st = .loaded store → Serves plain place store m

/-- What a command makes of the table: it is changed where an entry was put or removed with success. -/
def Command.effect (command : Command) (r : Except Error Answer) (m : Table Entry) : Table Entry :=
  match command, r with
  | .setEntry (some name) (some e), .ok _ => m.insert name e
  | .deleteEntry (some name), .ok _ => m.erase name
  | .createKeyPair name .., .ok (.created e) => m.insert name (.key e)
  | _, _ => m

/-- Configurations that resolve name the place, and entries are such as can be made. -/
def Command.Admissible (place : List Files.Component) : Command → Prop
  | .activate properties | .reconfigure properties =>
    ∀ o, Config.Options.resolve properties = .ok o → o.path.components = place
  | .setEntry _ (some e) => e.WellFormed
  | _ => True

/-- If serving starts here, it starts with an empty container. -/
def StartsEmpty (st st' : State) : Prop :=
  st = .uninitialized → ∀ store, st' = .loaded store → store.container = Table.empty

namespace Represents

variable {place : List Files.Component} {st : State} {m : Table Entry}

theorem of_served {store : LoadedStore} (hm : m.find? "" = none) (h : Serves plain place store m) :
    Represents plain place (.loaded store) m where
  emptyAlias := hm
  start := fun hst => by cases hst
  served := State.forall_loaded h

theorem closed (hm : m.find? "" = none) : Represents plain place .closed m where
  emptyAlias := hm
  start := fun hst => by cases hst
  served := fun _ hst => by cases hst

end Represents

/-! ### What operations make of the table -/

section

variable (H : c.cipher.DecryptsBy plain) {place : List Files.Component} {st : State}
  {m : Table Entry} (s : Session W)

include H

theorem represents_changeTo {o : Config.Options} {p : Config.Properties}
    (ho : Config.Options.ofProperties p = .ok o) (hplace : o.path.components = place)
    (h : Represents plain place st m) :
    (changeTo c o).Returns st s fun _ st' => Represents plain place st' m := by
  refine .bind_loadedStore fun current hcurrent => ?_
  split
  · exact fun _ _ => h
  · have hserves := h.served current hcurrent
    refine .bind_perform (change_returns H ho (hserves.path.trans hplace.symm) hserves.container) ?_
    rintro store t ⟨hpath, hopens⟩ _ _
    exact .of_served h.emptyAlias ⟨by rw [hpath, hplace], hopens⟩

theorem represents_reconfigure {properties : Option Config.Properties}
    (hplace : ∀ o, Config.Options.resolve properties = .ok o → o.path.components = place)
    (h : Represents plain place st m) :
    (reconfigure c properties).Returns st s fun _ st' => Represents plain place st' m := by
  refine .bind_lift fun o ho => ?_
  obtain ⟨p, -, hp⟩ := Config.Options.resolve_eq_ok_iff.1 ho
  exact represents_changeTo H s hp (hplace o ho) h

theorem represents_activate {properties : Option Config.Properties}
    (hplace : ∀ o, Config.Options.resolve properties = .ok o → o.path.components = place)
    (h : Represents plain place st m) :
    (activate c properties).Returns st s fun _ st' =>
      StartsEmpty st st' → Represents plain place st' m := by
  refine .bind_lift fun o ho => .bind_state ?_
  obtain ⟨p, -, hp⟩ := Config.Options.resolve_eq_ok_iff.1 ho
  cases st with
  | closed => exact .throw _
  | loaded _ =>
    exact (represents_changeTo H s hp (hplace o ho) h).imp fun r st' _ hr a ha _ => hr a ha
  | uninitialized =>
    -- only here the container comes from the backend, about which nothing is known but that it is empty
    refine .bind_perform (load_returns H hp) fun store t hpath _ _ hempty => ?_
    have hcontainer : store.container = Table.empty := hempty rfl store rfl
    refine .of_served h.emptyAlias ⟨by rw [hpath, hplace o ho], ?_⟩
    rw [hcontainer, h.start rfl]
    exact .empty _

omit H in
/-- What holds once a container is served in the place of the present one also holds once it is
stored. -/
theorem represents_commits {store : LoadedStore} {container : Container} {password : Password}
    (h : Represents plain place (.loaded { store with container }) m) :
    Commits c store container password s fun r st' _ =>
      ∀ a, r = .ok a → Represents plain place st' m :=
  .of_forall fun r t u _ => by
    cases r with
    | error e => exact fun a ha => by cases ha
    | ok _ => exact fun _ _ => h

theorem represents_storeEntry {name : String} {entry : Entry} (hname : name ≠ "")
    (hentry : entry.WellFormed) (h : Represents plain place st m) :
    (storeEntry c name entry).Returns st s fun _ st' =>
      Represents plain place st' (m.insert name entry) := by
  cases st with
  | uninitialized | closed => exact fun a ha => by cases ha
  | loaded store =>
    obtain ⟨hpath, hopens⟩ := h.served store rfl
    have hempty : (m.insert name entry).find? "" = none := by
      rw [Table.find?_insert, if_neg hname.symm, h.emptyAlias]
    refine storeEntry_ensures c ((plainPassword_returns H store.options s).imp fun r t hr => ?_)
    cases r with
    | error e => exact fun a ha => by cases ha
    | ok password =>
      obtain rfl := hr password rfl
      intro stored u _ hstored
      exact represents_commits u (.of_served hempty ⟨hpath, hopens.insert (hstored hentry) name⟩)

theorem represents_setEntry {name : Option String} {entry : Option Entry}
    (hentry : ∀ e, entry = some e → e.WellFormed) (h : Represents plain place st m) :
    (setEntry c name entry).Returns st s fun _ st' =>
      Represents plain place st' ((Command.setEntry name entry).effect (.ok .done) m) := by
  refine .bind_required fun name hname => ?_
  subst hname
  split
  · exact .throw _
  · rename_i hempty
    refine .bind_required fun e he => ?_
    subst he
    have hne : name ≠ "" := mt String.isEmpty_iff.2 hempty
    exact represents_storeEntry H s hne (hentry e rfl) h

theorem represents_createKeyPair {name : String} {algorithm : Keys.KeyAlgorithm} {subject : String}
    {days : Nat} (h : Represents plain place st m) :
    (createKeyPair c name algorithm subject days).Returns st s fun e st' =>
      Represents plain place st' (m.insert name (.key e)) := by
  unfold createKeyPair
  split
  · exact fun a ha => by cases ha
  · rename_i hempty
    have hne : name ≠ "" := mt String.isEmpty_iff.2 hempty
    refine ReadOnly.bind_returns (.map _ .loadedStore) fun _ t => ?_
    refine .bind_perform (Keys.keyPair_returns algorithm subject days) fun e u he => .bind_pure ?_
    exact represents_storeEntry H u hne he h

theorem represents_deleteEntry {name : Option String} (h : Represents plain place st m) :
    (deleteEntry c name).Returns st s fun _ st' =>
      Represents plain place st' ((Command.deleteEntry name).effect (.ok .done) m) := by
  match name, st with
  | none, _ => exact fun a ha => by cases ha
  | some _, .uninitialized | some _, .closed => exact fun a ha => by cases ha
  | some name, .loaded store =>
    obtain ⟨hpath, hopens⟩ := h.served store rfl
    have hempty : (m.erase name).find? "" = none := by
      rw [Table.find?_erase, h.emptyAlias, ite_self]
    refine deleteEntry_ensures c (fun habsent t _ a _ => ?_) fun _ => ?_
    · -- a container without the alias opens to a table without it
      have hnone : m.find? name = none := hopens.of_none (by simpa [Table.contains] using habsent)
      have herase : m.erase name = m := Table.ext_find? fun k => by
        rw [Table.find?_erase]
        split
        · rename_i hk
          rw [hk, hnone]
        · rfl
      change Represents plain place (.loaded store) (m.erase name)
      rw [herase]
      exact h
    · refine (plainPassword_returns H store.options s).imp fun r t hr => ?_
      cases r with
      | error e => exact fun a ha => by cases ha
      | ok password => exact represents_commits t (.of_served hempty ⟨hpath, hopens.erase name⟩)

omit H in
theorem Command.effect_error (command : Command) (e : Error) (m : Table Entry) :
    command.effect (.error e) m = m := by
  unfold effect
  split <;> first | rfl | (rename_i h; cases h)

/-- A command that succeeds takes the table along. -/
theorem Command.represents_of_ok {command : Command} (hcommand : command.Admissible place)
    (h : Represents plain place st m) :
    (command.run c).Returns st s fun a st' =>
      StartsEmpty st st' → Represents plain place st' (command.effect (.ok a) m) := by
  cases command with
  | activate properties => exact .bind_pure (represents_activate H s hcommand h)
  | reconfigure properties =>
    exact .bind_pure ((represents_reconfigure H s hcommand h).imp fun r st' t hr a ha _ => hr a ha)
  | setEntry name entry =>
    have hentry : ∀ e, entry = some e → e.WellFormed := fun e he => by
      subst he
      exact hcommand
    exact .bind_pure ((represents_setEntry H s hentry h).imp fun r st' t hr a ha _ => hr a ha)
  | deleteEntry name =>
    exact .bind_pure ((represents_deleteEntry H s h).imp fun r st' t hr a ha _ => hr a ha)
  | createKeyPair name algorithm subject days =>
    exact .bind_pure ((represents_createKeyPair H s h).imp fun r st' t hr a ha _ => hr a ha)
  | close => cases st <;> exact fun _ _ _ => .closed h.emptyAlias
  | isActive | store | aliases | entry | entries | keyManagers | request =>
    refine (readOnly_run (R := Anyhow) c (fun _ _ => trivial) rfl st s).imp ?_
    rintro r _ t ⟨rfl, -⟩ a ha _
    exact h

/-- **Every command takes the table along.** -/
theorem Command.represents_run {command : Command} (hcommand : command.Admissible place)
    (h : Represents plain place st m) (hempty : StartsEmpty st (command.run c st s).1.2) :
    Represents plain place (command.run c st s).1.2 (command.effect (command.run c st s).1.1 m) := by
  have hatomic := atomic_run c command st s
  have hok := represents_of_ok H s hcommand h
  rw [Ensures] at hatomic
  rw [Returns, Ensures] at hok
  cases hr : (command.run c st s).1.1 with
  | error e =>
    rw [hatomic e hr, effect_error]
    exact h
  | ok a => exact hok a hr hempty

end

/-! ### Runs -/

/-- The states of a run at one place, each with a table that changes only where an entry was put or
removed with success.  Commands are called in any order and in any sessions; the first container that
is served is empty. -/
inductive Mirrored (c : Collaborators W) (place : List Files.Component) :
    State → Table Entry → Prop where
  | start : Mirrored c place .uninitialized Table.empty
  | call {st : State} {m : Table Entry} (command : Command) (s : Session W)
      (h : Mirrored c place st m) (hcommand : command.Admissible place)
      (hempty : StartsEmpty st (command.run c st s).1.2) :
      Mirrored c place (command.run c st s).1.2 (command.effect (command.run c st s).1.1 m)

/-- A command that succeeds in a run. -/
theorem Mirrored.call_of_ok {place : List Files.Component} {st st' : State} {m : Table Entry}
    {s : Session W} {a : Answer} (h : Mirrored c place st m) (command : Command)
    (hcommand : command.Admissible place) (hempty : StartsEmpty st st')
    (hrun : (command.run c st s).1 = (.ok a, st')) :
    Mirrored c place st' (command.effect (.ok a) m) := by
  have hcall := h.call command s hcommand
  rw [hrun] at hcall
  exact hcall hempty

theorem Mirrored.represents (H : c.cipher.DecryptsBy plain) {place : List Files.Component}
    {st : State} {m : Table Entry} (h : Mirrored c place st m) : Represents plain place st m := by
  induction h with
  | start => exact ⟨rfl, fun _ => rfl, fun _ hst => by cases hst⟩
  | call command s _ hcommand hempty ih => exact command.represents_run H s hcommand ih hempty

/-- The answer to reading `value` while `store` is served: it is `value`, or else the password of the
options could not be decrypted. -/
def Reading {α : Type} (c : Collaborators W) (store : LoadedStore) (s : Session W) (value : α) :
    Except Error α → Prop
  | .ok a => a = value
  | .error _ => ∃ e, (c.cipher.decrypt store.options.password s).1 = .error e

/-- Called while `store` is served, an operation reads `value`. -/
def Reads {α : Type} (c : Collaborators W) (store : LoadedStore) (value : α) (op : Operation W α) :
    Prop :=
  ∀ s, op.Ensures (.loaded store) s fun r _ _ => Reading c store s value r

theorem reading_of_eq (H : c.cipher.DecryptsBy plain) {α : Type} {store : LoadedStore} {value : α}
    {read : Password → Except Error α} (hread : read (plain store.options.password) = .ok value)
    (s : Session W) :
    Ensures (do
        let password ← perform (plainPassword c store.options)
        read password) (.loaded store) s fun r _ _ => Reading c store s value r := by
  have hdecrypt : (plainPassword c store.options).Ensures s fun r _ =>
      Reading c store s (plain store.options.password) r := by
    refine .mapError (p := fun r _ => (c.cipher.decrypt store.options.password s).1 = r) rfl ?_ ?_
    · intro password t hpassword
      exact H.decrypt store.options.password s password hpassword
    · exact fun e t he => ⟨e, he⟩
  refine .bind_perform hdecrypt (fun password t hpassword => .lift ?_) fun e t he => he
  rw [show password = _ from hpassword, hread]
  rfl

/-- **The service is the table.**  After every run at one place, reading all entries gives the table and
reading one entry gives what the table has under its alias: the entry that was last put there with
success, whatever passwords the container went through. -/
theorem Mirrored.reads (H : c.cipher.DecryptsBy plain) {place : List Files.Component}
    {store : LoadedStore} {m : Table Entry} (h : Mirrored c place (.loaded store) m) :
    Reads c store m (entries c) ∧
      ∀ name, Reads c store (m.find? name) <| entry? c (some name) := by
  have hrepresents := h.represents H
  have hopens := (hrepresents.served store rfl).container
  refine ⟨fun s => reading_of_eq H hopens.entries_eq s, fun name s => ?_⟩
  unfold entry?
  refine .bind_required (fun a ha => ?_) fun ha => by cases ha
  obtain rfl := Option.some.inj ha
  refine .bind_loadedStore (fun current hst => ?_) fun hst => absurd rfl (hst store)
  obtain rfl := State.loaded.inj hst
  split
  · rename_i hempty
    have hname : name = "" := by simpa using hempty
    refine .pure ?_
    rw [hname]
    exact hrepresents.emptyAlias.symm
  · exact reading_of_eq H (hopens.entry?_eq name) s

/-! ### A run through three passwords

A private key and a certificate are stored while the container is under the password `one`.  Then the
container is put under `two`, and from there under a random password. -/

/-- The cipher of faithful collaborators decrypts by a function. -/
theorem Faithful.decryptsBy {record : W → Records} (H : Faithful c record plain) :
    c.cipher.DecryptsBy plain where
  decrypt secret s := Act.Ensures.imp (H.decrypt secret s) fun r t hr a ha => by
    subst ha
    exact hr.2
  encrypt password s := Act.Ensures.imp (H.encrypt password s) fun r t hr a ha => by
    subst ha
    exact hr.2

namespace Rekeyed

def session : Session Records := ⟨fun _ => none, ⟨fun _ => 0, 0⟩, 0, []⟩

/-- What is served under the password `one`. -/
def first (container : Container) : LoadedStore := ⟨Ledger.options "t|one" false, container⟩

def activated : (Except Error Answer × State) × Session Records :=
  (Command.activate (some (Ledger.properties "t|one" false))).run .ledger .uninitialized session

def keyed : (Except Error Answer × State) × Session Records :=
  (Command.setEntry (some "gateway") (some (.key Sample.entry))).run .ledger activated.1.2 activated.2

def trusted : (Except Error Answer × State) × Session Records :=
  (Command.setEntry (some "root") (some (.trusted ⟨Sample.certificate 1⟩))).run .ledger keyed.1.2
    keyed.2

def rekeyed : (Except Error Answer × State) × Session Records :=
  (Command.reconfigure (some (Ledger.properties "t|two" true))).run .ledger trusted.1.2 trusted.2

/-- The table in the end. -/
def table : Table Entry :=
  (Table.empty.insert "gateway" (.key Sample.entry)).insert "root" (.trusted ⟨Sample.certificate 1⟩)

theorem admissible (secret : String) (randomize : Bool) (o : Config.Options)
    (ho : Config.Options.resolve (some (Ledger.properties secret randomize)) = .ok o) :
    o.path.components = Ledger.path.components := by
  rw [Ledger.resolve_properties] at ho
  obtain rfl := Except.ok.inj ho
  rfl

theorem decrypts_first : Decrypts .ledger untag (Ledger.options "t|one" false) :=
  decrypts_ledger (by decide)

theorem outcome_activated : activated.1 = (.ok .done, .loaded (first Table.empty)) := by
  decide +kernel

theorem mirrored_activated :
    Mirrored .ledger Ledger.path.components (.loaded (first Table.empty)) Table.empty := by
  have hempty : StartsEmpty .uninitialized (.loaded (first Table.empty)) := by
    rintro - _ ⟨⟩
    rfl
  exact Mirrored.start.call_of_ok (.activate (some (Ledger.properties "t|one" false)))
    (admissible "t|one" false) hempty outcome_activated

/-- An entry is put while the container is under the first password. -/
theorem mirrored_put {container : Container} {m : Table Entry}
    (h : Mirrored .ledger Ledger.path.components (.loaded (first container)) m) (name : String)
    (hname : name ≠ "") (entry : Entry) (hentry : entry.WellFormed) (s : Session Records) :
    ∃ container', ((Command.setEntry (some name) (some entry)).run .ledger
        (.loaded (first container)) s).1 = (.ok .done, .loaded (first container')) ∧
      Mirrored .ledger Ledger.path.components (.loaded (first container')) (m.insert name entry) := by
  obtain ⟨hanswer, container', hstate⟩ := Command.setEntry_succeeds obliging_ledger
    (first container) decrypts_first hname entry s
  have hrun : ((Command.setEntry (some name) (some entry)).run .ledger
      (.loaded (first container)) s).1 = (.ok .done, .loaded (first container')) :=
    Prod.ext hanswer hstate
  refine ⟨container', hrun, ?_⟩
  exact h.call_of_ok (.setEntry (some name) (some entry)) hentry (fun hst => by cases hst) hrun

theorem mirrored_trusted :
    ∃ container, trusted.1 = (.ok .done, .loaded (first container)) ∧
      Mirrored .ledger Ledger.path.components (.loaded (first container)) table := by
  have hcertificate := Sample.wellFormed_entry.2.2 (Sample.certificate 1) List.mem_cons_self
  obtain ⟨container, hkeyed, h⟩ := mirrored_put mirrored_activated "gateway" (by decide)
    (.key Sample.entry) Sample.wellFormed_entry activated.2
  rw [trusted, keyed, outcome_activated, hkeyed]
  exact mirrored_put h "root" (by decide) (.trusted ⟨Sample.certificate 1⟩) hcertificate _

theorem mirrored_rekeyed :
    ∃ store, rekeyed.1 = (.ok .done, .loaded store) ∧
      Mirrored .ledger Ledger.path.components (.loaded store) table ∧
      (untag store.options.password).text.length = 40 := by
  obtain ⟨container, htrusted, h⟩ := mirrored_trusted
  have hopens := ((h.represents faithful_ledger.decryptsBy).served _ rfl).container
  have hother : (Ledger.options "t|one" false).same (Ledger.options "t|two" true) = false := by
    decide
  obtain ⟨hanswer, store, hstate, hlength⟩ := Command.reconfigure_succeeds obliging_ledger
    (Ledger.resolve_properties "t|two" true) decrypts_first (decrypts_ledger (by decide)) rfl hother
    hopens trusted.2
  rw [rekeyed, htrusted]
  have hrun : ((Command.reconfigure (some (Ledger.properties "t|two" true))).run .ledger
      (.loaded (first container)) trusted.2).1 = (.ok .done, .loaded store) :=
    Prod.ext hanswer hstate
  refine ⟨store, hrun, ?_, hlength rfl⟩
  exact h.call_of_ok (.reconfigure _) (admissible "t|two" true)
    (fun hst => by cases hst) hrun

end Rekeyed

/-- Under the third password, which has forty digits, the private key and the certificate are read as
they were put under the first one. -/
theorem Mirrored.reads_rekeyed :
    ∃ store, Rekeyed.rekeyed.1 = (.ok .done, .loaded store) ∧
      (untag store.options.password).text.length = 40 ∧
      Reads .ledger store Rekeyed.table (entries .ledger) ∧
      ∀ name, Reads .ledger store (Rekeyed.table.find? name) <| entry? .ledger (some name) := by
  obtain ⟨store, hrun, hmirrored, hlength⟩ := Rekeyed.mirrored_rekeyed
  exact ⟨store, hrun, hlength, hmirrored.reads faithful_ledger.decryptsBy⟩

end Service

end Keyring
