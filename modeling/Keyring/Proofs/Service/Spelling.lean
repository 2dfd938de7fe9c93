import Keyring.Proofs.Service.Endings
import Keyring.Proofs.Service.OnFiles

/-!
# How a path is spelled

The service compares paths by their components, the file system takes them as they are written.  A
run *spells* its paths if it writes a path that compares equal to the one in force the same way
(`Command.Spells`).

* `Ran.retaining` : in such a run, what is served is filed under the path of its options;
* `Ran.activates` : a configuration that such a service accepts can be activated, and gives what it
  serves;
* `OnFiles.accepts_slashed` : a configuration that has one more slash at the end of the path of a
  file is accepted, and can not be activated.

The proof: each call either ends in a container that is filed under the path of the new options, or
fails and leaves the one in force where it is.  A change that is none keeps the container under the
old spelling, and this is where the new one has to be the same.  Going over to another path may fail
half way, with files written; they are in the territory of the other path, so what is served has to
lie outside of it.

What this does **not** say: two spellings may well stand for one file (`a//b` and `a/b` do), and then
either can be activated.  The condition is on the letters of the path only, since which spellings
agree depends on what is in the tree.
-/

namespace Keyring.Service

open Files Files.Disk Backend Operation

variable {W : Type} {c : Collaborators W} {fs : FileSystem W} {disk : W → Disk}
  {plain : Password → Except Error Password}

/-! ### Runs -/

/-- A call that ends in `r` spells its path: a path that compares equal to the one in force is
written the same way, and what is filed under the one in force is apart from the territory of
another one, unless going over to that succeeds. -/
def Command.Spells (disk : W → Disk) (command : Command) (r : Except Error Answer) (st : State)
    (s : Session W) : Prop :=
  ∀ store o, st = .loaded store → command.AsksFor o →
    (store.options.path.same o.path = true → o.path = store.options.path) ∧
    (store.options.path.same o.path = false → (∃ e, r = .error e) →
      Apart (disk s.world) store.options.path o.path)

/-- The states and sessions of a run that starts uninitialized: commands are called in any order,
they spell their paths, and nobody else writes files in between.  Every container that a call had to
put back was. -/
inductive Ran (c : Collaborators W) (disk : W → Disk) : State → Session W → Prop where
  | start (s : Session W) : Ran c disk .uninitialized s
  | idle {st : State} {s t : Session W} (h : Ran c disk st s) (hdisk : disk t.world = disk s.world) :
      Ran c disk st t
  | call {st : State} {s : Session W} (command : Command) (h : Ran c disk st s)
      (hspells : command.Spells disk (command.run c st s).1.1 st s)
      (hheld : PutBacksHeld s (command.run c st s).2) :
      Ran c disk (command.run c st s).1.2 (command.run c st s).2

/-- What is served, if anything is, is filed. -/
def Retaining (disk : W → Disk) (plain : Password → Except Error Password) (st : State) (w : W) :
    Prop :=
  ∀ store, st = .loaded store → Retained disk plain store w

theorem Retained.retaining {store : LoadedStore} {w : W} (h : Retained disk plain store w) :
    Retaining disk plain (.loaded store) w :=
  State.forall_loaded h

theorem Retained.of_disk {store : LoadedStore} {w w' : W} (h : Retained disk plain store w)
    (hdisk : disk w' = disk w) : Retained disk plain store w' := by
  rw [Retained, hdisk]
  exact h

namespace OnFiles

variable (H : OnFiles c fs disk plain)

include H

/-- The steps of a command keep filed what is served, or fail and keep filed what was. -/
theorem retaining_endings {command : Command} {st : State} {s : Session W} {r : Except Error Answer}
    (hst : Retaining disk plain st s.world) (hspells : command.Spells disk r st s) :
    Endings c (Unwritten disk) (fun secret password => plain secret = .ok password) command st s
      (fun st' t => Retaining disk plain st' t.world)
      fun t => (∃ e, r = .error e) → PutBacksHeld s t → Retaining disk plain st t.world where
  look t ht := by
    have hretaining : Retaining disk plain st t.world := fun store hstore =>
      (hst store hstore).of_disk ht.disk
    exact ⟨hretaining, fun _ _ => hretaining⟩
  closed _ _ _ hstore := by cases hstore
  decrypt secret t := (H.decrypt_ends secret t).imp (fun _ _ h => h) fun _ h => h.1
  load o := fun ⟨p, _, ho⟩ hstart =>
    (H.load_retained ho s).imp (fun _ _ ht => ht.retaining) fun _ _ _ _ store hstore => by
      rw [hstart] at hstore
      cases hstore
  change current o hasks hcurrent := by
    obtain ⟨hsame, hother⟩ := hspells current o hcurrent hasks
    obtain ⟨p, -, ho⟩ := hasks
    cases hpath : current.options.path.same o.path with
    | true =>
      refine (H.change_ends ho (hsame hpath) (hst current hcurrent)).imp
        (fun _ _ ht => ht.1.retaining) fun t ht _ hheld => ?_
      rw [hcurrent]
      exact (ht hheld).retaining
    | false =>
      rw [change_eq_relocate hpath]
      refine (H.relocate_ends ho current s).imp (fun _ _ ht => ht.1.retaining) fun t ht hfailed _ => ?_
      -- what is served lies outside the territory of the path that could not be gone over to
      obtain ⟨password, hpassword, hfiled⟩ := hst current hcurrent
      rw [hcurrent]
      exact Retained.retaining ⟨password, hpassword, hfiled.of_apart ht (hother hpath hfailed)⟩
  commits store container password t hstore _ ht hpassword := by
    subst hstore
    refine Act.Ensures.imp (H.store_ends container store.options.path password t) fun r u hu v hv => ?_
    cases r with
    | ok _ => exact Retained.retaining ⟨password, hpassword, hv.world ▸ hu.2.2⟩
    | error e =>
      refine ⟨rfl, fun _ _ => Retained.retaining ?_⟩
      obtain ⟨previous, hprevious, hfiled⟩ := hst store rfl
      refine ⟨previous, hprevious, ?_⟩
      rw [hv.world]
      exact hu.1.filed _ _ (ht.disk ▸ hfiled)

end OnFiles

/-- **What is served is filed.** -/
theorem Ran.retaining (H : OnFiles c fs disk plain) {st : State} {s : Session W}
    (h : Ran c disk st s) : Retaining disk plain st s.world := by
  induction h with
  | start s => exact fun _ hstore => by cases hstore
  | idle _ hdisk ih => exact fun store hstore => (ih store hstore).of_disk hdisk
  | @call st s command _ hspells hheld ih =>
    rcases (H.retaining_endings ih hspells).run_ends.good_or_bad with h | ⟨hfailed, hsame, hbad⟩
    · exact h
    · -- the state is the one before the call, and what it serves is still filed
      rw [hsame]
      exact hbad hfailed hheld

/-! ### Activating what was accepted -/

section

variable (H : OnFiles c fs disk plain)

include H

/-- Options that are gone over to, and ask for no random password, are those in force. -/
theorem OnFiles.changeTo_filed {store : LoadedStore} {o : Config.Options} {p : Config.Properties}
    {s : Session W} (hstore : Retained disk plain store s.world)
    (ho : Config.Options.ofProperties p = .ok o) (hrandomize : o.randomize = false)
    (hspelled : store.options.path.same o.path = true → o.path = store.options.path) :
    (changeTo c o).Ensures (.loaded store) s fun r st t => ∀ a, r = .ok a →
      ∃ store' password, st = .loaded store' ∧ plain o.password = .ok password ∧
        Filed (disk t.world) o.path store'.container password := by
  unfold changeTo
  refine .bind_loaded ?_
  split
  · -- no change: path and password are those in force
    rename_i hsame
    simp only [Config.Options.same, Bool.and_eq_true, beq_iff_eq] at hsame
    obtain ⟨⟨⟨-, hpath⟩, hpassword⟩, -⟩ := hsame
    obtain ⟨password, hplain, hfiled⟩ := hstore
    refine .perform (.report fun t ht _ _ => ⟨store, password, rfl, ?_, ?_⟩)
    · rwa [← hpassword]
    · rw [hspelled hpath, ht.world]
      exact hfiled
  · have hchange : (change c store o).Ends s
        (fun store' t => Retained disk plain store' t.world ∧ store'.options = o) fun _ => True := by
      cases hpath : store.options.path.same o.path with
      | true =>
        exact (H.change_ends ho (hspelled hpath) hstore).imp
          (fun _ _ ht => ⟨ht.1, ht.2 hrandomize⟩) fun _ _ => trivial
      | false =>
        rw [change_eq_relocate hpath]
        exact (H.relocate_ends ho store s).imp
          (fun _ _ ht => ⟨ht.1, ht.2 hrandomize⟩) fun _ _ => trivial
    refine .bind_perform hchange ?_ fun _ _ _ a ha => by cases ha
    rintro store' t ⟨⟨password, hplain, hfiled⟩, rfl⟩
    exact .setState fun _ _ => ⟨store', password, rfl, hplain, hfiled⟩

/-- Options with a password under which a container is filed give that container. -/
theorem OnFiles.activate_filed {o : Config.Options} {p : Config.Properties} {container : Container}
    {password : Password} {u : Session W} (ho : Config.Options.ofProperties p = .ok o)
    (hrandomize : o.randomize = false) (hpassword : plain o.password = .ok password)
    (hfiled : Filed (disk u.world) o.path container password) :
    ∃ v, (Command.activate (some p)).run c .uninitialized u =
      ((.ok .done, .loaded ⟨o, container⟩), v) ∧ disk v.world = disk u.world := by
  rcases Command.activate_ensures ho (H.load_filed hrandomize hpassword hfiled) with
    ⟨_, hr, hst, rfl, hv⟩ | ⟨-, hfalse⟩
  · exact ⟨_, Prod.ext (Prod.ext hr hst) rfl, hv.disk⟩
  · exact hfalse.elim

/-- **A configuration that is accepted can be activated.**  In a run that spells its paths, if a
configuration that asks for no random password and spells its path is applied with success, a new
service that gets it on the same files serves the same container. -/
theorem Ran.activates {store : LoadedStore} {s t : Session W} (h : Ran c disk (.loaded store) s)
    {p : Config.Properties} {o : Config.Options} (ho : Config.Options.ofProperties p = .ok o)
    (hrandomize : o.randomize = false)
    (hspelled : store.options.path.same o.path = true → o.path = store.options.path)
    {a : Answer} {st : State}
    (hrun : (Command.reconfigure (some p)).run c (.loaded store) s = ((.ok a, st), t)) :
    ∃ store', st = .loaded store' ∧ ∀ u : Session W, disk u.world = disk t.world →
      ∃ v, (Command.activate (some p)).run c .uninitialized u =
        ((.ok .done, .loaded ⟨o, store'.container⟩), v) ∧ disk v.world = disk u.world := by
  have hreconfigure : ((Command.reconfigure (some p)).run c).Ensures (.loaded store) s
      fun r st t => ∀ a, r = .ok a → ∃ store' password, st = .loaded store' ∧
        plain o.password = .ok password ∧ Filed (disk t.world) o.path store'.container password := by
    refine Command.reconfigure_ensures ho ?_
    have hchange := H.changeTo_filed (h.retaining H store rfl) ho hrandomize hspelled
    refine hchange.imp fun r _ _ hr a ha => ?_
    cases r with
    | ok _ => exact hr () rfl
    | error e => cases ha
  rw [Ensures, hrun] at hreconfigure
  obtain ⟨store', password, hstore, hpassword, hfiled⟩ := hreconfigure a rfl
  refine ⟨store', hstore, fun u hu => H.activate_filed ho hrandomize hpassword ?_⟩
  rwa [hu]

/-! ### One more slash -/

/-- **One more slash at the end of the path of a file is accepted, and can not be activated.**  The
path compares equal to the one in force, so nobody is called; but what ends in a slash can only be a
directory. -/
theorem OnFiles.accepts_slashed {store : LoadedStore} {s : Session W}
    (hstore : Retained disk plain store s.world)
    (hfile : (disk s.world).isDirectory store.options.path = false) {p : Config.Properties}
    {o : Config.Options} (ho : Config.Options.ofProperties p = .ok o)
    (hpath : o.path = store.options.path.slashed) (hserviceId : o.serviceId = store.options.serviceId)
    (hpassword : o.password = store.options.password)
    (hrandomize : o.randomize = store.options.randomize) :
    (Command.reconfigure (some p)).run c (.loaded store) s =
        ((.ok .done, .loaded store),
          { s with journal := s.journal ++ [⟨.debug, "keystore configuration unchanged", []⟩] }) ∧
      ∀ u : Session W, disk u.world = disk s.world →
        ∃ e, ((Command.activate (some p)).run c .uninitialized u).1.1 = .error e := by
  -- what is served is in a file, so the path is not empty and names no directory
  obtain ⟨password, hplain, place, content, hexisting, -⟩ := hstore
  rw [containerPath, if_neg (by simp [fileSystem, hfile])] at hexisting
  constructor
  · have hsame : store.options.same o = true := by
      simp [Config.Options.same, hpath, hserviceId, hpassword, hrandomize,
        Path.same_slashed (text_ne_of_existing hexisting)]
    have hrun : ((Command.reconfigure (some p)).run c).Ensures (.loaded store) s fun r st t =>
        ((r, st), t) = ((.ok .done, .loaded store),
          { s with journal := s.journal ++ [⟨.debug, "keystore configuration unchanged", []⟩] }) := by
      refine Command.reconfigure_ensures ho ?_
      rw [Ensures, changeTo_same hsame]
      rfl
    exact hrun
  · intro u hu
    have hdirectory : (disk u.world).isDirectory o.path = false := by
      rw [hu, hpath, ← Bool.not_eq_true, isDirectory_iff]
      rintro ⟨q, hq⟩
      exact not_existing_slashed hexisting q _ hq
    have hslash : endsInSlash o.path = true := by rw [hpath, endsInSlash_slashed]
    rcases Command.activate_ensures ho (H.load_slash hslash hdirectory) with
      ⟨_, -, -, hfalse⟩ | ⟨hr, -⟩
    · exact hfalse.elim
    · exact hr

end

/-! ### One file -/

/-- Containers in the files of a tree, secrets in the clear, and configurations that are taken. -/
def Collaborators.onDisk : Collaborators Disk where
  backend := Backend.files Disk.fileSystem
  cipher := .plain
  updateConfiguration _ _ := return ()

theorem onFiles_onDisk : OnFiles .onDisk Disk.fileSystem id .ok where
  backend := rfl
  follows := follows_fileSystem
  decrypt _ s := ⟨rfl, Course.refl _ s⟩
  encrypt _ s := ⟨Course.refl _ s, rfl⟩
  updateConfiguration _ _ s := Course.refl _ s

namespace OneFile

/-- A configuration that names a file. -/
def properties (path : String) : Config.Properties :=
  (Table.empty.insert Config.Key.path.name (.string path)).insert Config.Key.password.name
    (.string "pw")

/-- What it resolves to. -/
def options (path : String) : Config.Options where
  properties := (properties path).erase Config.Key.password.name
  serviceId := none
  path := ⟨path⟩
  password := ⟨"pw"⟩
  randomize := false

/-- A configuration that names the service, too. -/
def named : Config.Properties := (properties "k").insert Config.Key.serviceId.name (.string "keys")

def namedOptions : Config.Options :=
  { options "k" with properties := named.erase Config.Key.password.name, serviceId := some "keys" }

def session : Session Disk := ⟨Disk.fresh, ⟨fun _ => 0, 0⟩, 0, []⟩

/-- What the tree is once a container is stored in the file. -/
def Stored (t : Session Disk) : Prop :=
  (∃ content, t.world = Disk.fresh.put ["tmp", "keyring", "k"] (.file content)) ∧ losses t = 0

theorem storeFile_ends (container : Container) (password : Password) {s : Session Disk}
    (hdisk : s.world = Disk.fresh) (hlosses : losses s = 0) :
    (storeFile Disk.fileSystem container ⟨"k"⟩ password).Ends s (fun _ t => Stored t)
      fun _ => False := by
  have hfile : containerPath Disk.fileSystem ⟨"k"⟩ s.world = ⟨"k"⟩ := by
    rw [hdisk]
    rfl
  have htemporary : temporary ⟨"k"⟩ = ⟨"k.tmp"⟩ := by decide +kernel
  have hparent : Path.parent? ⟨"k"⟩ = some ⟨""⟩ := by decide +kernel
  have hwrite : ∀ content, Disk.fileSystem.write (temporary ⟨"k"⟩) content s.world =
      (.ok (), Disk.fresh.put ["tmp", "keyring", "k.tmp"] (.file content)) := by
    rw [htemporary, hdisk]
    exact fun _ => rfl
  have hmove : ∀ content, Disk.fileSystem.rename (temporary ⟨"k"⟩) ⟨"k"⟩
      (Disk.fresh.put ["tmp", "keyring", "k.tmp"] (.file content)) =
        (.ok (), Disk.fresh.put ["tmp", "keyring", "k"] (.file content)) := by
    rw [htemporary]
    exact fun _ => rfl
  have hends := storeFile_here hfile hparent hwrite hmove container password
  refine Act.Ends.imp hends ?_ ?_
  · rintro _ t ⟨content, fields, -, ht, hj⟩
    refine ⟨⟨content, ht⟩, ?_⟩
    rw [losses, hj]
    exact (losses_report_of_not_isLoss s (by simp [isLoss])).trans hlosses
  · rintro _ ⟨_, _, hr⟩
    cases hr

variable {o : Config.Options} (hpath : o.path = ⟨"k"⟩)

include hpath

theorem openContainer_ends (password : Password) {s : Session Disk} (hdisk : s.world = Disk.fresh)
    (hlosses : losses s = 0) :
    (openContainer .onDisk o password).Ends s
      (fun container t => container = Table.empty ∧ Stored t) fun _ => False := by
  have hcontains : (Collaborators.onDisk.backend.contains o.path).Ends s
      (fun there t => there = false ∧ t = s) fun _ => False := by
    rw [hpath]
    refine ⟨?_, rfl⟩
    rw [hdisk]
    rfl
  have hstore : ∀ t : Session Disk, t.world = Disk.fresh → losses t = 0 →
      (Collaborators.onDisk.backend.store Table.empty o.path password).Ends t (fun _ u => Stored u)
        fun _ => False := by
    rw [hpath]
    exact fun t => storeFile_ends Table.empty password
  -- with the collaborators hidden, no step tries to evaluate what they do
  generalize Collaborators.onDisk = c at hcontains hstore ⊢
  unfold openContainer
  refine .bind hcontains ?_ fun _ h => h
  rintro _ s ⟨rfl, rfl⟩
  have hreport : (Act.report .info "creating empty keystore" [("path", o.path.text)]).Ends s
      (fun _ t => t.world = Disk.fresh ∧ losses t = 0) fun _ => False :=
    ⟨hdisk, (losses_report_of_not_isLoss s (by simp [isLoss])).trans hlosses⟩
  refine .bind hreport ?_ fun _ h => h
  rintro _ t ⟨hdisk, hlosses⟩
  exact .bind (.mapError (hstore t hdisk hlosses)) (fun _ u hu => .pure ⟨rfl, hu⟩) fun _ h => h

theorem load_ends (hrandomize : o.randomize = false) {s : Session Disk} (hdisk : s.world = Disk.fresh)
    (hlosses : losses s = 0) :
    (load .onDisk o).Ends s (fun store t => store = ⟨o, Table.empty⟩ ∧ Stored t) fun _ => False := by
  have hpassword : (plainPassword Collaborators.onDisk o).Ends s
      (fun _ t => t = s) fun _ => False := rfl
  have hopen := fun password => openContainer_ends hpath password hdisk hlosses
  generalize Collaborators.onDisk = c at hpassword hopen ⊢
  unfold load
  refine .bind hpassword ?_ fun _ h => h
  rintro password _ rfl
  refine .bind (hopen password) ?_ fun _ h => h
  rintro _ t ⟨rfl, ht⟩
  rw [randomize, hrandomize]
  refine .bind (p := fun store u => store = ⟨o, Table.empty⟩ ∧ Stored u) (q := fun _ => False)
    (.pure ⟨rfl, ht⟩) ?_ fun _ h => h
  rintro _ u ⟨rfl, ⟨content, hcontent⟩, hlosses⟩
  refine ⟨rfl, ⟨content, hcontent⟩, ?_⟩
  rw [← hlosses]
  exact losses_report_of_not_isLoss u (by simp [isLoss])

theorem activate_ends {p : Config.Properties} (ho : Config.Options.ofProperties p = .ok o)
    (hrandomize : o.randomize = false) {s : Session Disk} (hdisk : s.world = Disk.fresh)
    (hlosses : losses s = 0) :
    ((Command.activate (some p)).run .onDisk .uninitialized s).1 =
        (.ok .done, .loaded ⟨o, Table.empty⟩) ∧
      Stored ((Command.activate (some p)).run .onDisk .uninitialized s).2 := by
  rcases Command.activate_ensures ho (load_ends hpath hrandomize hdisk hlosses) with
    ⟨_, hr, hst, rfl, hstored⟩ | ⟨-, hfalse⟩
  · exact ⟨Prod.ext hr hst, hstored⟩
  · exact hfalse.elim

omit hpath

def activated : (Except Error Answer × State) × Session Disk :=
  (Command.activate (some (properties "k"))).run .onDisk .uninitialized session

/-- What is served once the file is created. -/
def store : LoadedStore := ⟨options "k", Table.empty⟩

theorem outcome_activated : activated.1 = (.ok .done, .loaded store) ∧ Stored activated.2 :=
  activate_ends rfl (by decide +kernel) rfl rfl rfl

theorem ran_activated : Ran .onDisk id (.loaded store) activated.2 := by
  have hstart : Ran .onDisk id .uninitialized session := .start session
  have hcall := Ran.call (Command.activate (some (properties "k"))) hstart
    (fun _ _ hst => by cases hst) (Nat.le_of_eq outcome_activated.2.2)
  have hstate : activated.1.2 = .loaded store := congrArg Prod.snd outcome_activated.1
  rw [← hstate]
  exact hcall

theorem changeTo_named (s : Session Disk) :
    changeTo .onDisk namedOptions (.loaded store) s =
      ((.ok (), .loaded ⟨namedOptions, Table.empty⟩), s) := by
  have hsame : store.options.same namedOptions = false := by decide +kernel
  have hpath : store.options.path.same namedOptions.path = true := by decide +kernel
  have hpassword : store.options.password = namedOptions.password := rfl
  have hrandomize : namedOptions.randomize = false := rfl
  have hchange : change .onDisk store namedOptions s = (.ok ⟨namedOptions, Table.empty⟩, s) := by
    simp only [change, moveContainer, randomize, hpath, hpassword, hrandomize]
    rfl
  rw [changeTo_other hsame, hchange]

theorem outcome_named (s : Session Disk) :
    (Command.reconfigure (some named)).run .onDisk (.loaded store) s =
      ((.ok .done, .loaded ⟨namedOptions, Table.empty⟩), s) := by
  have hrun : ((Command.reconfigure (some named)).run .onDisk).Ensures (.loaded store) s fun r st t =>
      ((r, st), t) = ((.ok .done, .loaded ⟨namedOptions, Table.empty⟩), s) := by
    refine Command.reconfigure_ensures (o := namedOptions) (by decide +kernel) ?_
    rw [Ensures, changeTo_named]
    rfl
  exact hrun

end OneFile

/-- A service that is given a name is started again by its new configuration. -/
theorem Ran.activates_named :
    ∃ v, (Command.activate (some OneFile.named)).run .onDisk .uninitialized OneFile.activated.2 =
      ((.ok .done, .loaded ⟨OneFile.namedOptions, Table.empty⟩), v) ∧
        v.world = OneFile.activated.2.world := by
  obtain ⟨store, hstore, h⟩ := Ran.activates onFiles_onDisk OneFile.ran_activated
    (p := OneFile.named) (o := OneFile.namedOptions) (by decide +kernel) rfl (fun _ => rfl)
    (OneFile.outcome_named OneFile.activated.2)
  obtain rfl := State.loaded.inj hstore
  exact h OneFile.activated.2 rfl

/-- A service on the file `k` accepts the path `k/`, and no new one can be started by it. -/
theorem Ran.not_activates_slashed :
    Ran .onDisk id (.loaded OneFile.store) OneFile.activated.2 ∧
      ∃ t, (Command.reconfigure (some (OneFile.properties "k/"))).run .onDisk (.loaded OneFile.store)
          OneFile.activated.2 = ((.ok .done, .loaded OneFile.store), t) ∧
        ∃ e, ((Command.activate (some (OneFile.properties "k/"))).run .onDisk .uninitialized t).1.1 =
          .error e := by
  obtain ⟨content, hcontent⟩ := OneFile.outcome_activated.2.1
  have hfile : Disk.isDirectory OneFile.store.options.path OneFile.activated.2.world = false := by
    rw [hcontent]
    rfl
  obtain ⟨hrun, hactivate⟩ := onFiles_onDisk.accepts_slashed
    (OneFile.ran_activated.retaining onFiles_onDisk OneFile.store rfl) hfile
    (p := OneFile.properties "k/") (o := OneFile.options "k/") (by decide +kernel) rfl rfl rfl rfl
  exact ⟨OneFile.ran_activated, _, hrun, hactivate _ rfl⟩

end Keyring.Service
