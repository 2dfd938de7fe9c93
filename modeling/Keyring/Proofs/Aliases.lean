import Mathlib.Data.Finset.Dedup
import Mathlib.Data.Finset.Insert
import Mathlib.Data.Finset.Erase
import Keyring.ContainerFormat
import Keyring.Proofs.Reprotection
import Keyring.Proofs.Undoing

/-!
# Containers stay ordered by alias

Whatever is done with a container, its aliases are listed in the byte order of UTF-8, each once, and
they are those under which an entry is stored.  A call about one alias leaves what is stored and
read under any other.

* `Container.Step` : the calls that may change a container, and `Container.step` : what one of them
  leaves, whether it succeeds or fails;
* `Container.Indexed` : what a container lists, counts, contains and stores are the same aliases;
* `Container.SameBut` : two containers agree but for one alias;
* `Container.Step.listed` : which aliases are listed after a step (`Container.step_listed`);
* `Container.run_indexed` : all of this after any steps, from any container.

The order itself comes with the type: `Table.insertList` puts an alias where it belongs, and a
reader of texts stores its members with it, one after the other.  What remains is that a step does to
the listed aliases and to the others what it should.  For the changes that can be undone this follows
from the undoing: that touches one alias only and gives back what was there.
-/

namespace Keyring.Container

variable {W : Type}

/-! ### Steps -/

/-- A call that may change a container. -/
inductive Step where
  | change (edit : Change)
  | restore (name : String) (previous : Option StoredEntry)
  | reprotect (old new : Password)

namespace Step

/-- The alias that a step is about; putting a container under another password is about all. -/
def name? : Step → Option String
  | .change edit => some edit.name
  | .restore name _ => some name
  | .reprotect .. => none

/-- Makes a step on a container in place. -/
def make : Step → Edit Container W Unit
  | .change edit => do
    let (changed, _) ← Edit.perform (edit.make (← Edit.value))
    Edit.replace changed
  | .restore name previous => do Edit.replace ((← Edit.value).restore name previous)
  | .reprotect old new => Container.reprotect old new

/-- The aliases that are listed after a step. -/
def listed : Step → Finset String → Finset String
  | .change (.set name _ _), names => insert name names
  | .change (.delete name), names => names.erase name
  | .restore name (some _), names => insert name names
  | .restore name none, names => names.erase name
  | .reprotect .., names => names

end Step

/-- The container that a step in a session leaves, whether it succeeds or fails. -/
def step (c : Container) (call : Step × Session W) : Container := (call.1.make c call.2).1.2

/-- The container after steps, each in a session of its own. -/
def run (c : Container) (calls : List (Step × Session W)) : Container := calls.foldl step c

/-- A change takes the place of the container once it is made. -/
theorem step_change (c : Container) (edit : Change) (s : Session W) :
    c.step (.change edit, s) = match (edit.make c s).1 with
      | .ok (changed, _) => changed
      | .error _ => c := by
  rw [step, Step.make, Edit.bind_apply, Edit.value_apply]
  dsimp only
  rw [Edit.bind_apply, Edit.perform_apply]
  rcases edit.make c s with ⟨_ | _, t⟩ <;> rfl

/-! ### Other aliases -/

/-- Two containers store and give out the same but for one alias. -/
structure SameBut (name : String) (c c' : Container) : Prop where
  find? : ∀ other ≠ name, c'.find? other = c.find? other
  entry? : ∀ other ≠ name, ∀ password, c'.entry? other password = c.entry? other password

namespace SameBut

variable {name : String} {c c' : Container}

/-- What an alias opens to is decided by what is stored under it. -/
theorem of_find? (h : ∀ other ≠ name, c'.find? other = c.find? other) : SameBut name c c' where
  find? := h
  entry? other hother password := by rw [Container.entry?, h other hother, Container.entry?]

theorem refl (name : String) (c : Container) : SameBut name c c := of_find? fun _ _ => rfl

theorem symm (h : SameBut name c c') : SameBut name c' c :=
  of_find? fun other hother => (h.find? other hother).symm

theorem restore (name : String) (c : Container) (previous : Option StoredEntry) :
    SameBut name c (c.restore name previous) :=
  of_find? fun other hother => by
    rw [Container.restore, Table.find?_restore, if_neg hother]

end SameBut

/-- A step about one alias leaves all others. -/
theorem step_sameBut (c : Container) (st : Step) (s : Session W) {name : String}
    (hname : st.name? = some name) : SameBut name c (c.step (st, s)) := by
  cases st with
  | change edit =>
    obtain rfl : edit.name = name := Option.some.inj hname
    rw [step_change]
    split
    · -- restoring its alias undoes a change, and leaves the others itself
      rename_i changed previous hmake
      have hundo : changed.restore edit.name previous = c := edit.restore_make c s _ hmake
      have hback := SameBut.restore edit.name changed previous
      rw [hundo] at hback
      exact hback.symm
    · exact .refl edit.name c
  | restore name' previous =>
    obtain rfl : name' = name := Option.some.inj hname
    exact .restore name' c previous
  | reprotect old new => cases hname

/-! ### Listed aliases -/

/-- What a container lists, counts, contains and stores are the same aliases, and it lists them in
the order of their bytes. -/
structure Indexed (c : Container) : Prop where
  increasing : c.aliases.Pairwise fun a b => Bytes.ofString a < Bytes.ofString b
  size : c.size = c.aliases.length
  listed : ∀ name, c.contains name = true ↔ name ∈ c.aliases
  stored : ∀ name, c.contains name = true ↔ ∃ stored, c.find? name = some stored

theorem indexed (c : Container) : Indexed c where
  increasing := c.ordered_keys
  size := c.length_keys.symm
  listed _ := Table.contains_iff
  stored _ := Table.contains_iff.trans Table.mem_keys_iff

theorem toFinset_aliases_insert (c : Container) (name : String) (stored : StoredEntry) :
    (aliases (c.insert name stored)).toFinset = insert name c.aliases.toFinset := by
  ext k
  simp [aliases, Table.mem_keys_insert]

theorem toFinset_aliases_erase (c : Container) (name : String) :
    (aliases (c.erase name)).toFinset = c.aliases.toFinset.erase name := by
  ext k
  simp [aliases, Table.mem_keys_erase]

/-- Setting an alias inserts something under it, and tells what was there. -/
theorem set_inserts (c : Container) (name : String) (entry : Entry) (password : Password)
    (s : Session W) : (c.set name entry password).Ensures s fun r _ =>
      ∃ stored, r = .ok (c.insert name stored, c.find? name) :=
  .bind (StoredEntry.ofEntry_succeeds entry password s) (fun stored _ _ => ⟨stored, rfl⟩)
    fun _ _ h => h.elim

/-- A step lists what it should; one that fails does not change what is listed. -/
theorem step_listed (c : Container) (call : Step × Session W) :
    (c.step call).aliases.toFinset = call.1.listed c.aliases.toFinset := by
  obtain ⟨st, s⟩ := call
  cases st with
  | change edit =>
    rw [step_change]
    cases edit with
    | set name entry password =>
      obtain ⟨stored, hset⟩ := c.set_inserts name entry password s
      rw [Change.make, hset]
      exact c.toFinset_aliases_insert name stored
    | delete name => exact toFinset_aliases_erase c name
  | restore name previous =>
    cases previous with
    | some stored => exact toFinset_aliases_insert c name stored
    | none => exact toFinset_aliases_erase c name
  | reprotect old new => exact congrArg List.toFinset (c.aliases_reprotect old new s)

theorem run_listed (c : Container) (calls : List (Step × Session W)) :
    (c.run calls).aliases.toFinset =
      calls.foldl (fun names call => call.1.listed names) c.aliases.toFinset := by
  induction calls generalizing c with
  | nil => rfl
  | cons call calls ih =>
    calc ((c.step call).run calls).aliases.toFinset
      _ = calls.foldl (fun names call => call.1.listed names) (c.step call).aliases.toFinset :=
        ih (c.step call)
      _ = (call :: calls).foldl (fun names call => call.1.listed names) c.aliases.toFinset := by
        rw [step_listed, List.foldl_cons]

/-- **A container keeps its order, and a step about one alias leaves the others.**  A container that is
read from a text, and any container after any steps, in whatever sessions and whichever of them fail,
lists its aliases in the byte order of UTF-8, as many as it counts, and contains just the listed ones,
which are just those with a stored entry.  The listed aliases are those that the steps leave of the
ones at the start.  Another step that is about one alias leaves what is stored under any other, and
what that opens to, whatever the password. -/
theorem run_indexed :
    (∀ text c, parse text = .ok c → Indexed c) ∧
    ∀ (c : Container) (calls : List (Step × Session W)),
      Indexed (c.run calls) ∧
      (c.run calls).aliases.toFinset =
        calls.foldl (fun names call => call.1.listed names) c.aliases.toFinset ∧
      ∀ (st : Step) (s : Session W) name, st.name? = some name →
        SameBut name (c.run calls) ((c.run calls).step (st, s)) :=
  ⟨fun _ c _ => indexed c, fun c calls => ⟨indexed _, run_listed c calls, fun st s _ hname =>
    step_sameBut _ st s hname⟩⟩

/-- Entries that are written out of order, one of them twice. -/
def unsorted : Bytes := Bytes.ofString
  ("\x7b\"entries\":\x7b" ++
    "\"é\":\x7b\"type\":\"trusted_certificate\",\"certificate\":[1],\"created_at\":1\x7d," ++
    "\"a\":\x7b\"type\":\"trusted_certificate\",\"certificate\":[2],\"created_at\":2\x7d," ++
    "\"é\":\x7b\"type\":\"trusted_certificate\",\"certificate\":[3],\"created_at\":3\x7d" ++
    "\x7d\x7d")

/-- The container that they are. -/
def sorted : Container := Table.ofList [("a", .trusted [2] 2), ("é", .trusted [3] 3)]

theorem parse_unsorted : parse unsorted = .ok sorted := by
  have hread : (parse unsorted).toOption = some sorted := by decide +kernel
  cases h : parse unsorted with
  | error e =>
    rw [h] at hread
    cases hread
  | ok c =>
    rw [h] at hread
    exact congrArg Except.ok (Option.some.inj hread)

/-- What was read out of order is in order, and removing one alias leaves the other. -/
theorem run_indexed_unsorted :
    parse unsorted = .ok sorted ∧ sorted.aliases = ["a", "é"] ∧ Indexed sorted ∧
      SameBut "a" sorted (sorted.step (.change (.delete "a"), Reprotection.session)) := by
  obtain ⟨hparse, hrun⟩ := run_indexed (W := Unit)
  obtain ⟨-, -, hother⟩ := hrun sorted []
  exact ⟨parse_unsorted, rfl, hparse unsorted sorted parse_unsorted,
    hother (.change (.delete "a")) Reprotection.session "a" rfl⟩

end Keyring.Container
