import Keyring.Proofs.Act
import Keyring.Container

/-!
# Changes of a container are undone

A change of a container returns what it replaced under its alias, and `Container.restore` puts that
back.  So a whole sequence of changes is undone by restoring the aliases, the last one first, however
often an alias occurs in it.

* `Container.Change` : putting or removing an entry;
* `Container.change` : a change made on a container, with what it replaced written down in front of what
  the changes before it replaced; one that fails is as if it had not been made;
* `Container.undo` : what was written down, put back in that order;
* `Container.undo_change` : undoing everything after one more change gives what it gave before;
* `Container.undo_changeAll` : hence undoing all changes gives the container that they started from.

The three ways in which an alias is restored, after an insertion, after an overwriting and after a
removal, also of an alias that was not there, are one case each of `Change.restore_make`: what a change
returns is what was found under its alias, be it nothing.
-/

namespace Keyring.Container

variable {W : Type}

/-- A change of a container. -/
inductive Change where
  | set (name : String) (entry : Entry) (password : Password)
  | delete (name : String)

/-- The alias that a change is about. -/
def Change.name : Change → String
  | .set name _ _ => name
  | .delete name => name

/-- Makes a change; also what it replaced. -/
def Change.make : Change → Container → Act W (Container × Option StoredEntry)
  | .set name entry password, c => c.set name entry password
  | .delete name, c => return c.delete name

/-- What changes replaced under their aliases, the last change first. -/
abbrev Replaced := List (String × Option StoredEntry)

/-- Makes a change in a session and writes down what it replaced; one that fails changes nothing. -/
def change (done : Container × Replaced) (call : Change × Session W) : Container × Replaced :=
  match (call.1.make done.1 call.2).1 with
  | .ok (c, previous) => (c, (call.1.name, previous) :: done.2)
  | .error _ => done

/-- Makes changes one after the other, each in a session of its own. -/
def changeAll (c : Container) (calls : List (Change × Session W)) : Container × Replaced :=
  calls.foldl change (c, [])

/-- Puts back what changes replaced. -/
def undo (c : Container) : Replaced → Container
  | [] => c
  | (name, previous) :: replaced => undo (c.restore name previous) replaced

/-- A change is undone by restoring its alias to what it replaced. -/
theorem Change.restore_make (change : Change) (c : Container) :
    (change.make c : Act W (Container × Option StoredEntry)).Returns fun r =>
      r.1.restore change.name r.2 = c := by
  cases change with
  | set name entry password =>
    exact .bind_any fun stored => .pure (Table.restore_insert c name stored)
  | delete name => exact .pure (Table.restore_erase c name)

/-- Undoing everything after one more change gives what it gave before. -/
theorem undo_change (done : Container × Replaced) (call : Change × Session W) :
    (change done call).1.undo (change done call).2 = done.1.undo done.2 := by
  have hrestore := call.1.restore_make done.1 call.2
  rw [Act.Ensures] at hrestore
  rw [change]
  rcases hmake : (call.1.make done.1 call.2).1 with e | ⟨c, previous⟩
  · rfl
  · have hname : c.restore call.1.name previous = done.1 := hrestore (c, previous) hmake
    exact congrArg (undo · done.2) hname

theorem undo_foldl_change (calls : List (Change × Session W)) (done : Container × Replaced) :
    (calls.foldl change done).1.undo (calls.foldl change done).2 = done.1.undo done.2 := by
  induction calls generalizing done with
  | nil => rfl
  | cons call calls ih => exact (ih (change done call)).trans (undo_change done call)

/-- **Any sequence of changes is undone exactly.**  Whatever entries are put and removed, under whatever
aliases, in whatever sessions and whichever changes fail, restoring what the others replaced, the last
one first, gives the container that they started from, with all sealed bytes and times. -/
theorem undo_changeAll (c : Container) (calls : List (Change × Session W)) :
    (c.changeAll calls).1.undo (c.changeAll calls).2 = c :=
  undo_foldl_change calls (c, [])

end Keyring.Container
