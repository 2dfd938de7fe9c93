import Keyring.Proofs.Files.Tree

/-!
# File systems that may fail

`FileSystem.Follows fs disk` : the world of the file system `fs` holds the tree `disk`, and each
operation either does to that tree what it is for, or fails.  Any of them may fail at any time:
creating directories may then have created some of them, writing may leave anything in the file that
was to be written, and a move or a removal changes nothing.

`Disk.follows_fileSystem` is the tree itself; `Planned` is a tree whose operations fail as planned.
-/

namespace Keyring.Files

open Disk

variable {W : Type}

/-- The operations of a file system do what they are for to a tree in the world, or fail. -/
structure FileSystem.Follows (fs : FileSystem W) (disk : W → Disk) : Prop where
  isDirectory (p : Path) (w : W) : fs.isDirectory p w = (disk w).isDirectory p
  isFile (p : Path) (w : W) : fs.isFile p w = (disk w).isFile p
  read (p : Path) (w : W) : fs.read p w = (disk w).read p
  createDirectories (p : Path) (w : W) : Keeps [] (disk w) (disk (fs.createDirectories p w).2)
  write_ok (p : Path) (content : Bytes) (w : W) (h : (fs.write p content w).1 = .ok ()) :
    (disk w).write p content = (.ok (), disk (fs.write p content w).2)
  write_error (p : Path) (content : Bytes) (w : W) (fault : Fault)
    (h : (fs.write p content w).1 = .error fault) :
    disk (fs.write p content w).2 = disk w ∨ ∃ place torn, (disk w).writable p = .ok place ∧
      disk (fs.write p content w).2 = (disk w).put place (.file torn)
  rename_ok (source target : Path) (w : W) (h : (fs.rename source target w).1 = .ok ()) :
    (disk w).rename source target = (.ok (), disk (fs.rename source target w).2)
  rename_error (source target : Path) (w : W) (fault : Fault)
    (h : (fs.rename source target w).1 = .error fault) :
    disk (fs.rename source target w).2 = disk w
  remove_ok (p : Path) (w : W) (h : (fs.remove p w).1 = .ok ()) :
    (disk w).remove p = (.ok (), disk (fs.remove p w).2)
  remove_error (p : Path) (w : W) (fault : Fault) (h : (fs.remove p w).1 = .error fault) :
    disk (fs.remove p w).2 = disk w

namespace Disk

/-- A change that fails changes nothing. -/
theorem change_eq_error {d : Disk} {r : Except Fault Disk} {fault : Fault}
    (h : (d.change r).1 = .error fault) : (d.change r).2 = d := by
  cases r with
  | ok found => cases h
  | error fault => rfl

/-- The tree follows itself, and its operations fail for their own reasons only. -/
theorem follows_fileSystem : fileSystem.Follows id where
  isDirectory _ _ := rfl
  isFile _ _ := rfl
  read _ _ := rfl
  createDirectories p d := keeps_createDirectories d p
  write_ok _ _ _ h := Prod.ext h rfl
  write_error _ _ _ _ h := .inl (change_eq_error h)
  rename_ok _ _ _ h := Prod.ext h rfl
  rename_error _ _ _ _ h := change_eq_error h
  remove_ok _ _ h := Prod.ext h rfl
  remove_error _ _ _ h := change_eq_error h

end Disk

/-! ### Planned faults -/

/-- A tree, and for each of the next operations whether it fails. -/
structure Planned where
  disk : Disk
  failing : List Bool

namespace Planned

/-- An operation that fails if that is planned, leaving what `broken` makes of the tree. -/
def act (broken : Disk → Disk) (op : Disk → Except Fault Unit × Disk) (w : Planned) :
    Except Fault Unit × Planned :=
  match w.failing with
  | true :: failing => (.error (.other "as planned"), ⟨broken w.disk, failing⟩)
  | _ => ((op w.disk).1, ⟨(op w.disk).2, w.failing.tail⟩)

/-- The tree with half of a file written. -/
def torn (p : Path) (content : Bytes) (d : Disk) : Disk :=
  match d.writable p with
  | .ok place => d.put place (.file (content.take (content.length / 2)))
  | .error _ => d

/-- The operations of the tree, failing as planned. -/
def fileSystem : FileSystem Planned where
  isDirectory p w := w.disk.isDirectory p
  isFile p w := w.disk.isFile p
  read p w := w.disk.read p
  createDirectories p := act id fun d => d.createDirectories p
  write p content := act (torn p content) fun d => d.write p content
  rename source target := act id fun d => d.rename source target
  remove p := act id fun d => d.remove p

variable {broken : Disk → Disk} {op : Disk → Except Fault Unit × Disk}

theorem act_eq_ok {w : Planned} (h : (act broken op w).1 = .ok ()) :
    op w.disk = (.ok (), (act broken op w).2.disk) := by
  rw [act] at h ⊢
  split at h
  · cases h
  · exact Prod.ext h rfl

theorem act_eq_error (hop : ∀ d fault, (op d).1 = .error fault → (op d).2 = d) {w : Planned}
    {fault : Fault} (h : (act broken op w).1 = .error fault) :
    (act broken op w).2.disk = w.disk ∨ (act broken op w).2.disk = broken w.disk := by
  rw [act] at h ⊢
  split at h
  · exact .inr rfl
  · exact .inl (hop _ _ h)

theorem follows_fileSystem : fileSystem.Follows disk where
  isDirectory _ _ := rfl
  isFile _ _ := rfl
  read _ _ := rfl
  createDirectories p w := by
    change Keeps [] w.disk (act id (fun d => d.createDirectories p) w).2.disk
    unfold act
    split
    · exact .refl _ _
    · exact keeps_createDirectories w.disk p
  write_ok _ _ _ h := act_eq_ok h
  write_error p content w _ h := by
    rcases act_eq_error (fun _ _ => change_eq_error) h with hsame | hbroken
    · exact .inl hsame
    · rw [torn] at hbroken
      split at hbroken
      · exact .inr ⟨_, _, ‹_›, hbroken⟩
      · exact .inl hbroken
  rename_ok _ _ _ h := act_eq_ok h
  rename_error _ _ _ _ h := (act_eq_error (fun _ _ => change_eq_error) h).elim id id
  remove_ok _ _ h := act_eq_ok h
  remove_error _ _ _ h := (act_eq_error (fun _ _ => change_eq_error) h).elim id id

end Planned

end Keyring.Files
