import Keyring.Bytes
import Keyring.Files.Path

/-!
# A file tree

`Disk` is a tree of directories and regular files with a working directory, and its operations
answer as a POSIX system does for its superuser, down to which of two faults is reported. There are
no links, so a place in the tree is the list of names that leads to it from the root (`Location`).

`FileSystem` is the interface that callers use, so that another world may stand in for the tree.
-/

namespace Keyring.Files

/-- Why a file operation failed. -/
inductive Fault where
  | notFound
  | alreadyExists
  | notDirectory
  | isDirectory
  | busy
  | nameTooLong
  | nulByte
  | notUtf8
  /-- A fault that another store reports in its own words. -/
  | other (text : String)
  deriving DecidableEq, Repr

/-- The fault in words. -/
def Fault.text : Fault → String
  | .notFound => "No such file or directory (os error 2)"
  | .busy => "Device or resource busy (os error 16)"
  | .alreadyExists => "File exists (os error 17)"
  | .notDirectory => "Not a directory (os error 20)"
  | .isDirectory => "Is a directory (os error 21)"
  | .nameTooLong => "File name too long (os error 36)"
  | .nulByte => "file name contained an unexpected NUL byte"
  | .notUtf8 => "stream did not contain valid UTF-8"
  | .other text => text

/-- The operations on files that the keystore needs. -/
structure FileSystem (W : Type) where
  /-- Whether a path names a directory. -/
  isDirectory : Path → W → Bool
  /-- Whether a path names a regular file. -/
  isFile : Path → W → Bool
  /-- The content of a regular file. -/
  read : Path → W → Except Fault Bytes
  /-- Creates a directory and those above it. -/
  createDirectories : Path → W → Except Fault Unit × W
  /-- Creates or replaces a regular file. -/
  write : Path → Bytes → W → Except Fault Unit × W
  /-- Gives a regular file another path, in place of a file there. -/
  rename : Path → Path → W → Except Fault Unit × W
  /-- Removes a regular file. -/
  remove : Path → W → Except Fault Unit × W

/-- The names that lead from the root to a place. -/
abbrev Location := List String

/-- What stands at a place. -/
inductive Node where
  | file (content : Bytes)
  | directory
  deriving DecidableEq, Repr

/-- A file tree with a working directory. -/
structure Disk where
  /-- Everything below the root. -/
  nodes : List (Location × Node)
  /-- The place at which relative paths start. -/
  workingDirectory : Location

namespace Disk

/-- What stands at a place. -/
def find? (d : Disk) (place : Location) : Option Node :=
  if place = [] then some .directory else d.nodes.lookup place

/-- Puts a node at a place. -/
def put (d : Disk) (place : Location) (node : Node) : Disk :=
  { d with nodes := (place, node) :: d.nodes.filter (·.1 != place) }

/-- Removes the node at a place. -/
def erase (d : Disk) (place : Location) : Disk :=
  { d with nodes := d.nodes.filter (·.1 != place) }

/-- Removes a place and all below it. -/
def eraseTree (d : Disk) (place : Location) : Disk :=
  { d with nodes := d.nodes.filter fun x => !place.isPrefixOf x.1 }

/-- An empty working directory inside a directory for temporary files. -/
def fresh : Disk :=
  ⟨[(["tmp"], .directory), (["tmp", "keyring"], .directory)], ["tmp", "keyring"]⟩

/-! ### Finding places -/

/-- The names of a path, without empty ones. -/
def names (p : Path) : List String :=
  ((splitSlash p.text.toList).filter (· ≠ [])).map String.ofList

/-- Whether slashes end the path, so that it can only name a directory. -/
def endsInSlash (p : Path) : Bool := p.text.toList.getLast? == some '/'

/-- The longest name, in bytes. -/
def maxName : Nat := 255

/-- The longest path, in bytes. -/
def maxPath : Nat := 4095

/-- What no file system call takes as a path. -/
def checkPath (p : Path) : Except Fault Unit :=
  if p.text.toList.contains '\x00' then .error .nulByte
  else if p.text.isEmpty then .error .notFound
  else if p.text.utf8ByteSize > maxPath then .error .nameTooLong
  else .ok ()

/-- The place that names lead to from another place. -/
def follow (d : Disk) : Location → List String → Except Fault Location
  | place, [] => .ok place
  | place, name :: rest =>
    match d.find? place with
    | none => .error .notFound
    | some (.file _) => .error .notDirectory
    | some .directory =>
      if name = "." then d.follow place rest
      else if name = ".." then d.follow place.dropLast rest
      else if name.utf8ByteSize > maxName then .error .nameTooLong
      else if (d.find? (place ++ [name])).isNone then .error .notFound
      else d.follow (place ++ [name]) rest

/-- Where a path starts. -/
def origin (d : Disk) (p : Path) : Location := if p.isAbsolute then [] else d.workingDirectory

/-- The place and node of something that exists. -/
def existing (d : Disk) (p : Path) : Except Fault (Location × Node) := do
  checkPath p
  let place ← d.follow (d.origin p) (names p ++ if endsInSlash p then ["."] else [])
  match d.find? place with
  | some node => return (place, node)
  | none => throw .notFound

/-- The directory that holds the last name of a path, and that name. -/
def holder (d : Disk) (p : Path) : Except Fault (Location × String) := do
  checkPath p
  let last := (names p).getLast?.getD "."
  let place ← d.follow (d.origin p) (names p).dropLast
  match d.find? place with
  | some .directory => return (place, last)
  | some (.file _) => throw .notDirectory
  | none => throw .notFound

/-- The place of a name in a directory; an overlong name has none. -/
def placeOf (directory : Location) (name : String) : Except Fault Location :=
  if name.utf8ByteSize > maxName then .error .nameTooLong else .ok (directory ++ [name])

/-- A name that no entry of a directory can have. -/
def isDots (name : String) : Bool := name == "." || name == ".."

/-! ### Operations -/

/-- Whether a path names a directory. -/
def isDirectory (p : Path) (d : Disk) : Bool :=
  match d.existing p with
  | .ok (_, .directory) => true
  | _ => false

/-- Whether a path names a regular file. -/
def isFile (p : Path) (d : Disk) : Bool :=
  match d.existing p with
  | .ok (_, .file _) => true
  | _ => false

/-- The content of a regular file. -/
def read (p : Path) (d : Disk) : Except Fault Bytes := do
  match ← d.existing p with
  | (_, .file content) => return content
  | (_, .directory) => throw .isDirectory

/-- The place where a new file may be put or an old one replaced. -/
def writable (p : Path) (d : Disk) : Except Fault Location := do
  let (directory, name) ← d.holder p
  if isDots name || endsInSlash p then throw .isDirectory
  let place ← placeOf directory name
  if d.find? place = some .directory then throw .isDirectory
  return place

/-- The tree after a change that may fail. -/
def change (d : Disk) (r : Except Fault Disk) : Except Fault Unit × Disk :=
  match r with
  | .ok d => (.ok (), d)
  | .error fault => (.error fault, d)

/-- Creates or replaces a regular file. -/
def write (p : Path) (content : Bytes) (d : Disk) : Except Fault Unit × Disk :=
  d.change do return d.put (← d.writable p) (.file content)

/-- Creates one directory. -/
def createDirectory (p : Path) (d : Disk) : Except Fault Unit × Disk :=
  d.change do
    let (directory, name) ← d.holder p
    if isDots name then throw .alreadyExists
    let place ← placeOf directory name
    if (d.find? place).isSome then throw .alreadyExists
    return d.put place .directory

/-- Creates a directory, first those above it if one is missing; a path of `fuel` characters has no
more of them. -/
def createDirectoriesIn : (fuel : Nat) → Path → Disk → Except Fault Unit × Disk
  | 0, _, d => (.error .notFound, d)
  | fuel + 1, p, d =>
    if p.text.isEmpty then (.ok (), d)
    else
      match d.createDirectory p with
      | (.ok (), d) => (.ok (), d)
      | (.error .notFound, d) =>
        match p.parent? with
        | none => (.error .notFound, d)
        | some parent =>
          match createDirectoriesIn fuel parent d with
          | (.error fault, d) => (.error fault, d)
          | (.ok (), d) =>
            match d.createDirectory p with
            | (.error fault, d) => (if d.isDirectory p then .ok () else .error fault, d)
            | done => done
      | (.error fault, d) => (if d.isDirectory p then .ok () else .error fault, d)

/-- Creates a directory and those above it. -/
def createDirectories (p : Path) (d : Disk) : Except Fault Unit × Disk :=
  createDirectoriesIn (p.text.length + 1) p d

/-- Gives a regular file another path, in place of a file there. -/
def rename (source target : Path) (d : Disk) : Except Fault Unit × Disk :=
  d.change do
    let (sourceDirectory, sourceName) ← d.holder source
    let (targetDirectory, targetName) ← d.holder target
    if isDots sourceName || isDots targetName then throw .busy
    let source ← placeOf sourceDirectory sourceName
    let some (.file content) := d.find? source | throw .notFound
    let place ← placeOf targetDirectory targetName
    if endsInSlash target then throw .notDirectory
    if d.find? place = some .directory then throw .isDirectory
    return (d.erase source).put place (.file content)

/-- Removes a regular file. -/
def remove (p : Path) (d : Disk) : Except Fault Unit × Disk :=
  d.change do
    match ← d.existing p with
    | (place, .file _) => return d.erase place
    | (_, .directory) => throw .isDirectory

/-- Removes a regular file, or a directory with all below it. -/
def removeAll (p : Path) (d : Disk) : Except Fault Unit × Disk :=
  d.change do return d.eraseTree (← d.existing p).1

/-- The interface of the tree. -/
def fileSystem : FileSystem Disk where
  isDirectory := isDirectory
  isFile := isFile
  read := read
  createDirectories := createDirectories
  write := write
  rename := rename
  remove := remove

/-- What lies below the working directory, each directory before its content and names in byte
order. -/
def listing (d : Disk) : List (Location × Node) :=
  let below := d.nodes.filterMap fun (place, node) =>
    if d.workingDirectory.isPrefixOf place && place ≠ d.workingDirectory then
      some (place.drop d.workingDirectory.length, node)
    else none
  let key (place : Location) : List Bytes := place.map Bytes.ofString
  below.mergeSort fun x y => !decide (key y.1 < key x.1)

/-! ### What is found after a change -/

theorem find?_put_self (d : Disk) {place : Location} (node : Node) (h : place ≠ []) :
    (d.put place node).find? place = some node := by
  simp [find?, put, h]

theorem lookup_filter_ne {place other : Location} (h : other ≠ place) (xs : List (Location × Node)) :
    (xs.filter (·.1 != place)).lookup other = xs.lookup other := by
  induction xs with
  | nil => rfl
  | cons x xs ih =>
    obtain ⟨k, v⟩ := x
    by_cases hx : k = place
    · subst hx
      have : (other == k) = false := by simpa using h
      simp [List.lookup_cons, this, ih]
    · simp [List.lookup_cons, hx, ih]

theorem find?_put_of_ne (d : Disk) {place other : Location} (node : Node) (h : other ≠ place) :
    (d.put place node).find? other = d.find? other := by
  have hb : (other == place) = false := by simpa using h
  by_cases he : other = []
  · simp [find?, he]
  · simp [find?, put, he, List.lookup_cons, hb, lookup_filter_ne h]

theorem find?_erase_of_ne (d : Disk) {place other : Location} (h : other ≠ place) :
    (d.erase place).find? other = d.find? other := by
  by_cases he : other = []
  · simp [find?, he]
  · simp [find?, erase, he, lookup_filter_ne h]

end Disk

end Keyring.Files
