import Keyring.ContainerFormat
import Keyring.Files.Disk
import Keyring.Session

/-!
# Backends

Where containers are kept. `Backend` is what the service needs; `Backend.files` keeps each container in
a file: a mark, and the JSON of the container sealed under its password. The file is written beside
its place and moved there, so that no reader meets half of it.
-/

namespace Keyring

/-- Keeps containers by path, each under a password. -/
structure Backend (W : Type) where
  /-- Whether there is a container. -/
  contains : Files.Path → Act W Bool
  load : Files.Path → Password → Act W Container
  store : Container → Files.Path → Password → Act W Unit

namespace Backend

/-- The name of the file in a directory that a path names. -/
def defaultName : String := "keystore.ks"

/-- What every container file starts with. -/
def mark : Bytes := [0x47, 0x4b, 0x53, 0x31]

variable {W : Type} (fs : Files.FileSystem W)

/-- The file that a path stands for: the path itself, or a file in the directory that it names. -/
def containerPath (path : Files.Path) (w : W) : Files.Path :=
  if fs.isDirectory path w then path.join ⟨defaultName⟩ else path

/-- The file beside another one that is written first. -/
def temporary (file : Files.Path) : Files.Path :=
  file.withFileName ((file.fileName?.getD "") ++ ".tmp")

/-- A file operation as an act. -/
def onFiles {α : Type} (f : W → Except Files.Fault α × W) : Act W α :=
  Act.onWorld fun w => let (result, w) := f w; (result.mapError .storage, w)

/-- The content of a container file. -/
def readFile (file : Files.Path) (password : Password) (content : Bytes) : Except Error Container :=
  if content.take mark.length = mark then do
    Container.parse (← Sealing.openText (content.drop mark.length) password.bytes)
  else .error (.storeLoad (file.text ++ " is not a keystore container"))

/-- The events of loading and storing. -/
def reportFile (message : String) (file : Files.Path) (c : Container) : Act W Unit :=
  Act.report .debug message [("path", file.text), ("entries", toString c.size)]

/-- Loads a container from its file. -/
def loadFile (path : Files.Path) (password : Password) : Act W Container := do
  let file ← Act.look (containerPath fs path)
  let content ← onFiles fun w => (fs.read file w, w)
  let c ← readFile file password content
  reportFile "keystore loaded" file c
  return c

/-- Stores a container into its file. -/
def storeFile (c : Container) (path : Files.Path) (password : Password) : Act W Unit := do
  let file ← Act.look (containerPath fs path)
  match file.parent? with
  | some parent => if parent.text ≠ "" then onFiles (fs.createDirectories parent)
  | none => pure ()
  let sealedText ← Sealing.sealFresh c.toJson password.bytes
  onFiles (fs.write (temporary file) (mark ++ sealedText))
  try onFiles (fs.rename (temporary file) file)
  catch e =>
    modify fun s => { s with world := (fs.remove (temporary file) s.world).2 }
    throw e
  reportFile "keystore stored" file c

/-- Containers in files. -/
def files : Backend W where
  contains path := Act.look fun w => fs.isFile (containerPath fs path w) w
  load := loadFile fs
  store := storeFile fs

/-! ### Containers in memory -/

/-- Containers by the text of their path, each with its password. -/
abbrev Shelf := Table (Container × Password)

/-- Containers in memory. -/
def memory : Backend Shelf where
  contains path := Act.look fun shelf => shelf.contains path.text
  load path password := Act.onWorld fun shelf =>
    match shelf.find? path.text with
    | none => (.error (.storage (.other "no such store")), shelf)
    | some (c, p) => (if p = password then .ok c else .error .invalidPassword, shelf)
  store c path password := Act.onWorld fun shelf =>
    (.ok (), shelf.insert path.text (c, password))

/-- A backend of a part of a world. -/
def within {V : Type} (f : Focus V W) (b : Backend W) : Backend V where
  contains path := Act.within f (b.contains path)
  load path password := Act.within f (b.load path password)
  store c path password := Act.within f (b.store c path password)

end Backend

end Keyring
