import Keyring.Service.Basic

/-!
# The stores of a service

A world with every kind of store that the service may work with (`Stores`), and the collaborators on
it (`Stores.collaborators`).
-/

namespace Keyring.Service

/-- Containers in memory, files, and configurations in memory. -/
structure Stores where
  shelf : Backend.Shelf
  disk : Files.Disk
  configurations : Config.MemoryStore

namespace Stores

/-- The containers in memory. -/
def onShelf : Focus Stores Backend.Shelf := ⟨shelf, fun shelf s => { s with shelf }⟩

/-- The files. -/
def onDisk : Focus Stores Files.Disk := ⟨disk, fun disk s => { s with disk }⟩

/-- Where containers are kept. -/
inductive BackendKind where
  | memory
  | files

/-- The backend of a kind. -/
def backend : BackendKind → Backend Stores
  | .memory => Backend.memory.within onShelf
  | .files => (Backend.files Files.Disk.fileSystem).within onDisk

/-- How secrets are kept. -/
inductive CipherKind where
  | plain
  | tagged
  | sealing (master : Password)

/-- The cipher of a kind. -/
def cipher {W : Type} : CipherKind → Cipher W
  | .plain => .plain
  | .tagged => .tagged
  | .sealing master => .sealing master

/-- Where configurations are kept. -/
inductive ConfigurationKind where
  | memory
  | file (path : Files.Path)

/-- Keeps a configuration. -/
def updateConfiguration (k : ConfigurationKind) (serviceId : Option String)
    (p : Config.Properties) : Act Stores Unit :=
  match k with
  | .memory => Act.onWorld fun s =>
    (.ok (), { s with configurations := s.configurations.update serviceId p })
  | .file path => Act.within onDisk (Config.saveFile Files.Disk.fileSystem path serviceId p)

/-- The configuration that is kept for a service. -/
def configuration (k : ConfigurationKind) (serviceId : Option String) (s : Stores) :
    Except Error (Option Config.Properties) :=
  match k with
  | .memory => .ok (s.configurations.get? serviceId)
  | .file path => some <$> Config.loadFile Files.Disk.fileSystem path s.disk

/-- Collaborators on the stores. -/
def collaborators (b : BackendKind) (c : CipherKind) (k : ConfigurationKind) :
    Collaborators Stores :=
  ⟨backend b, cipher c, updateConfiguration k⟩

end Stores

end Keyring.Service
