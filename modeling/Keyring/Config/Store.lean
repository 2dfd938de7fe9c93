import Keyring.Config.Options
import Keyring.Session

/-!
# Configuration stores

Where the service hands a changed configuration back: a store in memory (`MemoryStore`), which keeps
the last configuration of each service, or a file that holds one configuration as JSON
(`saveFile`, read back by `loadFile`).
-/

namespace Keyring.Config

/-- The id under which the configuration of a service without one is kept. -/
def anonymous : String := ""

/-- The last configuration of each service. -/
abbrev MemoryStore := Table Properties

namespace MemoryStore

/-- Replaces the configuration of a service. -/
def update (s : MemoryStore) (serviceId : Option String) (p : Properties) : MemoryStore :=
  s.insert (serviceId.getD anonymous) p

/-- The last configuration of a service. -/
def get? (s : MemoryStore) (serviceId : Option String) : Option Properties :=
  s.find? (serviceId.getD anonymous)

/-- A property for diagnostics, which hide the password of the keystore. -/
def shownValue (key : String) (value : Value) : String :=
  if key = Key.password.name then "***" else value.text

/-- The shown properties of every service. -/
def shown (s : MemoryStore) : List (String × List (String × String)) :=
  s.toList.map fun (id, p) =>
    (Text.Quoted.text id,
      p.toList.map fun (key, value) =>
        (Text.Quoted.text key, Text.Quoted.text (shownValue key value)))

/-- The store for diagnostics, on one line. -/
def debug (s : MemoryStore) : String :=
  Text.Quoted.fields "MemoryConfigurationStore"
    [("configurations",
      Text.Quoted.entries (s.shown.map fun (id, values) => (id, Text.Quoted.entries values)))]
    false

/-- The store for diagnostics, a property on each line. -/
def prettyDebug (s : MemoryStore) : String :=
  Text.Quoted.prettyFields "MemoryConfigurationStore"
    [("configurations",
      Text.Quoted.prettyEntries
        (s.shown.map fun (id, values) => (id, Text.Quoted.prettyEntries values)))]

end MemoryStore

/-! ### Files -/

section

variable {W : Type} (fs : Files.FileSystem W)

/-- Writes a configuration into a file. -/
def saveFile (path : Files.Path) (serviceId : Option String) (p : Properties) : Act W Unit := do
  Act.onWorld fun w =>
    match fs.write path p.toPrettyJson w with
    | (.ok (), w) => (.ok (), w)
    | (.error fault, w) =>
      (.error (.configurationStore ("Failed to write " ++ path.text ++ ": " ++ fault.text)), w)
  Act.report .debug "configuration updated"
    [("path", path.text), ("service", serviceId.getD anonymous)]

/-- Reads a configuration from a file. -/
def loadFile (path : Files.Path) (w : W) : Except Error Properties := do
  let failed (step text : String) : Error :=
    .invalidConfiguration ("Failed to " ++ step ++ " " ++ path.text ++ ": " ++ text)
  let bytes ← (fs.read path w).mapError fun fault => failed "read" fault.text
  if (Bytes.toString? bytes).isNone then throw (failed "read" Files.Fault.notUtf8.text)
  (Properties.parse bytes).mapError fun e => failed "parse" e.text

end

/-- The file of a configuration store for diagnostics. -/
def debugFile (path : Files.Path) : String :=
  Text.Quoted.fields "JsonFileConfigurationStore" [("path", Text.Quoted.text path.text)] false

end Keyring.Config
