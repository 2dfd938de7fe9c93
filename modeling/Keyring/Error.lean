import Keyring.Files.Disk
import Keyring.Json.Error

/-!
# Keystore errors

`Error` is what every operation of the keystore may fail with: the service's own taxonomy, and the
failures of ciphers, certificates and files that the service maps into it (`Error.classify`).
-/

namespace Keyring

/-- Why an operation failed. -/
inductive Error where
  /-- Missing or malformed configuration. -/
  | invalidConfiguration (text : String)
  /-- An unusable argument; nothing was changed. -/
  | invalidArgument (text : String)
  /-- The service is not activated, or closed. -/
  | notInitialized
  /-- A secret could not be decrypted. -/
  | secretDecryption (text : String)
  /-- A secret could not be encrypted. -/
  | secretEncryption (text : String)
  /-- The container could not be loaded. -/
  | storeLoad (text : String)
  /-- A change could not be written back. -/
  | storePersist (text : String)
  /-- Key managers could not be derived. -/
  | keyManagerInit (text : String)
  /-- Changed configuration could not be written back. -/
  | configurationStore (text : String)
  | keyDerivation (text : String)
  | encryption (text : String)
  /-- A wrong password, or a damaged text: the two cannot be told apart. -/
  | invalidPassword
  | certificate (text : String)
  | pem (text : String)
  | storage (fault : Files.Fault)
  | json (error : Json.Error)
  /-- The end of a validity period lies behind the last representable date. -/
  | validityOverflow
  deriving DecidableEq, Repr

namespace Error

/-- The kinds of errors, apart from what they say. -/
inductive Kind where
  | invalidConfiguration | invalidArgument | notInitialized | secretDecryption | secretEncryption
  | storeLoad | storePersist | keyManagerInit | configurationStore | keyDerivation | encryption
  | invalidPassword | certificate | pem | storage | json | validityOverflow
  deriving DecidableEq, Repr

/-- The kind of an error. -/
def kind : Error → Kind
  | invalidConfiguration _ => .invalidConfiguration
  | invalidArgument _ => .invalidArgument
  | notInitialized => .notInitialized
  | secretDecryption _ => .secretDecryption
  | secretEncryption _ => .secretEncryption
  | storeLoad _ => .storeLoad
  | storePersist _ => .storePersist
  | keyManagerInit _ => .keyManagerInit
  | configurationStore _ => .configurationStore
  | keyDerivation _ => .keyDerivation
  | encryption _ => .encryption
  | invalidPassword => .invalidPassword
  | certificate _ => .certificate
  | pem _ => .pem
  | storage _ => .storage
  | json _ => .json
  | validityOverflow => .validityOverflow

/-- The error in words. -/
def text : Error → String
  | invalidConfiguration text => "Invalid configuration: " ++ text
  | invalidArgument text => "Invalid argument: " ++ text
  | notInitialized => "Keystore service is not initialized"
  | secretDecryption text => "Secret decryption error: " ++ text
  | secretEncryption text => "Secret encryption error: " ++ text
  | storeLoad text => "Keystore load error: " ++ text
  | storePersist text => "Keystore persist error: " ++ text
  | keyManagerInit text => "Key manager initialization error: " ++ text
  | configurationStore text => "Configuration store error: " ++ text
  | keyDerivation text => "Key derivation error: " ++ text
  | encryption text => "Encryption/decryption error: " ++ text
  | invalidPassword => "Invalid password"
  | certificate text => "Certificate error: " ++ text
  | pem text => "PEM error: " ++ text
  | storage fault => "Storage I/O error: " ++ fault.text
  | json error => "JSON error: " ++ error.text
  | validityOverflow => "Validity ends behind the last representable date"

/-- Puts an error into the kind that `wrap` builds: one of that kind stays as it is, any other is
carried as text. -/
def classify (wrap : String → Error) (e : Error) : Error :=
  if e.kind = (wrap "").kind then e else wrap e.text

end Error

end Keyring
