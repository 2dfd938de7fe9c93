import Keyring.Bytes

/-!
# Passwords

A `Password` is a text that diagnostics never show.
-/

namespace Keyring

/-- A secret text. -/
structure Password where
  text : String
  deriving DecidableEq, Repr, Inhabited

namespace Password

/-- The bytes of the text. -/
def bytes (p : Password) : Bytes := Bytes.ofString p.text

/-- How diagnostics show any password. -/
def debug (_ : Password) : String := "Password(***)"

end Password

end Keyring
