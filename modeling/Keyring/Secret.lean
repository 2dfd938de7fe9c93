import Keyring.Sealing
import Keyring.Text.Split

/-!
# Ciphers for secrets at rest

The password of a keystore stands in the configuration in encrypted form. `Cipher` is what the
service needs of a cipher; `Cipher.plain` leaves secrets in the clear, `Cipher.tagged` puts a mark
before them, and `Cipher.sealing` seals them under a master passphrase and writes them in hexadecimal.
-/

namespace Keyring

/-- Decrypts and encrypts the secrets of a configuration. -/
structure Cipher (W : Type) where
  /-- The plain form of a secret. -/
  decrypt : Password → Act W Password
  /-- The form of a secret at rest. -/
  encrypt : Password → Act W Password

namespace Cipher

variable {W : Type}

/-- The secret at rest is the secret. -/
def plain : Cipher W where
  decrypt secret := return secret
  encrypt secret := return secret

/-- Opens a secret that was sealed under a master passphrase. -/
def openSecret (master secret : Password) : Except Error Password := do
  let sealedText ← (Text.Hex.decode secret.bytes).mapError fun e =>
    .secretDecryption ("Secret is not valid hex: " ++ e.message)
  let text ← (Sealing.openText sealedText master.bytes).mapError fun e => .secretDecryption e.text
  match Bytes.toString? text with
  | some text => return ⟨text⟩
  | none => throw (.secretDecryption "Decrypted secret is not UTF-8")

/-- Seals secrets under a master passphrase. -/
def sealing (master : Password) : Cipher W where
  decrypt secret := openSecret master secret
  encrypt secret := do
    let sealedText ← Act.mapError (fun e => .secretEncryption e.text)
      (Sealing.sealFresh secret.bytes master.bytes)
    return ⟨Text.Hex.text sealedText⟩

/-- The mark before secrets that `tagged` wrote. -/
def mark : List Char := ['t', '|']

/-- Secrets at rest are the plain ones behind a mark that ends in a bar. -/
def tagged : Cipher W where
  decrypt secret :=
    match Text.splitFirst? '|' secret.text.toList with
    | some (_, plain) => return ⟨String.ofList plain⟩
    | none => throw (.encryption "untagged secret")
  encrypt secret := return ⟨String.ofList (mark ++ secret.text.toList)⟩

end Cipher

end Keyring
