import Keyring.Crypto.Argon2id
import Keyring.Crypto.Gcm
import Keyring.Password
import Keyring.Session
import Keyring.Text.Hex

/-!
# Sealing under a password

A sealed text is a salt, a nonce and the encrypted text with its tag, where the key is derived from
the password and the salt. `openText` takes a sealed text apart again. The two are inverse:
what was sealed opens as it was (`openText_of_sealText`), and whatever opens was sealed under the salt and
the nonce it starts with (`sealText_of_openText`).
-/

namespace Keyring.Sealing

/-- The length of a salt. -/
def saltLength : Nat := 32

/-- The length of a nonce. -/
def nonceLength : Nat := 12

/-- The length of a derived key. -/
def keyLength : Nat := 32

/-- The key of a password and a salt of the right length. -/
def deriveKey (password salt : Bytes) : Except Error Bytes :=
  if salt.length = saltLength then
    .ok (Crypto.Argon2id.derive .default keyLength password salt)
  else
    .error (.keyDerivation
      ("Salt must be " ++ toString saltLength ++ " bytes, got " ++ toString salt.length))

/-- Seals a text under a password. -/
def sealText (salt nonce text password : Bytes) : Except Error Bytes := do
  let key ← deriveKey password salt
  return salt ++ nonce ++ Crypto.Gcm.encrypt key nonce text

/-- The error over a text too short for a salt and a nonce. -/
def tooShort (length : Nat) : Error :=
  .encryption
    ("Sealed data too short: expected at least " ++ toString (saltLength + nonceLength) ++
      " bytes, got " ++ toString length)

/-- Opens a sealed text. -/
def openText (sealedText password : Bytes) : Except Error Bytes := do
  if sealedText.length < saltLength + nonceLength then throw (tooShort sealedText.length)
  let key ← deriveKey password (sealedText.take saltLength)
  let rest := sealedText.drop saltLength
  match Crypto.Gcm.decrypt? key (rest.take nonceLength) (rest.drop nonceLength) with
  | some text => return text
  | none => throw .invalidPassword

theorem deriveKey_eq {password salt : Bytes} (h : salt.length = saltLength) :
    deriveKey password salt = .ok (Crypto.Argon2id.derive .default keyLength password salt) :=
  if_pos h

theorem sealText_eq {salt : Bytes} (nonce text password : Bytes) (h : salt.length = saltLength) :
    sealText salt nonce text password =
      .ok (salt ++ nonce ++
        Crypto.Gcm.encrypt (Crypto.Argon2id.derive .default keyLength password salt) nonce text) := by
  rw [sealText, deriveKey_eq h]
  rfl

theorem openText_of_sealText {salt nonce text password sealedText : Bytes}
    (hn : nonce.length = nonceLength) (h : sealText salt nonce text password = .ok sealedText) :
    openText sealedText password = .ok text := by
  by_cases hs : salt.length = saltLength
  · rw [sealText_eq nonce text password hs] at h
    cases h
    have hl : ¬ (salt ++ nonce ++ Crypto.Gcm.encrypt
        (Crypto.Argon2id.derive .default keyLength password salt) nonce text).length
          < saltLength + nonceLength := by
      simp only [List.length_append, hs, hn]
      omega
    simp only [openText, hl, if_false]
    simp only [List.append_assoc, List.take_left' hs, List.drop_left' hs, List.take_left' hn,
      List.drop_left' hn, deriveKey_eq hs]
    simp [bind, Except.bind, pure, Except.pure, Crypto.Gcm.decrypt?_encrypt]
  · rw [sealText, deriveKey, if_neg hs] at h
    cases h

theorem sealText_of_openText {sealedText password text : Bytes}
    (h : openText sealedText password = .ok text) :
    sealText (sealedText.take saltLength) ((sealedText.drop saltLength).take nonceLength) text password =
      .ok sealedText := by
  by_cases hl : sealedText.length < saltLength + nonceLength
  · simp [openText, hl, throw, throwThe, MonadExceptOf.throw, bind, Except.bind] at h
  · have hs : (sealedText.take saltLength).length = saltLength := by
      rw [List.length_take]
      simp only [saltLength, nonceLength] at hl ⊢
      omega
    rw [sealText_eq _ _ _ hs]
    simp only [openText, hl, if_false, deriveKey_eq hs] at h
    simp only [bind, Except.bind, pure, Except.pure] at h
    split at h
    · rename_i text' hd
      cases h
      rw [← Crypto.Gcm.eq_encrypt_of_decrypt? hd, List.append_assoc, List.take_append_drop,
        List.take_append_drop]
    · cases h

/-! ### Fresh salts, nonces and passwords -/

variable {W : Type}

/-- Seals a text under a fresh salt and nonce. -/
def sealFresh (text password : Bytes) : Act W Bytes := do
  let salt ← Act.draw saltLength
  let nonce ← Act.draw nonceLength
  sealText salt nonce text password

/-- The number of random bytes behind a generated password. -/
def passwordBytes : Nat := 20

/-- A fresh password: the hexadecimal digits of random bytes. -/
def freshPassword : Act W Password := do
  return ⟨Text.Hex.text (← Act.draw passwordBytes)⟩

end Keyring.Sealing
