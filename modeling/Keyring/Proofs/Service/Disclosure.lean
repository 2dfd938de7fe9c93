import Keyring.Proofs.Service.Command
import Keyring.Proofs.Service.Operation
import Keyring.Proofs.Text.Hex
import Keyring.Service.Stores

/-!
# What is disclosed of a secret that does not open

A configuration may hold a password in the clear where a sealed one is expected.  It is refused, and the
text of the refusal reaches whoever asked for the activation.  What does that text tell of the password?

* `notHex` : the error, which the cipher and the service give for every such text (`Denied`);
* `SameFault` : two texts that are not hexadecimal for the same reason;
* `denied_alike_iff` : the refusals of two texts are the same just if they have the same fault.  So the
  refusal of a text with an even number of bytes gives away its first byte that is no digit, and where
  it stands;
* `not_denied_alike` : two passwords of one length that are told apart by their refusals.
-/

namespace Keyring.Service

variable {W : Type} {c : Collaborators W}

/-! ### The refusal -/

/-- The error over a secret that is not hexadecimal. -/
def notHex (fault : Text.Hex.Error) : Error :=
  .secretDecryption ("Secret is not valid hex: " ++ fault.message)

/-- A secret is denied with an error: it is not decrypted, a service is not activated with it, and one
that serves does not go over to it. -/
structure Denied (c : Collaborators W) (secret : Password) (e : Error) : Prop where
  decrypt : ∀ s, c.cipher.decrypt secret s = (.error e, s)
  activate : ∀ properties o, Config.Options.resolve properties = .ok o → o.password = secret → ∀ s,
    (Command.activate properties).run c .uninitialized s = ((.error e, .uninitialized), s)
  change : ∀ properties o store, Config.Options.resolve properties = .ok o → o.password = secret →
    store.options.same o = false → ∀ s,
    (Command.activate properties).run c (.loaded store) s = ((.error e, .loaded store), s) ∧
      (Command.reconfigure properties).run c (.loaded store) s = ((.error e, .loaded store), s)

/-- The service passes on an error of the cipher that is of its own kind. -/
theorem plainPassword_of_decrypt {o : Config.Options} {text : String} {s : Session W}
    (h : c.cipher.decrypt o.password s = (.error (.secretDecryption text), s)) :
    plainPassword c o s = (.error (.secretDecryption text), s) := by
  rw [plainPassword, Act.mapError, Act.tryCatch_apply, h]
  rfl

/-- A service that serves does not go over to options whose password is not decrypted. -/
theorem changeTo_of_decrypt {o : Config.Options} {text : String} {store : LoadedStore} {s : Session W}
    (hsame : store.options.same o = false)
    (h : c.cipher.decrypt o.password s = (.error (.secretDecryption text), s)) :
    changeTo c o (.loaded store) s = ((.error (.secretDecryption text), .loaded store), s) := by
  have hchange : change c store o s = (.error (.secretDecryption text), s) := by
    rw [change, Act.bind_apply, plainPassword_of_decrypt h]
  have hloaded : loadedStore (.loaded store) s = ((.ok store, .loaded store), s) := rfl
  rw [changeTo, Edit.bind_apply, hloaded]
  simp only [hsame, Bool.false_eq_true, if_false]
  rw [Edit.bind_apply, Operation.perform_apply, hchange]

/-- A secret that is not decrypted is denied by the service for the same reason. -/
theorem Denied.of_decrypt {secret : Password} {text : String}
    (h : ∀ s, c.cipher.decrypt secret s = (.error (.secretDecryption text), s)) :
    Denied c secret (.secretDecryption text) where
  decrypt := h
  activate properties o ho hsecret s := by
    subst hsecret
    have hload : load c o s = (.error (.secretDecryption text), s) := by
      rw [load, Act.bind_apply, plainPassword_of_decrypt (h s)]
    have hactivate : Service.activate c properties .uninitialized s =
        ((.error (.secretDecryption text), .uninitialized), s) := by
      rw [Service.activate, Edit.bind_apply, Operation.liftM_apply, ho]
      change (perform (load c o) >>= fun store => setState (.loaded store)) .uninitialized s = _
      rw [Edit.bind_apply, Operation.perform_apply, hload]
    rw [Command.run, Edit.bind_apply, hactivate]
  change properties o store ho hsecret hsame s := by
    subst hsecret
    have hchange := changeTo_of_decrypt hsame (h s)
    constructor
    · have hactivate : Service.activate c properties (.loaded store) s =
          ((.error (.secretDecryption text), .loaded store), s) := by
        rw [Service.activate, Edit.bind_apply, Operation.liftM_apply, ho]
        exact hchange
      rw [Command.run, Edit.bind_apply, hactivate]
    · have hreconfigure : reconfigure c properties (.loaded store) s =
          ((.error (.secretDecryption text), .loaded store), s) := by
        rw [reconfigure, Edit.bind_apply, Operation.liftM_apply, ho]
        exact hchange
      rw [Command.run, Edit.bind_apply, hreconfigure]

/-- What is not hexadecimal is denied. -/
theorem denied_notHex {master secret : Password} {fault : Text.Hex.Error}
    (hc : c.cipher = .sealing master) (h : Text.Hex.decode secret.bytes = .error fault) :
    Denied c secret (notHex fault) := by
  refine .of_decrypt fun s => ?_
  have hopen : Cipher.openSecret master secret = .error (notHex fault) := by
    rw [Cipher.openSecret, h]
    rfl
  have hdecrypt : (Cipher.sealing master).decrypt secret s = (Cipher.openSecret master secret, s) :=
    Act.liftM_apply _ s
  rw [hc, hdecrypt, hopen]
  rfl

/-! ### What the refusal tells -/

theorem text_notHex_inj {fault fault' : Text.Hex.Error} :
    (notHex fault).text = (notHex fault').text ↔ fault = fault' := by
  have hcancel : ∀ a b m m' : String, a ++ (b ++ m) = a ++ (b ++ m') ↔ m = m' := by
    intro a b m m'
    rw [String.append_right_inj, String.append_right_inj]
  exact (hcancel "Secret decryption error: " "Secret is not valid hex: " _ _).trans
    Text.Hex.Error.message_inj

/-- **A refused secret is told by its fault.**  Under any master passphrase, the texts of the errors
over two secrets that are not hexadecimal are the same if and only if the secrets have the same fault:
an odd number of bytes, or else the same first byte that is no digit, in the same place.  The service
gives the errors of the cipher as they are, and the state stays as it was. -/
theorem denied_alike_iff {master secret secret' : Password} {fault fault' : Text.Hex.Error}
    (hc : c.cipher = .sealing master) (h : Text.Hex.decode secret.bytes = .error fault)
    (h' : Text.Hex.decode secret'.bytes = .error fault') :
    Denied c secret (notHex fault) ∧ Denied c secret' (notHex fault') ∧
      ((notHex fault).text = (notHex fault').text ↔
        Text.Hex.SameFault secret.bytes secret'.bytes) :=
  ⟨denied_notHex hc h, denied_notHex hc h', text_notHex_inj.trans (Text.Hex.sameFault_iff h h').symm⟩

/-- Two passwords whose second letter is the first that is no digit are not told apart; they are from
one that starts with such a letter. -/
theorem denied_alike_iff_changeit :
    let c := Stores.collaborators .memory (.sealing ⟨"master"⟩) .memory
    Denied c ⟨"changeit"⟩ (notHex (.invalidDigit 0x68 1)) ∧
      Denied c ⟨"chestnut"⟩ (notHex (.invalidDigit 0x68 1)) ∧
      Denied c ⟨"password"⟩ (notHex (.invalidDigit 0x70 0)) ∧
      Text.Hex.SameFault (Password.bytes ⟨"changeit"⟩) (Password.bytes ⟨"chestnut"⟩) ∧
      (notHex (.invalidDigit 0x68 1)).text ≠ (notHex (.invalidDigit 0x70 0)).text := by
  intro c
  have hchangeit : Text.Hex.decode (Password.bytes ⟨"changeit"⟩) = .error (.invalidDigit 0x68 1) := rfl
  have hchestnut : Text.Hex.decode (Password.bytes ⟨"chestnut"⟩) = .error (.invalidDigit 0x68 1) := rfl
  have hpassword : Text.Hex.decode (Password.bytes ⟨"password"⟩) = .error (.invalidDigit 0x70 0) := rfl
  obtain ⟨hdenied, hdenied', hsame⟩ := denied_alike_iff (c := c) rfl hchangeit hchestnut
  obtain ⟨-, hdenied'', hother⟩ := denied_alike_iff (c := c) rfl hchangeit hpassword
  exact ⟨hdenied, hdenied', hdenied'', hsame.1 rfl, fun h => absurd (hother.1 h) (by decide +kernel)⟩

/-- Two passwords of one length, neither of them hexadecimal, of which a service with the cipher in use
gives the letters away that it stumbled over. -/
theorem not_denied_alike :
    ¬ ∀ (master secret secret' : Password) (fault fault' : Text.Hex.Error) (e e' : Error),
      secret.bytes.length = secret'.bytes.length →
      Text.Hex.decode secret.bytes = .error fault → Text.Hex.decode secret'.bytes = .error fault' →
      Denied (Stores.collaborators .memory (.sealing master) .memory) secret e →
      Denied (Stores.collaborators .memory (.sealing master) .memory) secret' e' →
        e.text = e'.text := by
  intro h
  have hchangeit : Text.Hex.decode (Password.bytes ⟨"changeit"⟩) = .error (.invalidDigit 0x68 1) := rfl
  have hpassword : Text.Hex.decode (Password.bytes ⟨"password"⟩) = .error (.invalidDigit 0x70 0) := rfl
  have htext := h ⟨"master"⟩ ⟨"changeit"⟩ ⟨"password"⟩ _ _ _ _ rfl hchangeit hpassword
    (denied_notHex rfl hchangeit) (denied_notHex rfl hpassword)
  exact absurd (text_notHex_inj.1 htext) (by decide)

end Keyring.Service
