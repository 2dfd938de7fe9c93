import Keyring.Config.Options
import Keyring.Proofs.Act

/-!
# Resolving options

`Options.Resolves p o` lists what is read from a configuration `p` on the way to the options `o`;
`Options.ofProperties_eq_ok_iff` says that resolving does just that.  The configuration that options
hand back after their password was replaced resolves again, to the same place and service, the new
password and no further replacing (`Options.ofProperties_withPassword`); it is the given configuration
but for the password (`Options.withPassword_eq`).  All of this together, and that replacing it once
more starts from the same configuration, is `Options.withPassword_exact`.  A configuration that does
not resolve fails as an invalid one, whatever is wrong with it (`Options.kind_of_resolve`).
-/

namespace Keyring.Config

namespace Options

/-- What is read from a configuration makes up the options. -/
structure Resolves (p : Properties) (o : Options) : Prop where
  serviceId : setting p .serviceId (fun key value => some <$> value.asString key) none =
    .ok o.serviceId
  path : setting p .path Value.asString defaultPath = .ok o.path.text
  password : setting p .password Value.asString defaultPassword = .ok o.password.text
  randomize : setting p .randomize Value.asBoolean false = .ok o.randomize
  notBlank : Text.isBlankText o.path.text = false
  properties : o.properties = p.erase Key.password.name

theorem ofProperties_eq_ok_iff {p : Properties} {o : Options} :
    ofProperties p = .ok o ↔ Resolves p o := by
  constructor
  · intro h
    unfold ofProperties at h
    obtain ⟨serviceId, hs, h⟩ := bind_eq_ok_iff.1 h
    obtain ⟨path, hp, h⟩ := bind_eq_ok_iff.1 h
    split at h
    · cases h
    · rename_i hb
      obtain ⟨password, hw, h⟩ := bind_eq_ok_iff.1 h
      obtain ⟨randomize, hr, h⟩ := bind_eq_ok_iff.1 h
      obtain rfl := Except.ok.inj h
      exact ⟨hs, hp, hw, hr, by simpa using hb, rfl⟩
  · intro h
    obtain ⟨properties, serviceId, ⟨path⟩, ⟨password⟩, randomize⟩ := o
    obtain ⟨hs, hp, hw, hr, hb, rfl⟩ := h
    simp only at hs hp hw hr hb
    simp [ofProperties, hs, hp, hb, hw, hr, bind, Except.bind, pure, Except.pure]

theorem resolve_eq_ok_iff {properties : Option Properties} {o : Options} :
    resolve properties = .ok o ↔ ∃ p, properties = some p ∧ ofProperties p = .ok o := by
  cases properties with
  | none => simp [resolve]
  | some p => simp [resolve]

/-! ### Errors -/

end Options

theorem Value.kind_of_asString {key : String} {v : Value} {e : Error}
    (h : v.asString key = .error e) : e.kind = .invalidConfiguration := by
  cases v with
  | string s => cases h
  | boolean _ | integer _ =>
    obtain rfl := Except.error.inj h
    rfl

theorem Value.kind_of_asBoolean {key : String} {v : Value} {e : Error}
    (h : v.asBoolean key = .error e) : e.kind = .invalidConfiguration := by
  cases v with
  | boolean b => cases h
  | integer _ =>
    obtain rfl := Except.error.inj h
    rfl
  | string s =>
    simp only [asBoolean] at h
    split at h
    · cases h
    · split at h
      · cases h
      · obtain rfl := Except.error.inj h
        rfl

namespace Options

/-- A setting fails as reading its value does. -/
theorem kind_of_setting {α : Type} {p : Properties} {key : Key}
    {read : String → Value → Except Error α} {default : α} {e : Error}
    (hread : ∀ value, read key.name value = .error e → e.kind = .invalidConfiguration)
    (h : setting p key read default = .error e) : e.kind = .invalidConfiguration := by
  unfold setting at h
  split at h
  · exact hread _ h
  · cases h

theorem kind_of_ofProperties {p : Properties} {e : Error} (h : ofProperties p = .error e) :
    e.kind = .invalidConfiguration := by
  unfold ofProperties at h
  rcases bind_eq_error_iff.1 h with h | ⟨serviceId, -, h⟩
  · refine kind_of_setting (fun value hvalue => ?_) h
    cases hs : value.asString Key.serviceId.name with
    | ok s =>
      rw [hs] at hvalue
      cases hvalue
    | error e' =>
      rw [hs] at hvalue
      obtain rfl := Except.error.inj hvalue
      exact Value.kind_of_asString hs
  rcases bind_eq_error_iff.1 h with h | ⟨path, -, h⟩
  · exact kind_of_setting (fun _ => Value.kind_of_asString) h
  split at h
  · obtain rfl := Except.error.inj h
    rfl
  rcases bind_eq_error_iff.1 h with h | ⟨password, -, h⟩
  · exact kind_of_setting (fun _ => Value.kind_of_asString) h
  rcases bind_eq_error_iff.1 h with h | ⟨randomize, -, h⟩
  · exact kind_of_setting (fun _ => Value.kind_of_asBoolean) h
  · cases h

/-- **A configuration that does not resolve is invalid**, and the error says so. -/
theorem kind_of_resolve {properties : Option Properties} {e : Error}
    (h : resolve properties = .error e) : e.kind = .invalidConfiguration := by
  cases properties with
  | none =>
    obtain rfl := Except.error.inj h
    rfl
  | some p => exact kind_of_ofProperties h

/-! ### Replacing the password -/

theorem find?_properties {p : Properties} {o : Options} (h : ofProperties p = .ok o) (key : String) :
    o.properties.find? key = if key = Key.password.name then none else p.find? key := by
  rw [(ofProperties_eq_ok_iff.1 h).properties, Table.find?_erase]

theorem find?_withPassword (o : Options) (secret : Password) (key : String) :
    (o.withPassword secret).find? key =
      if key = Key.randomize.name then some (.boolean false)
      else if key = Key.password.name then some (.string secret.text)
      else o.properties.find? key := by
  simp only [withPassword, Table.find?_insert]

/-- **The configuration that is handed back resolves.**  It names the same service and place as the
one before, the new password, and asks for no other. -/
theorem ofProperties_withPassword {p : Properties} {o : Options} (h : ofProperties p = .ok o)
    (secret : Password) :
    ofProperties (o.withPassword secret) =
      .ok { o with
        properties := (o.withPassword secret).erase Key.password.name
        password := secret
        randomize := false } := by
  obtain ⟨hs, hp, hw, hr, hb, hprops⟩ := ofProperties_eq_ok_iff.1 h
  -- the service id and the path stand under keys that neither the removal nor the insertions touch
  have hfind : ∀ key : Key, key ≠ .password → key ≠ .randomize →
      (o.withPassword secret).find? key.name = p.find? key.name := by
    intro key hpassword hrandomize
    have h1 : key.name ≠ Key.password.name := by revert hpassword; cases key <;> decide
    have h2 : key.name ≠ Key.randomize.name := by revert hrandomize; cases key <;> decide
    rw [find?_withPassword, if_neg h2, if_neg h1, hprops, Table.find?_erase, if_neg h1]
  rw [ofProperties_eq_ok_iff]
  refine ⟨?_, ?_, ?_, ?_, hb, rfl⟩
  · simpa only [setting, hfind .serviceId (by decide) (by decide)] using hs
  · simpa only [setting, hfind .path (by decide) (by decide)] using hp
  · have hne : Key.password.name ≠ Key.randomize.name := by decide
    simp only [setting, find?_withPassword, if_neg hne, if_true, Value.asString]
  · simp only [setting, find?_withPassword, if_true, Value.asBoolean]

/-- A configuration with the password replaced by one that is not to be replaced again. -/
def replaced (p : Properties) (secret : Password) : Properties :=
  (p.insert Key.password.name (.string secret.text)).insert Key.randomize.name (.boolean false)

theorem find?_replaced (p : Properties) (secret : Password) (key : String) :
    (replaced p secret).find? key =
      if key = Key.randomize.name then some (.boolean false)
      else if key = Key.password.name then some (.string secret.text)
      else p.find? key := by
  simp only [replaced, Table.find?_insert]

/-- What is handed back is the configuration itself, but for the password. -/
theorem withPassword_eq {p : Properties} {o : Options} (h : ofProperties p = .ok o)
    (secret : Password) : o.withPassword secret = replaced p secret := by
  refine Table.ext_find? fun key => ?_
  rw [find?_withPassword, find?_replaced, find?_properties h]
  split
  · rfl
  · split <;> rfl

/-- Replacing a password twice leaves the second one. -/
theorem replaced_replaced (p : Properties) (secret secret' : Password) :
    replaced (replaced p secret) secret' = replaced p secret' := by
  refine Table.ext_find? fun key => ?_
  rw [find?_replaced, find?_replaced, find?_replaced]
  split
  · rfl
  · split <;> rfl

/-- **Replacing the password changes two settings and always resolves.**  Options keep the
configuration that they were resolved from but for the password.  With a new password they hand back
that configuration with the password set to the new one and randomization set to `false`, every other
key as it was; it resolves to the same service and place, the new password and no randomization, and
replacing the password once more gives what replacing it at once would have given. -/
theorem withPassword_exact {p : Properties} {o : Options} (h : ofProperties p = .ok o)
    (secret : Password) :
    (∀ key, o.properties.find? key = if key = Key.password.name then none else p.find? key) ∧
      (∀ key, (o.withPassword secret).find? key =
        if key = Key.randomize.name then some (.boolean false)
        else if key = Key.password.name then some (.string secret.text)
        else p.find? key) ∧
      ∃ o', ofProperties (o.withPassword secret) = .ok o' ∧
        o'.serviceId = o.serviceId ∧ o'.path = o.path ∧ o'.password = secret ∧
        o'.randomize = false ∧
        ∀ secret', o'.withPassword secret' = o.withPassword secret' := by
  have hback : o.withPassword secret = replaced p secret := withPassword_eq h secret
  have hagain := ofProperties_withPassword h secret
  refine ⟨find?_properties h, fun key => ?_, _, hagain, rfl, rfl, rfl, rfl, fun secret' => ?_⟩
  · rw [hback, find?_replaced]
  · calc _ = replaced (o.withPassword secret) secret' := withPassword_eq hagain secret'
      _ = replaced p secret' := by rw [hback, replaced_replaced]
      _ = o.withPassword secret' := (withPassword_eq h secret').symm

/-- A password, a spelled out `true`, no path and a key that the keystore does not know. -/
theorem withPassword_exact_defaults :
    let p : Properties := Table.ofList [("keystore.password", .string "old"),
      ("kura.service.pid", .string "tls"), ("log.level", .integer ⟨3, by decide⟩),
      ("randomize.password", .string " TRUE ")]
    let o : Options := ⟨p.erase Key.password.name, some "tls", ⟨defaultPath⟩, ⟨"old"⟩, true⟩
    ofProperties p = .ok o ∧
      (∀ key, (o.withPassword ⟨"new"⟩).find? key =
        if key = Key.randomize.name then some (.boolean false)
        else if key = Key.password.name then some (.string "new")
        else p.find? key) ∧
      ∃ o', ofProperties (o.withPassword ⟨"new"⟩) = .ok o' ∧ o'.path = ⟨"/tmp"⟩ ∧
        o'.serviceId = some "tls" ∧ o'.password = ⟨"new"⟩ ∧ o'.randomize = false := by
  intro p o
  have h : ofProperties p = .ok o := rfl
  obtain ⟨-, hfind, o', hagain, hservice, hpath, hpassword, hrandomize, -⟩ :=
    withPassword_exact h ⟨"new"⟩
  exact ⟨h, hfind, o', hagain, hpath, hservice, hpassword, hrandomize⟩

/-- Options that were resolved from what is handed back ask for no other password. -/
theorem randomize_of_withPassword {o o' : Options} {secret : Password}
    (h : ofProperties (o.withPassword secret) = .ok o') : o'.randomize = false := by
  have hrandomize := (ofProperties_eq_ok_iff.1 h).randomize
  simp only [setting, find?_withPassword, if_true, Value.asBoolean] at hrandomize
  exact (Except.ok.inj hrandomize).symm

end Options

end Keyring.Config
