import Keyring.Proofs.Service.Faithful
import Keyring.Service.Observed

/-!
# Collaborators that keep a ledger

* `Collaborators.ledger` : containers are kept by the components of their paths, secrets are marked and
  every configuration is taken;
* `faithful_ledger` : these collaborators are faithful;
* `Ledger.properties` : configurations that name one place in the ledger;
* `Faithful.observed` : collaborators that are faithful stay so when calls are made to fail as planned,
  so that what holds of faithful collaborators holds of every pattern of failures.
-/

namespace Keyring.Service

open Act (Continues)

/-! ### A ledger -/

/-- Containers by the components of their paths. -/
def Ledger.backend : Backend Records where
  contains path := Act.look fun kept => (kept path.components).isSome
  load path password := Act.onWorld fun kept =>
    match kept path.components with
    | none => (.error (.storage (.other "no such store")), kept)
    | some (container, p) => (if p = password then .ok container else .error .invalidPassword, kept)
  store container path password := Act.onWorld fun kept =>
    (.ok (), Function.update kept path.components (some (container, password)))

/-- What stands behind the mark of a secret. -/
def untag (secret : Password) : Password :=
  match Text.splitFirst? '|' secret.text.toList with
  | some (_, plain) => ⟨String.ofList plain⟩
  | none => secret

/-- A ledger, marked secrets, and configurations that are taken and forgotten. -/
def Collaborators.ledger : Collaborators Records where
  backend := Ledger.backend
  cipher := Cipher.tagged
  updateConfiguration _ _ := return ()

theorem untag_mark (password : Password) :
    untag ⟨String.ofList (Cipher.mark ++ password.text.toList)⟩ = password := by
  simp [untag, Cipher.mark, Text.splitFirst?]

/-- A ledger is the map that it keeps to. -/
theorem faithful_ledger : Faithful .ledger id untag where
  contains path s := ⟨⟨rfl, List.prefix_refl _⟩, rfl⟩
  load path password s := by
    have hasis : Untouched id s s := ⟨rfl, List.prefix_refl _⟩
    rw [Act.Ends, Act.Ensures]
    simp only [Collaborators.ledger, Ledger.backend, Act.onWorld_apply]
    rcases hr : s.world path.components with _ | ⟨container, p⟩
    · exact hasis
    · by_cases hp : p = password
      · simp only [if_pos hp]
        exact ⟨hasis, by rw [id, hr, hp]⟩
      · simp only [if_neg hp]
        exact hasis
  store container path password s := ⟨List.prefix_refl _, rfl⟩
  decrypt secret s := by
    have hasis : Untouched id s s := ⟨rfl, List.prefix_refl _⟩
    simp only [Collaborators.ledger, Cipher.tagged, untag]
    rcases Text.splitFirst? '|' secret.text.toList with _ | ⟨_, password⟩
    · exact .throw hasis
    · exact .pure ⟨hasis, rfl⟩
  encrypt password s := ⟨⟨rfl, List.prefix_refl _⟩, untag_mark password⟩
  updateConfiguration _ _ s := ⟨rfl, List.prefix_refl _⟩

namespace Ledger

/-- A place in the ledger. -/
def path : Files.Path := ⟨"/keys"⟩

/-- A configuration that names the place. -/
def properties (secret : String) (randomize : Bool) : Config.Properties :=
  ((Table.empty.insert Config.Key.path.name (.string path.text)).insert Config.Key.password.name
    (.string secret)).insert Config.Key.randomize.name (.boolean randomize)

/-- What the configuration resolves to. -/
def options (secret : String) (randomize : Bool) : Config.Options where
  properties := (properties secret randomize).erase Config.Key.password.name
  serviceId := none
  path := path
  password := ⟨secret⟩
  randomize := randomize

theorem resolve_properties (secret : String) (randomize : Bool) :
    Config.Options.resolve (some (properties secret randomize)) = .ok (options secret randomize) := by
  rw [Config.Options.resolve_eq_ok_iff]
  refine ⟨_, rfl, Config.Options.ofProperties_eq_ok_iff.2 ⟨?_, ?_, ?_, ?_, ?_, rfl⟩⟩
  · simp [Config.Options.setting, properties, Table.find?_insert, Config.Key.name, options]
  · simp [Config.Options.setting, properties, Table.find?_insert, Config.Key.name,
      Config.Value.asString, options]
  · simp [Config.Options.setting, properties, Table.find?_insert, Config.Key.name,
      Config.Value.asString, options]
  · simp [Config.Options.setting, properties, Table.find?_insert, Config.Key.name,
      Config.Value.asBoolean, options]
  · show Text.isBlankText path.text = false
    decide +kernel

end Ledger

/-! ### Planned failures -/

namespace Observed

variable {W α : Type}

/-- The session of the collaborators that are observed. -/
def session (s : Session (Observed W)) : Session W := { s with world := s.world.world }

theorem obey_ends (target : Target) (s : Session (Observed W)) :
    (obey target).Ends s (fun _ t => session t = session s) fun t => session t = session s := by
  rw [Act.Ends, Act.Ensures, obey, Act.onWorld_apply]
  rcases s.world.plans target with _ | ⟨_ | passing, error⟩ <;> rfl

theorem within_ends {act : Act W α} {s : Session (Observed W)} {p : α → Session W → Prop}
    {q : Session W → Prop} (h : act.Ends (session s) p q) :
    (Act.within inner act).Ends s (fun a t => p a (session t)) fun t => q (session t) := h

/-- A call that is noted and may be made to fail ends as the call itself, or is not made. -/
theorem make_ends {call : Call} {target : Target} {act : Act W α} {s : Session (Observed W)}
    {p : α → Session W → Prop} {q : Session W → Prop} (h : act.Ends (session s) p q)
    (hfail : q (session s)) :
    (make call target act).Ends s (fun a t => p a (session t)) fun t => q (session t) := by
  refine .bind (p := fun _ t => session t = session s) (q := fun _ => False) rfl ?_ fun _ hf => hf.elim
  intro _ t ht
  refine .bind (obey_ends target t) ?_ fun u hu => ?_
  · intro _ u hu
    rw [← ht, ← hu] at h
    exact within_ends h
  · rw [hu, ht]
    exact hfail

end Observed

variable {W : Type} {c : Collaborators W} {record : W → Records} {plain : Password → Password}

theorem Untouched.of_session {s t : Session (Observed W)}
    (h : Untouched record (Observed.session s) (Observed.session t)) :
    Untouched (fun o => record o.world) s t :=
  ⟨h.records, h.journal⟩

/-- **Failures leave collaborators faithful**: observed ones keep to the same map, whatever is
planned. -/
theorem Faithful.observed (H : Faithful c record plain) :
    Faithful c.observed (fun o => record o.world) plain where
  contains path s := by
    refine .bind (p := fun _ t => Observed.session t = Observed.session s) (q := fun _ => False) rfl
      (fun _ t ht => ?_) fun _ hf => hf.elim
    refine (Observed.within_ends (H.contains path _)).imp ?_ ?_
    all_goals rw [ht]
    · exact fun _ _ h => ⟨.of_session h.1, h.2⟩
    · exact fun _ h => .of_session h
  load path password s :=
    (Observed.make_ends (H.load path password _) (.refl _)).imp
      (fun _ _ h => ⟨.of_session h.1, h.2⟩) fun _ h => .of_session h
  store container path password s :=
    (Observed.make_ends (H.store container path password _) (.refl _)).imp
      (fun _ _ h => h) fun _ h => .of_session h
  decrypt secret s :=
    (Observed.make_ends (H.decrypt secret _) (.refl _)).imp
      (fun _ _ h => ⟨.of_session h.1, h.2⟩) fun _ h => .of_session h
  encrypt password s :=
    (Observed.make_ends (H.encrypt password _) (.refl _)).imp
      (fun _ _ h => ⟨.of_session h.1, h.2⟩) fun _ h => .of_session h
  updateConfiguration serviceId p s := by
    refine .bind (Observed.make_ends (H.updateConfiguration serviceId p _) (.refl _)) ?_
      fun t ht => .of_session ht
    -- writing the configuration down touches what is observed, not the ledger behind it
    intro _ t ht
    exact Untouched.of_session ht

end Keyring.Service
