import Keyring.Proofs.Config.Options
import Keyring.Proofs.Reprotection
import Keyring.Proofs.Service.Atomicity
import Keyring.Proofs.Service.Command
import Keyring.Proofs.Service.Ledger
import Keyring.Proofs.Text.Hex

/-!
# What the service does not fail at

Any operation of the service may fail because a collaborator does.  Where the collaborators do what they
are asked (`Obliging`), the service does so as well:

* `Command.setEntry_succeeds` : an entry is put under every alias that is not empty;
* `Command.reconfigure_succeeds` : a container that opens is put under another password, and if the
  configuration asks for it, from there under a random one.

The ledger is obliging (`obliging_ledger`), so that a run on it can be followed though its keys are
sealed.
-/

namespace Keyring

variable {W : Type}

/-- A random password has two digits for every byte that is drawn. -/
theorem Sealing.freshPassword_succeeds :
    (freshPassword : Act W Password).Succeeds fun password => password.text.length = 40 := by
  unfold freshPassword
  refine .bind (.draw _) fun bytes hbytes => .pure ?_
  rw [← String.length_toList, Text.Hex.toList_text, List.length_map, Text.Hex.length_nibbles, hbytes]
  rfl

namespace Service

open Operation

/-- Collaborators that take whatever they are given: containers, configurations and passwords. -/
structure Obliging (c : Collaborators W) (plain : Password → Password) : Prop where
  store (container : Container) (path : Files.Path) (password : Password) :
    (c.backend.store container path password).Succeeds fun _ => True
  encrypt (password : Password) :
    (c.cipher.encrypt password).Succeeds fun secret => plain secret = password
  updateConfiguration (serviceId : Option String) (p : Config.Properties) :
    (c.updateConfiguration serviceId p).Succeeds fun _ => True

/-- The password of some options is decrypted. -/
def Decrypts (c : Collaborators W) (plain : Password → Password) (o : Config.Options) : Prop :=
  (c.cipher.decrypt o.password).Succeeds fun password => password = plain o.password

variable {c : Collaborators W} {plain : Password → Password}

theorem Decrypts.plainPassword_succeeds {o : Config.Options} (h : Decrypts c plain o) :
    (plainPassword c o).Succeeds fun password => password = plain o.password :=
  .mapError h

section

variable (H : Obliging c plain)

include H

/-- **An entry is put**, whatever is served and whether or not the entry is well-formed. -/
theorem Command.setEntry_succeeds (store : LoadedStore) (hstore : Decrypts c plain store.options)
    {name : String} (hname : name ≠ "") (entry : Entry) (s : Session W) :
    ((setEntry (some name) (some entry)).run c).Ensures (.loaded store) s fun r st' _ =>
      r = .ok .done ∧ ∃ container, st' = .loaded { store with container } := by
  refine .bind_pure (.bind_given ?_)
  rw [if_neg (mt String.isEmpty_iff.1 hname)]
  refine .bind_given (storeEntry_ensures c ?_)
  refine hstore.plainPassword_succeeds.ensures fun password t _ stored u _ _ => ?_
  exact (H.store _ _ password).ensures fun _ v _ w _ => ⟨rfl, _, rfl⟩

theorem reprotect_succeeds {container : Container} {old : Password} {m : Table Entry}
    (h : container.Opens old m) (o : Config.Options) (new : Password) :
    (reprotect c container o old new).Succeeds fun k => k.Opens new m := by
  unfold reprotect
  exact .bind (.mapError (h.reprotect_succeeds new)) fun k hk =>
    .bind (.mapError (H.store k o.path new)) fun _ _ => .pure hk

/-- A container that opens is put under a random password if the options ask for it. -/
theorem randomize_succeeds {o : Config.Options} {p : Config.Properties} {container : Container}
    {m : Table Entry} (ho : Config.Options.ofProperties p = .ok o)
    (h : container.Opens (plain o.password) m) :
    (randomize c o container (plain o.password)).Succeeds fun store =>
      o.randomize = true → (plain store.options.password).text.length = 40 := by
  unfold randomize
  split
  · refine .bind Sealing.freshPassword_succeeds fun new hnew => ?_
    refine .bind (.mapError (H.encrypt new)) fun secret hsecret => ?_
    refine .bind (reprotect_succeeds H h o new) fun k _ => ?_
    refine .bind ((H.updateConfiguration o.serviceId _).tryCatch _) fun _ _ => ?_
    refine .bind (.report _ _ _) fun _ _ => ?_
    rw [Config.Options.ofProperties_withPassword ho secret]
    exact .pure fun _ => hsecret ▸ hnew
  · rename_i hrandomize
    exact .pure fun h => absurd h hrandomize

/-- A container that opens stays at its place and goes over to the password of the options. -/
theorem moveContainer_succeeds {current : LoadedStore} {o : Config.Options} {m : Table Entry}
    (hcurrent : Decrypts c plain current.options)
    (hpath : current.options.path.components = o.path.components)
    (h : current.container.Opens (plain current.options.password) m) :
    (moveContainer c current o (plain o.password)).Succeeds fun moved =>
      moved.1.Opens (plain o.password) m := by
  unfold moveContainer
  split
  · rename_i hsame
    simp [Files.Path.same, hpath] at hsame
  · split
    · refine .bind hcurrent.plainPassword_succeeds ?_
      rintro _ rfl
      split
      · rename_i hold
        exact .pure (hold ▸ h)
      · exact .bind (.report _ _ _) fun _ _ => .bind (reprotect_succeeds H h o _) fun k hk => .pure hk
    · rename_i hsecret
      have hsecret : current.options.password = o.password := by simpa using hsecret
      exact .pure (hsecret ▸ h)

theorem change_succeeds {current : LoadedStore} {o : Config.Options} {p : Config.Properties}
    {m : Table Entry} (ho : Config.Options.ofProperties p = .ok o)
    (hcurrent : Decrypts c plain current.options) (hnew : Decrypts c plain o)
    (hpath : current.options.path.components = o.path.components)
    (h : current.container.Opens (plain current.options.password) m) :
    (change c current o).Succeeds fun store =>
      o.randomize = true → (plain store.options.password).text.length = 40 := by
  unfold change
  refine .bind hnew.plainPassword_succeeds ?_
  rintro _ rfl
  refine .bind (moveContainer_succeeds H hcurrent hpath h) ?_
  rintro ⟨container, old⟩ hmoved
  cases old with
  | none => exact randomize_succeeds H ho hmoved
  | some old => exact (randomize_succeeds H ho hmoved).tryCatch _

/-- **A container that opens goes over to another configuration of its place.** -/
theorem Command.reconfigure_succeeds {current : LoadedStore} {properties : Option Config.Properties}
    {o : Config.Options} {m : Table Entry} (ho : Config.Options.resolve properties = .ok o)
    (hcurrent : Decrypts c plain current.options) (hnew : Decrypts c plain o)
    (hpath : current.options.path.components = o.path.components)
    (hother : current.options.same o = false)
    (h : current.container.Opens (plain current.options.password) m) (s : Session W) :
    ((reconfigure properties).run c).Ensures (.loaded current) s fun r st' _ =>
      r = .ok .done ∧ ∃ store, st' = .loaded store ∧
        (o.randomize = true → (plain store.options.password).text.length = 40) := by
  obtain ⟨p, -, hp⟩ := Config.Options.resolve_eq_ok_iff.1 ho
  refine .bind_pure (.bind_lift (fun o' ho' => ?_) fun e he => by rw [ho] at he; cases he)
  obtain rfl := Except.ok.inj (ho.symm.trans ho')
  refine .bind_loaded ?_
  rw [if_neg (Bool.eq_false_iff.1 hother)]
  exact .bind_perform (change_succeeds H hp hcurrent hnew hpath h s)
    (fun store t hstore => .setState ⟨rfl, store, rfl, hstore⟩) fun _ _ h => h.elim

end

/-- A ledger takes whatever it is given. -/
theorem obliging_ledger : Obliging .ledger untag where
  store _ _ _ _ := trivial
  encrypt password _ := untag_mark password
  updateConfiguration _ _ _ := trivial

/-- A ledger decrypts what stands behind a mark. -/
theorem decrypts_ledger {o : Config.Options}
    (h : (Text.splitFirst? '|' o.password.text.toList).isSome = true) :
    Decrypts .ledger untag o := by
  rw [Decrypts]
  simp only [Collaborators.ledger, Cipher.tagged, untag]
  rcases hsplit : Text.splitFirst? '|' o.password.text.toList with _ | ⟨_, password⟩
  · rw [hsplit] at h
    cases h
  · exact .pure rfl

end Service

end Keyring
