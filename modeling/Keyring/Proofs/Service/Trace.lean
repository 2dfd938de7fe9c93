import Keyring.Proofs.Service.Simulation
import Keyring.Service.Observed

/-!
# Calls and how they ended

A record of what the service asks of its collaborators and of what they answer, so that statements
about an operation can speak of the calls that it made.

* `Collaborators.traced` : collaborators that write down every call together with the error that it was
  refused with, if it was;
* `Command.run_traced` : writing the calls down changes nothing else;
* `Made` : the calls between two sessions, and the result that came with them, satisfy a condition;
* `Act.Traces` : an act satisfies such a condition wherever it starts.  The rules are those of
  `Act.Ensures`, except that what follows an act adds its calls behind those of the act.
-/

namespace Keyring

namespace Service

variable {W α β : Type}

/-- A call, and the error that it was refused with, if it was. -/
structure Step where
  call : Call
  refusal : Option Error
  deriving DecidableEq

/-- A call that gave a result, as a step. -/
def Call.ended (call : Call) (r : Except Error α) : Step where
  call := call
  refusal :=
    match r with
    | .ok _ => none
    | .error e => some e

/-- Whether a call may change what is kept: it stores a container or a configuration. -/
def Call.writes : Call → Bool
  | .store .. | .updateConfiguration .. => true
  | .contains _ | .load .. | .decrypt _ | .encrypt _ => false

/-- Whether a call stores a container. -/
def Call.stores : Call → Bool
  | .store .. => true
  | _ => false

theorem Call.writes_of_stores {call : Call} (h : call.stores = true) : call.writes = true := by
  cases call with
  | store => rfl
  | _ => cases h

/-- A world with the calls made on it, in order. -/
structure Traced (W : Type) where
  world : W
  steps : List Step

namespace Traced

/-- The world that is called on. -/
def inner : Focus (Traced W) W := ⟨world, fun world t => { t with world }⟩

/-- A session in which calls were written down. -/
def session (s : Session W) (steps : List Step) : Session (Traced W) :=
  { s with world := ⟨s.world, steps⟩ }

/-- Makes a call and writes down how it ended. -/
def make (call : Call) (act : Act W α) : Act (Traced W) α := fun s =>
  let (r, t) := Act.within inner act s
  (r, { t with world := { t.world with steps := t.world.steps ++ [call.ended r] } })

end Traced

/-- Collaborators that write down every call and how it ended. -/
def Collaborators.traced (c : Collaborators W) : Collaborators (Traced W) where
  backend :=
    { contains := fun path => Traced.make (.contains path) (c.backend.contains path)
      load := fun path password => Traced.make (.load path password) (c.backend.load path password)
      store := fun container path password =>
        Traced.make (.store path password container.aliases)
          (c.backend.store container path password) }
  cipher :=
    { decrypt := fun secret => Traced.make (.decrypt secret) (c.cipher.decrypt secret)
      encrypt := fun secret => Traced.make (.encrypt secret) (c.cipher.encrypt secret) }
  updateConfiguration serviceId properties :=
    Traced.make (.updateConfiguration serviceId properties)
      (c.updateConfiguration serviceId properties)

theorem Collaborators.alike_traced (c : Collaborators W) : c.traced.Alike Traced.world c where
  contains _ _ := rfl
  load _ _ _ := rfl
  store _ _ _ _ := rfl
  decrypt _ _ := rfl
  encrypt _ _ := rfl
  updateConfiguration _ _ _ := rfl

/-- **Writing calls down changes nothing**: the run on traced collaborators is the run on the
collaborators themselves, with the calls that it made. -/
theorem Command.run_traced {c : Collaborators W} {command : Command} {st st' : State}
    {s t : Session W} {r : Except Error Answer} (hrun : command.run c st s = ((r, st'), t)) :
    ∃ steps, command.run c.traced st (Traced.session s []) = ((r, st'), Traced.session t steps) := by
  have halike := Command.alike_run c.alike_traced command st (Traced.session s [])
  rw [show (Traced.session s []).map Traced.world = s from rfl, hrun] at halike
  rcases htraced : command.run c.traced st (Traced.session s []) with ⟨x, u⟩
  rw [htraced] at halike
  obtain ⟨rfl, rfl⟩ := Prod.mk.inj halike
  exact ⟨u.world.steps, rfl⟩

/-! ### The calls of an act -/

/-- Between two sessions calls were made that, with the result `r`, satisfy `post`. -/
def Made (s : Session (Traced W)) (post : Except Error α → List Step → Prop) (r : Except Error α)
    (t : Session (Traced W)) : Prop :=
  ∃ steps, t.world.steps = s.world.steps ++ steps ∧ post r steps

namespace Made

variable {s t u : Session (Traced W)} {r : Except Error α}
  {post post' : Except Error α → List Step → Prop}

theorem imp (h : Made s post r t) (himp : ∀ steps, post r steps → post' r steps) :
    Made s post' r t := by
  obtain ⟨steps, ht, hsteps⟩ := h
  exact ⟨steps, ht, himp steps hsteps⟩

theorem of_continues (h : Act.Continues s t) (hpost : post r []) : Made s post r t :=
  ⟨[], by rw [h.world, List.append_nil], hpost⟩

/-- Calls behind calls. -/
theorem after {steps : List Step} (hs : t.world.steps = s.world.steps ++ steps)
    (h : Made t (fun r new => post r (steps ++ new)) r u) : Made s post r u := by
  obtain ⟨new, hu, hnew⟩ := h
  exact ⟨steps ++ new, by rw [hu, hs, List.append_assoc], hnew⟩

end Made

end Service

namespace Act

open Service

variable {W α β : Type}

/-- The result of an act and the calls that it makes satisfy `post`. -/
def Traces (act : Act (Traced W) α) (post : Except Error α → List Step → Prop) : Prop :=
  ∀ s, act.Ensures s (Made s post)

namespace Traces

variable {p post : Except Error α → List Step → Prop} {q : Except Error β → List Step → Prop}

theorem imp {act : Act (Traced W) α} (h : act.Traces p) (himp : ∀ r steps, p r steps → post r steps) :
    act.Traces post := fun s =>
  (h s).imp fun r _ hr => hr.imp (himp r)

theorem make (call : Call) (act : Act W α) :
    (Traced.make call act).Traces fun r steps => steps = [call.ended r] := fun _ =>
  ⟨_, rfl, rfl⟩

theorem pure {a : α} (h : post (.ok a) []) : (Pure.pure a : Act (Traced W) α).Traces post := fun s =>
  .of_continues (.refl s) h

theorem throw {e : Error} (h : post (.error e) []) :
    (MonadExcept.throw e : Act (Traced W) α).Traces post := fun s =>
  .of_continues (.refl s) h

theorem of_quiet {act : Act (Traced W) α} (h : act.Quiet) (hpost : ∀ r, post r []) :
    act.Traces post := fun s =>
  (h s).imp fun r _ ht => .of_continues ht (hpost r)

theorem report {level : Level} {message : String} {fields : List (String × String)}
    {post : Except Error Unit → List Step → Prop} (h : post (.ok ()) []) :
    (Act.report level message fields : Act (Traced W) Unit).Traces post := fun _ =>
  Ensures.report fun _ ht => .of_continues ht h

theorem bind {act : Act (Traced W) α} {f : α → Act (Traced W) β} (h : act.Traces p)
    (hok : ∀ a steps, p (.ok a) steps → (f a).Traces fun r new => q r (steps ++ new))
    (herr : ∀ e steps, p (.error e) steps → q (.error e) steps) : Traces (act >>= f) q := by
  refine fun s => .bind (h s) (fun a t ht => ?_) fun e _ ⟨steps, ht, hsteps⟩ =>
    ⟨steps, ht, herr e steps hsteps⟩
  obtain ⟨steps, ht, hsteps⟩ := ht
  exact (hok a steps hsteps t).imp fun _ _ hu => .after ht hu

/-- A report, which is no call and does not fail, and then an act. -/
theorem bind_report {level : Level} {message : String} {fields : List (String × String)}
    {f : Unit → Act (Traced W) β} (h : (f ()).Traces q) :
    (Act.report level message fields >>= f).Traces q :=
  bind (p := fun r steps => r = .ok () ∧ steps = []) (report ⟨rfl, rfl⟩)
    (fun _ _ hr => hr.2 ▸ h) fun _ _ hr => by cases hr.1

theorem tryCatch {act : Act (Traced W) α} {handle : Error → Act (Traced W) α} (h : act.Traces p)
    (hok : ∀ a steps, p (.ok a) steps → post (.ok a) steps)
    (herr : ∀ e steps, p (.error e) steps →
      (handle e).Traces fun r new => post r (steps ++ new)) :
    Traces (MonadExcept.tryCatch act handle) post := by
  refine fun s => .tryCatch (h s) (fun a t ht => ht.imp (hok a)) fun e t ht => ?_
  obtain ⟨steps, ht, hsteps⟩ := ht
  exact (herr e steps hsteps t).imp fun _ _ hu => .after ht hu

theorem mapError {act : Act (Traced W) α} {f : Error → Error} (h : act.Traces p)
    (hok : ∀ a steps, p (.ok a) steps → post (.ok a) steps)
    (herr : ∀ e steps, p (.error e) steps → post (.error (f e)) steps) :
    (Act.mapError f act).Traces post := fun s =>
  .mapError (h s) (fun a _ ht => ht.imp (hok a)) fun e _ ⟨steps, ht, hsteps⟩ =>
    ⟨steps, ht, herr e steps hsteps⟩

end Traces

end Act

end Keyring
