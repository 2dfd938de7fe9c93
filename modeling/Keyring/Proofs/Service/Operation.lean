import Keyring.Proofs.Act
import Keyring.Service.Operations

/-!
# What operations ensure

`Operation.Ensures op st s post` : called in the state `st` and the session `s`, the operation `op`
ends in a result, a state and a session that satisfy `post`.  The rules are those of acts
(`Act.Ensures`) and one for each way to use the state.

`Operation.Returns op st s post` is the form for statements about answers and states, which hold in
every session and say nothing of failures.

Two classes of operations are closed under the ways to build them: those that leave the state alone
and take the session along a relation (`Operation.ReadOnly`, and `Operation.Along` for acts), and
those that fail only with the state as it was (`Operation.Atomic`).  Something that only looks may
stand before anything atomic (`Operation.ReadOnly.bind_atomic`); what stands behind a change of the
state has to succeed, or to undo the change.
-/

namespace Keyring.Service

variable {W α β : Type}

/-- What is known of the store that is served is known of whatever is served. -/
theorem State.forall_loaded {store : LoadedStore} {p : LoadedStore → Prop} (h : p store) :
    ∀ store', State.loaded store = .loaded store' → p store' := by
  intro store' hst
  obtain rfl := State.loaded.inj hst
  exact h

namespace Operation

/-- Called in `st` and `s`, an operation ends in a result, a state and a session that satisfy
`post`. -/
def Ensures (op : Operation W α) (st : State) (s : Session W)
    (post : Except Error α → State → Session W → Prop) : Prop :=
  post (op st s).1.1 (op st s).1.2 (op st s).2

theorem tryCatch_apply (op : Operation W α) (handle : Error → Operation W α) (st : State)
    (s : Session W) :
    (tryCatch op handle : Operation W α) st s = match op st s with
      | ((.ok a, st'), t) => ((.ok a, st'), t)
      | ((.error e, st'), t) => handle e st' t := by
  rcases h : op st s with ⟨⟨_ | _, st'⟩, t⟩ <;>
    simp only [tryCatch, tryCatchThe, MonadExceptOf.tryCatch, ExceptT.tryCatch, ExceptT.mk, bind,
      StateT.bind, h]
  rfl

theorem perform_apply (act : Act W α) (st : State) (s : Session W) :
    Service.perform act st s = (((act s).1, st), (act s).2) :=
  rfl

theorem liftM_apply (x : Except Error α) (st : State) (s : Session W) :
    (liftM x : Operation W α) st s = ((x, st), s) := by
  cases x <;> rfl

namespace Ensures

variable {st : State} {s : Session W} {p post : Except Error α → State → Session W → Prop}
  {q : Except Error β → State → Session W → Prop}

theorem imp {op : Operation W α} (h : op.Ensures st s p)
    (hp : ∀ r st' t, p r st' t → post r st' t) : op.Ensures st s post :=
  hp _ _ _ h

theorem pure {a : α} (h : post (.ok a) st s) : Ensures (Pure.pure a) st s post := h

theorem lift {x : Except Error α} (h : post x st s) : Ensures (liftM x) st s post := by
  rw [Ensures, liftM_apply]
  exact h

theorem perform {act : Act W α} (h : act.Ensures s fun r t => post r st t) :
    (Service.perform act).Ensures st s post := h

theorem setState {new : State} {post : Except Error Unit → State → Session W → Prop}
    (h : post (.ok ()) new s) : (Service.setState new).Ensures st s post := h

theorem bind {op : Operation W α} {f : α → Operation W β} (h : op.Ensures st s p)
    (hok : ∀ a st' t, p (.ok a) st' t → (f a).Ensures st' t q)
    (herr : ∀ e st' t, p (.error e) st' t → q (.error e) st' t) : Ensures (op >>= f) st s q := by
  rw [Ensures, Edit.bind_apply]
  rw [Ensures] at h
  rcases hr : op st s with ⟨⟨e | a, st'⟩, t⟩ <;> rw [hr] at h
  · exact herr e st' t h
  · exact hok a st' t h

theorem tryCatch {op : Operation W α} {handle : Error → Operation W α} (h : op.Ensures st s p)
    (hok : ∀ a st' t, p (.ok a) st' t → post (.ok a) st' t)
    (herr : ∀ e st' t, p (.error e) st' t → (handle e).Ensures st' t post) :
    Ensures (MonadExcept.tryCatch op handle) st s post := by
  rw [Ensures, tryCatch_apply]
  rw [Ensures] at h
  rcases hr : op st s with ⟨⟨e | a, st'⟩, t⟩ <;> rw [hr] at h
  · exact herr e st' t h
  · exact hok a st' t h

/-- Changing the answer. -/
theorem bind_pure {op : Operation W α} {f : α → β}
    (h : op.Ensures st s fun r st' t => q (r.map f) st' t) :
    Ensures (op >>= fun a => Pure.pure (f a)) st s q :=
  bind h (fun _ _ _ hq => hq) fun _ _ _ hq => hq

/-- Changing the answer does not matter to what a success ends in. -/
theorem bind_pure_of_ok {op : Operation W α} {f : α → β} {post : State → Session W → Prop}
    (h : op.Ensures st s fun r st' t => ∀ a, r = .ok a → post st' t) :
    Ensures (op >>= fun a => Pure.pure (f a)) st s fun r st' t => ∀ b, r = .ok b → post st' t :=
  bind_pure (h.imp fun r st' t hr b hb => by
    cases r with
    | error e => cases hb
    | ok a => exact hr a rfl)

/-- An act, and then an operation in the same state. -/
theorem bind_perform {act : Act W α} {f : α → Operation W β} {p : Except Error α → Session W → Prop}
    (h : act.Ensures s p) (hok : ∀ a t, p (.ok a) t → (f a).Ensures st t q)
    (herr : ∀ e t, p (.error e) t → q (.error e) st t) :
    Ensures (Service.perform act >>= f) st s q := by
  refine bind (p := fun r st' t => p r t ∧ st' = st) (perform (h.imp fun r t hr => ⟨hr, rfl⟩)) ?_ ?_
  · rintro a _ t ⟨hr, rfl⟩
    exact hok a t hr
  · rintro e _ t ⟨hr, rfl⟩
    exact herr e t hr

/-- A report, which does not fail, and then an operation in the same state. -/
theorem bind_report {level : Level} {message : String} {fields : List (String × String)}
    {f : Unit → Operation W β} (h : ∀ t, Act.Continues s t → (f ()).Ensures st t q) :
    Ensures (Service.perform (Act.report level message fields) >>= f) st s q :=
  h _ (Act.Quiet.report level message fields s)

/-- A check, and then an operation in the same state. -/
theorem bind_lift {x : Except Error α} {f : α → Operation W β}
    (hok : ∀ a, x = .ok a → (f a).Ensures st s q) (herr : ∀ e, x = .error e → q (.error e) st s) :
    Ensures (liftM x >>= f) st s q := by
  rw [Ensures, Edit.bind_apply, liftM_apply]
  cases x with
  | error e => exact herr e rfl
  | ok a => exact hok a rfl

/-- An argument that has to be there, and then an operation that gets it. -/
theorem bind_required {argument : Option α} {text : String} {f : α → Operation W β}
    (hok : ∀ a, argument = some a → (f a).Ensures st s q)
    (herr : argument = none → q (.error (.invalidArgument text)) st s) :
    Ensures (Service.required argument text >>= f) st s q := by
  cases argument with
  | none => exact herr rfl
  | some a => exact hok a rfl

/-- An argument that is there, and then an operation that gets it. -/
theorem bind_given {a : α} {text : String} {f : α → Operation W β} (h : (f a).Ensures st s q) :
    Ensures (Service.required (some a) text >>= f) st s q := h

/-- A look at the state, and then an operation that gets it. -/
theorem bind_state {f : State → Operation W β} (h : (f st).Ensures st s q) :
    Ensures (Service.state >>= f) st s q := h

/-- A look at what is served, where something is, and then an operation that gets it. -/
theorem bind_loaded {store : LoadedStore} {f : LoadedStore → Operation W β}
    (h : (f store).Ensures (.loaded store) s q) :
    Ensures (Service.loadedStore >>= f) (.loaded store) s q := h

/-- What is served, and then an operation that gets it. -/
theorem bind_loadedStore {f : LoadedStore → Operation W β}
    (hok : ∀ store, st = .loaded store → (f store).Ensures st s q)
    (herr : (∀ store, st ≠ .loaded store) → q (.error .notInitialized) st s) :
    Ensures (Service.loadedStore >>= f) st s q := by
  cases st with
  | loaded store => exact hok store rfl
  | uninitialized => exact herr fun _ h => by cases h
  | closed => exact herr fun _ h => by cases h

end Ensures

/-! ### What operations return -/

/-- Called in `st` and `s`, an operation that succeeds ends in an answer and a state that satisfy
`post`. -/
def Returns (op : Operation W α) (st : State) (s : Session W) (post : α → State → Prop) : Prop :=
  op.Ensures st s fun r st' _ => ∀ a, r = .ok a → post a st'

namespace Returns

variable {st : State} {s : Session W} {post : β → State → Prop}

theorem throw (e : Error) : Returns (MonadExcept.throw e : Operation W β) st s post :=
  fun a ha => by cases ha

theorem bind_lift {x : Except Error α} {f : α → Operation W β}
    (h : ∀ a, x = .ok a → (f a).Returns st s post) : Returns (liftM x >>= f) st s post :=
  Ensures.bind_lift h fun _ _ b hb => by cases hb

theorem bind_required {argument : Option α} {text : String} {f : α → Operation W β}
    (h : ∀ a, argument = some a → (f a).Returns st s post) :
    Returns (Service.required argument text >>= f) st s post :=
  Ensures.bind_required h fun _ b hb => by cases hb

theorem bind_state {f : State → Operation W β} (h : (f st).Returns st s post) :
    Returns (Service.state >>= f) st s post := h

theorem bind_loadedStore {f : LoadedStore → Operation W β}
    (h : ∀ store, st = .loaded store → (f store).Returns st s post) :
    Returns (Service.loadedStore >>= f) st s post :=
  Ensures.bind_loadedStore h fun _ b hb => by cases hb

theorem bind_perform {act : Act W α} {f : α → Operation W β} {p : α → Prop} (h : act.Returns p)
    (hf : ∀ a t, p a → (f a).Returns st t post) : Returns (Service.perform act >>= f) st s post :=
  Ensures.bind_perform (h s) (fun a t ha => hf a t (ha a rfl)) fun _ _ _ b hb => by cases hb

theorem bind_pure {op : Operation W α} {f : α → β}
    (h : op.Returns st s fun a st' => post (f a) st') :
    Returns (op >>= fun a => Pure.pure (f a)) st s post :=
  Ensures.bind h (fun a st' t ha b hb => Except.ok.inj hb ▸ ha a rfl) fun _ _ _ _ b hb => by cases hb

end Returns

/-! ### Operations that only look -/

/-- A relation along which a session can be taken in any number of steps, drawing and reporting among
them. -/
class Course (R : Session W → Session W → Prop) : Prop where
  of_continues {s t : Session W} (h : Act.Continues s t) : R s t
  trans {s t u : Session W} (h : R s t) (h' : R t u) : R s u

theorem Course.refl (R : Session W → Session W → Prop) [Course R] (s : Session W) : R s s :=
  of_continues (.refl s)

/-- The course of which nothing is known. -/
def Anyhow (_ _ : Session W) : Prop := True

instance : Course (Anyhow : Session W → Session W → Prop) := ⟨fun _ => trivial, fun _ _ => trivial⟩

/-- An act that takes the session along a course, whether it succeeds or fails. -/
def Along (R : Session W → Session W → Prop) (act : Act W α) : Prop :=
  ∀ s, act.Ensures s fun _ t => R s t

namespace Along

variable {R : Session W → Session W → Prop} [Course R]

theorem of_quiet {act : Act W α} (h : act.Quiet) : Along R act := fun s =>
  (h s).imp fun _ _ ht => Course.of_continues ht

theorem bind {act : Act W α} {f : α → Act W β} (h : Along R act) (hf : ∀ a, Along R (f a)) :
    Along R (act >>= f) := fun s =>
  .bind (h s) (fun a t ht => (hf a t).imp fun _ _ hu => Course.trans ht hu) fun _ _ ht => ht

theorem tryCatch {act : Act W α} {handle : Error → Act W α} (h : Along R act)
    (hhandle : ∀ e, Along R (handle e)) : Along R (MonadExcept.tryCatch act handle) := fun s =>
  .tryCatch (h s) (fun _ _ ht => ht) fun e t ht =>
    (hhandle e t).imp fun _ _ hu => Course.trans ht hu

omit [Course R] in
theorem mapError {act : Act W α} {f : Error → Error} (h : Along R act) :
    Along R (Act.mapError f act) := fun s =>
  .mapError (h s) (fun _ _ ht => ht) fun _ _ ht => ht

omit [Course R] in
/-- An act that does not tell one error from another either. -/
theorem of_ends {act : Act W α} (h : ∀ s, act.Ends s (fun _ t => R s t) fun t => R s t) :
    Along R act := fun s =>
  Act.Ensures.imp (h s) fun r _ ht => match r with
    | .ok _ => ht
    | .error _ => ht

omit [Course R] in
theorem ends {act : Act W α} (h : Along R act) (s : Session W) :
    act.Ends s (fun _ t => R s t) fun t => R s t :=
  Act.Ensures.imp (h s) fun r _ ht => match r with
    | .ok _ => ht
    | .error _ => ht

end Along

/-- An operation that leaves the state alone and takes the session along a course. -/
def ReadOnly (R : Session W → Session W → Prop) (op : Operation W α) : Prop :=
  ∀ st s, op.Ensures st s fun _ st' t => st' = st ∧ R s t

/-- An operation that fails only with the state as it was. -/
def Atomic (op : Operation W α) : Prop :=
  ∀ st s, op.Ensures st s fun r st' _ => ∀ e, r = .error e → st' = st

namespace ReadOnly

variable {R : Session W → Session W → Prop} [Course R]

theorem pure (a : α) : ReadOnly R (Pure.pure a : Operation W α) := fun _ s => ⟨rfl, Course.refl R s⟩

theorem throw (e : Error) : ReadOnly R (MonadExcept.throw e : Operation W α) := fun _ s =>
  ⟨rfl, Course.refl R s⟩

theorem lift (x : Except Error α) : ReadOnly R (liftM x : Operation W α) := fun _ s =>
  Ensures.lift ⟨rfl, Course.refl R s⟩

theorem state : (state : Operation W State).ReadOnly R := fun _ s => ⟨rfl, Course.refl R s⟩

theorem loadedStore : (loadedStore : Operation W LoadedStore).ReadOnly R := by
  intro st s
  cases st <;> exact ⟨rfl, Course.refl R s⟩

theorem required (argument : Option α) (text : String) :
    (required argument text : Operation W α).ReadOnly R := by
  cases argument with
  | none => exact throw _
  | some a => exact pure a

omit [Course R] in
theorem perform {act : Act W α} (h : ∀ s, act.Ensures s fun _ t => R s t) :
    (perform act).ReadOnly R := fun _ s => ⟨rfl, h s⟩

theorem quiet {act : Act W α} (h : act.Quiet) : (Service.perform act).ReadOnly R :=
  perform fun s => (h s).imp fun _ _ ht => Course.of_continues ht

theorem bind {op : Operation W α} {f : α → Operation W β} (h : op.ReadOnly R)
    (hf : ∀ a, (f a).ReadOnly R) : ReadOnly R (op >>= f) := fun st s =>
  Ensures.bind (h st s)
    (fun a st' t ⟨hst, ht⟩ => hst ▸ (hf a st' t).imp fun _ _ _ ⟨hst', hu⟩ => ⟨hst', Course.trans ht hu⟩)
    fun _ _ _ h => h

theorem map {op : Operation W α} (f : α → β) (h : op.ReadOnly R) : ReadOnly R (f <$> op) :=
  h.bind fun a => pure (f a)

omit [Course R] in
theorem atomic {op : Operation W α} (h : op.ReadOnly R) : op.Atomic := fun st s =>
  (h st s).imp fun _ _ _ hst _ _ => hst.1

/-- Looking before an atomic operation leaves it atomic. -/
theorem bind_atomic {op : Operation W α} {f : α → Operation W β} (h : op.ReadOnly Anyhow)
    (hf : ∀ a, (f a).Atomic) : Atomic (op >>= f) := fun st s =>
  Ensures.bind (h st s) (fun a st' t hst => hst.1 ▸ hf a st' t) fun _ _ _ hst _ _ => hst.1

/-- Looking before an operation does not matter to what that returns. -/
theorem bind_returns {op : Operation W α} {f : α → Operation W β} {st : State} {s : Session W}
    {post : β → State → Prop} (h : op.ReadOnly Anyhow) (hf : ∀ a t, (f a).Returns st t post) :
    Returns (op >>= f) st s post :=
  Ensures.bind (h st s) (fun a _ t hst => hst.1 ▸ hf a t) fun _ _ _ _ b hb => by cases hb

end ReadOnly

/-- Nothing follows an error. -/
theorem Atomic.throw_bind (e : Error) (f : α → Operation W β) :
    Atomic ((MonadExcept.throw e : Operation W α) >>= f) := fun _ _ _ _ => rfl

theorem Atomic.setState (new : State) : (setState new : Operation W Unit).Atomic := by
  intro st s e he
  cases he

/-- An operation stays atomic if only its answer is changed. -/
theorem Atomic.bind_pure {op : Operation W α} (h : op.Atomic) (f : α → β) :
    Atomic (op >>= fun a => Pure.pure (f a)) := by
  intro st s
  refine Ensures.bind_pure ((h st s).imp fun r st' t hst e he => ?_)
  cases r with
  | error e' => exact hst e' rfl
  | ok a => cases he

end Operation

end Keyring.Service
