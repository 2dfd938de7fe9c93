import Keyring.Session

/-!
# What acts ensure

`Act.Ensures act s post` : run from the session `s`, the act `act` ends in a result and a session
that satisfy `post`.  There is one rule for each way to build an act, so that a statement about an act
is proved along its text: `Ensures.bind` leaves what follows a success and what follows a failure,
`Ensures.tryCatch` what the handler does.

`Act.Quiet act` : the act leaves the world alone and only adds to the journal.  That holds of
whatever draws random bytes, reports or fails, and of everything built from these.

`Act.Returns act p` : whatever the act returns, from whatever session, satisfies `p`.  This is the form
for statements about values, where the collaborators may do anything to the world.

`Act.Blames act p` : whatever the act fails with, from whatever session, satisfies `p`.

`Act.Ends act s p q` : the form of `Act.Ensures` for statements that tell success from failure but
not one error from another.

`Act.Succeeds act p` : from whatever session, the act does not fail, and what it returns satisfies `p`.
-/

namespace Keyring

variable {W α β : Type}

/-- A chain of checks succeeds when its first one does and the rest does on what that gave. -/
theorem bind_eq_ok_iff {ε : Type} {x : Except ε α} {f : α → Except ε β} {b : β} :
    x >>= f = .ok b ↔ ∃ a, x = .ok a ∧ f a = .ok b := by
  constructor
  · intro h
    cases x with
    | error e => cases h
    | ok a => exact ⟨a, rfl, h⟩
  · rintro ⟨a, rfl, h⟩
    exact h

/-- A chain of checks fails when its first one does, or the rest does on what that gave. -/
theorem bind_eq_error_iff {ε : Type} {x : Except ε α} {f : α → Except ε β} {e : ε} :
    x >>= f = .error e ↔ x = .error e ∨ ∃ a, x = .ok a ∧ f a = .error e := by
  cases x with
  | error e' => simp [bind, Except.bind]
  | ok a => simp [bind, Except.bind]

theorem mapError_ok {ε ε' : Type} (f : ε → ε') (a : α) :
    (Except.ok a : Except ε α).mapError f = .ok a :=
  rfl

namespace Act

/-- Run from `s`, an act ends in a result and a session that satisfy `post`. -/
def Ensures (act : Act W α) (s : Session W) (post : Except Error α → Session W → Prop) : Prop :=
  post (act s).1 (act s).2

theorem bind_apply (act : Act W α) (f : α → Act W β) (s : Session W) :
    (act >>= f) s = match act s with
      | (.ok a, t) => f a t
      | (.error e, t) => (.error e, t) := by
  change ExceptT.bindCont f (act s).1 (act s).2 = _
  rcases act s with ⟨_ | _, t⟩ <;> rfl

theorem tryCatch_apply (act : Act W α) (handle : Error → Act W α) (s : Session W) :
    (tryCatch act handle : Act W α) s = match act s with
      | (.ok a, t) => (.ok a, t)
      | (.error e, t) => handle e t := by
  rcases h : act s with ⟨_ | _, t⟩ <;>
    simp only [tryCatch, tryCatchThe, MonadExceptOf.tryCatch, ExceptT.tryCatch, ExceptT.mk, bind,
      StateT.bind, h]
  rfl

theorem liftM_apply (x : Except Error α) (s : Session W) : (liftM x : Act W α) s = (x, s) := by
  cases x <;> rfl

/-- Going through steps that only check is a check. -/
theorem foldlM_liftM_apply (f : β → α → Except Error β) (xs : List α) (b : β) (s : Session W) :
    (xs.foldlM (fun b a => (liftM (f b a) : Act W β)) b) s = (xs.foldlM f b, s) := by
  induction xs generalizing b with
  | nil => rfl
  | cons x xs ih =>
    rw [List.foldlM_cons, List.foldlM_cons, bind_apply, liftM_apply]
    cases f b x with
    | error e => rfl
    | ok b' => exact ih b'

theorem onWorld_apply (f : W → Except Error α × W) (s : Session W) :
    (Act.onWorld f) s = ((f s.world).1, { s with world := (f s.world).2 }) := by
  have hget : (get : Act W (Session W)) s = (.ok s, s) := rfl
  rw [Act.onWorld, bind_apply, hget]
  dsimp only
  rcases f s.world with ⟨_ | _, w⟩ <;> rfl

theorem look_apply (f : W → α) (s : Session W) : Act.look f s = (.ok (f s.world), s) := rfl

/-- A session that differs from an earlier one in the random bytes used up and the events added. -/
structure Continues (s t : Session W) : Prop where
  world : t.world = s.world
  journal : s.journal <+: t.journal

theorem Continues.refl (s : Session W) : Continues s s := ⟨rfl, List.prefix_refl _⟩

theorem Continues.trans {s t u : Session W} (h : Continues s t) (h' : Continues t u) :
    Continues s u :=
  ⟨h'.world.trans h.world, h.journal.trans h'.journal⟩

namespace Ensures

variable {s : Session W} {p post : Except Error α → Session W → Prop}
  {q : Except Error β → Session W → Prop}

theorem imp {act : Act W α} (h : act.Ensures s p) (hp : ∀ r t, p r t → post r t) :
    act.Ensures s post :=
  hp _ _ h

theorem of_forall {act : Act W α} (h : ∀ r t, post r t) : act.Ensures s post := h _ _

theorem pure {a : α} (h : post (.ok a) s) : Ensures (Pure.pure a) s post := h

theorem throw {e : Error} (h : post (.error e) s) : Ensures (MonadExcept.throw e) s post := h

theorem lift {x : Except Error α} (h : post x s) : Ensures (liftM x) s post := by
  rw [Ensures, liftM_apply]
  exact h

theorem bind {act : Act W α} {f : α → Act W β} (h : act.Ensures s p)
    (hok : ∀ a t, p (.ok a) t → (f a).Ensures t q) (herr : ∀ e t, p (.error e) t → q (.error e) t) :
    Ensures (act >>= f) s q := by
  rw [Ensures, bind_apply]
  rw [Ensures] at h
  rcases hr : act s with ⟨e | a, t⟩ <;> rw [hr] at h
  · exact herr e t h
  · exact hok a t h

theorem tryCatch {act : Act W α} {handle : Error → Act W α} (h : act.Ensures s p)
    (hok : ∀ a t, p (.ok a) t → post (.ok a) t)
    (herr : ∀ e t, p (.error e) t → (handle e).Ensures t post) :
    Ensures (MonadExcept.tryCatch act handle) s post := by
  rw [Ensures, tryCatch_apply]
  rw [Ensures] at h
  rcases hr : act s with ⟨e | a, t⟩ <;> rw [hr] at h
  · exact herr e t h
  · exact hok a t h

theorem mapError {act : Act W α} {f : Error → Error} (h : act.Ensures s p)
    (hok : ∀ a t, p (.ok a) t → post (.ok a) t)
    (herr : ∀ e t, p (.error e) t → post (.error (f e)) t) : (Act.mapError f act).Ensures s post :=
  tryCatch h hok fun e t he => .throw (herr e t he)

theorem report {post : Except Error Unit → Session W → Prop} {level : Level} {message : String}
    {fields : List (String × String)} (h : ∀ t, Continues s t → post (.ok ()) t) :
    (Act.report level message fields).Ensures s post :=
  h _ ⟨rfl, List.prefix_append _ _⟩

/-- A fold goes through all steps, or stops at the first one that fails. -/
theorem foldlM {f : β → α → Act W β} {p : α → Prop} {q : α → Error → Prop}
    (h : ∀ b a s, (f b a).Ensures s fun r _ =>
      match r with
      | .ok _ => p a
      | .error e => q a e) (xs : List α) (b : β) (s : Session W) :
    (xs.foldlM f b).Ensures s fun r _ =>
      match r with
      | .ok _ => ∀ x ∈ xs, p x
      | .error e => ∃ before x after, xs = before ++ x :: after ∧ (∀ y ∈ before, p y) ∧
          q x e := by
  induction xs generalizing b s with
  | nil => exact fun x hx => by cases hx
  | cons x xs ih =>
    rw [List.foldlM_cons]
    refine bind (h b x s) (fun b' t hx => (ih b' t).imp fun r _ hr => ?_) fun e _ hx =>
      ⟨[], x, xs, rfl, fun y hy => (List.not_mem_nil hy).elim, hx⟩
    cases r with
    | ok _ => exact List.forall_mem_cons.2 ⟨hx, hr⟩
    | error e =>
      obtain ⟨before, y, after, rfl, hbefore, hy⟩ := hr
      exact ⟨x :: before, y, after, rfl, List.forall_mem_cons.2 ⟨hx, hbefore⟩, hy⟩

end Ensures

/-! ### Acts that leave the world alone -/

/-- An act that leaves the world alone and only adds to the journal. -/
def Quiet (act : Act W α) : Prop := ∀ s, act.Ensures s fun _ t => Continues s t

namespace Quiet

theorem pure (a : α) : Quiet (Pure.pure a : Act W α) := fun s => .refl s

theorem throw (e : Error) : Quiet (MonadExcept.throw e : Act W α) := fun s => .refl s

theorem lift (x : Except Error α) : Quiet (liftM x : Act W α) := fun s => Ensures.lift (.refl s)

theorem now : Quiet (Act.now : Act W Nat) := fun s => .refl s

theorem draw (count : Nat) : Quiet (Act.draw count : Act W Bytes) := fun _ =>
  ⟨rfl, List.prefix_refl _⟩

theorem report (level : Level) (message : String) (fields : List (String × String)) :
    Quiet (Act.report level message fields : Act W Unit) := fun _ => Ensures.report fun _ ht => ht

theorem bind {act : Act W α} {f : α → Act W β} (h : act.Quiet) (hf : ∀ a, (f a).Quiet) :
    Quiet (act >>= f) := fun s =>
  Ensures.bind (h s) (fun a t ht => (hf a t).imp fun _ _ hu => ht.trans hu) fun _ _ ht => ht

theorem foldlM {f : β → α → Act W β} (h : ∀ b a, (f b a).Quiet) (b : β) (xs : List α) :
    Quiet (xs.foldlM f b) := by
  induction xs generalizing b with
  | nil => exact .pure b
  | cons x xs ih =>
    rw [List.foldlM_cons]
    exact (h b x).bind ih

end Quiet

/-! ### What acts return -/

/-- Whatever the act returns satisfies `p`. -/
def Returns (act : Act W α) (p : α → Prop) : Prop :=
  ∀ s, act.Ensures s fun r _ => ∀ a, r = .ok a → p a

namespace Returns

variable {p p' : α → Prop} {q : β → Prop}

theorem imp {act : Act W α} (h : act.Returns p) (hp : ∀ a, p a → p' a) : act.Returns p' := fun s =>
  (h s).imp fun _ _ hr a ha => hp a (hr a ha)

theorem of_forall {act : Act W α} (h : ∀ a, p a) : act.Returns p := fun _ a _ => h a

theorem pure {a : α} (h : p a) : Returns (Pure.pure a : Act W α) p := by
  intro s b hb
  obtain rfl := Except.ok.inj hb
  exact h

theorem throw (e : Error) : Returns (MonadExcept.throw e : Act W α) p := fun _ a ha => by cases ha

theorem lift {x : Except Error α} (h : ∀ a, x = .ok a → p a) : Returns (liftM x : Act W α) p :=
  fun _ => Ensures.lift h

theorem bind {act : Act W α} {f : α → Act W β} (h : act.Returns p)
    (hf : ∀ a, p a → (f a).Returns q) : Returns (act >>= f) q := fun s =>
  Ensures.bind (h s) (fun a t ha => hf a (ha a rfl) t) fun e t _ b hb => by cases hb

/-- What an act returns may not matter to the act behind it. -/
theorem bind_any {act : Act W α} {f : α → Act W β} (hf : ∀ a, (f a).Returns q) :
    Returns (act >>= f) q :=
  bind (p := fun _ => True) (of_forall fun _ => trivial) fun a _ => hf a

theorem tryCatch {act : Act W α} {handle : Error → Act W α} (h : act.Returns p)
    (hhandle : ∀ e, (handle e).Returns p) : Returns (MonadExcept.tryCatch act handle) p := fun s =>
  Ensures.tryCatch (h s) (fun _ _ ha => ha) fun e t _ => hhandle e t

theorem mapError {act : Act W α} {f : Error → Error} (h : act.Returns p) :
    (Act.mapError f act).Returns p :=
  tryCatch h fun _ => throw _

end Returns

/-! ### What acts fail with -/

/-- Whatever error the act fails with satisfies `p`. -/
def Blames (act : Act W α) (p : Error → Prop) : Prop :=
  ∀ s, act.Ensures s fun r _ => ∀ e, r = .error e → p e

namespace Blames

variable {p q : Error → Prop}

theorem imp {act : Act W α} (h : act.Blames p) (hp : ∀ e, p e → q e) : act.Blames q := fun s =>
  (h s).imp fun _ _ hr e he => hp e (hr e he)

theorem pure (a : α) : Blames (Pure.pure a : Act W α) p := fun _ e he => by cases he

theorem throw {e : Error} (h : p e) : Blames (MonadExcept.throw e : Act W α) p := by
  intro s e' he'
  obtain rfl := Except.error.inj he'
  exact h

theorem lift {x : Except Error α} (h : ∀ e, x = .error e → p e) : Blames (liftM x : Act W α) p :=
  fun _ => Ensures.lift h

theorem draw (count : Nat) : Blames (Act.draw count : Act W Bytes) p := fun _ e he => by cases he

theorem bind {act : Act W α} {f : α → Act W β} (h : act.Blames p) (hf : ∀ a, (f a).Blames p) :
    Blames (act >>= f) p := fun s =>
  Ensures.bind (h s) (fun a t _ => hf a t) fun e _ he e' he' => by
    obtain rfl := Except.error.inj he'
    exact he e rfl

end Blames

/-! ### Two ways to end -/

/-- Run from `s`, an act ends in `p` if it succeeds and in `q` if it fails, whatever the error. -/
def Ends (act : Act W α) (s : Session W) (p : α → Session W → Prop) (q : Session W → Prop) : Prop :=
  act.Ensures s fun r t =>
    match r with
    | .ok a => p a t
    | .error _ => q t

namespace Ends

variable {s : Session W} {p p' : α → Session W → Prop} {q q' : Session W → Prop}

theorem imp {act : Act W α} (h : act.Ends s p q) (hok : ∀ a t, p a t → p' a t)
    (herr : ∀ t, q t → q' t) : act.Ends s p' q' :=
  Ensures.imp h fun r t hr => match r with
    | .ok a => hok a t hr
    | .error _ => herr t hr

/-- Two things that hold at the end. -/
theorem and {act : Act W α} {R : Session W → Prop} (h : act.Ends s p q)
    (h' : act.Ensures s fun _ t => R t) : act.Ends s (fun a t => p a t ∧ R t) fun t => q t ∧ R t := by
  rw [Ends, Ensures] at h ⊢
  rcases hr : act s with ⟨_ | _, t⟩ <;> rw [Ensures, hr] at h' <;> rw [hr] at h <;> exact ⟨h, h'⟩

/-- Nothing is said of how the act ends. -/
theorem of_forall (act : Act W α) : act.Ends s (fun _ _ => True) fun _ => True :=
  Ensures.of_forall fun r _ => by cases r <;> trivial

theorem of_ok {act : Act W α} (h : act.Ends s p q) {a : α} (ha : (act s).1 = .ok a) :
    p a (act s).2 := by
  rw [Ends, Ensures, ha] at h
  exact h

theorem of_error {act : Act W α} (h : act.Ends s p q) {e : Error} (he : (act s).1 = .error e) :
    q (act s).2 := by
  rw [Ends, Ensures, he] at h
  exact h

/-- What holds of the session however the act ends. -/
theorem session {act : Act W α} {R : Session W → Prop} (h : act.Ends s (fun _ t => R t) R) :
    R (act s).2 := by
  rcases hr : (act s).1 with e | a
  · exact h.of_error hr
  · exact h.of_ok hr

theorem of_quiet {act : Act W α} (h : act.Quiet) (hok : ∀ a t, Continues s t → p a t)
    (herr : ∀ t, Continues s t → q t) : act.Ends s p q :=
  Ensures.imp (h s) fun r t hr => match r with
    | .ok a => hok a t hr
    | .error _ => herr t hr

theorem of_returns {act : Act W α} {p : α → Prop} (h : act.Returns p) :
    act.Ends s (fun a _ => p a) fun _ => True :=
  Ensures.imp (h s) fun r _ hr => match r with
    | .ok a => hr a rfl
    | .error _ => trivial

theorem pure {a : α} (h : p a s) : Ends (Pure.pure a) s p q := h

theorem throw {e : Error} (h : q s) : Ends (MonadExcept.throw e) s p q := h

theorem bind {act : Act W α} {f : α → Act W β} {p' : β → Session W → Prop}
    (h : act.Ends s p q) (hok : ∀ a t, p a t → (f a).Ends t p' q') (herr : ∀ t, q t → q' t) :
    Ends (act >>= f) s p' q' :=
  Ensures.bind h (fun a t ha => hok a t ha) fun _ t ht => herr t ht

/-- A look at the world, and then an act. -/
theorem bind_look {f : W → β} {g : β → Act W α} (h : (g (f s.world)).Ends s p q) :
    Ends (Act.look f >>= g) s p q :=
  h

theorem tryCatch {act : Act W α} {handle : Error → Act W α} (h : act.Ends s p q)
    (hok : ∀ a t, p a t → p' a t) (herr : ∀ e t, q t → (handle e).Ends t p' q') :
    Ends (MonadExcept.tryCatch act handle) s p' q' :=
  Ensures.tryCatch h (fun a t ha => hok a t ha) fun e t ht => herr e t ht

theorem mapError {act : Act W α} {f : Error → Error} (h : act.Ends s p q) :
    (Act.mapError f act).Ends s p q :=
  tryCatch h (fun _ _ ha => ha) fun _ _ ht => .throw ht

theorem report {p : Unit → Session W → Prop} {level : Level} {message : String}
    {fields : List (String × String)} (h : ∀ t, Continues s t → p () t) :
    (Act.report level message fields).Ends s p q :=
  Ensures.report h

/-- A report, which does not fail, and then an act. -/
theorem bind_report {level : Level} {message : String} {fields : List (String × String)}
    {f : Unit → Act W α} (h : ∀ t, Continues s t → (f ()).Ends t p q) :
    Ends (Act.report level message fields >>= f) s p q :=
  bind (q := fun _ => False) (report h) (fun _ _ ht => ht) fun _ hf => hf.elim

end Ends

/-! ### Acts that do not fail -/

/-- From whatever session, the act succeeds, and what it returns satisfies `p`. -/
def Succeeds (act : Act W α) (p : α → Prop) : Prop :=
  ∀ s, act.Ends s (fun a _ => p a) fun _ => False

namespace Succeeds

variable {p : α → Prop} {q : β → Prop}

theorem ensures {act : Act W α} (h : act.Succeeds p) {s : Session W}
    {post : Except Error α → Session W → Prop} (hp : ∀ a t, p a → post (.ok a) t) :
    act.Ensures s post :=
  Ensures.imp (h s) fun r t hr => match r with
    | .ok a => hp a t hr
    | .error _ => hr.elim

theorem pure {a : α} (h : p a) : Succeeds (Pure.pure a : Act W α) p := fun _ => h

theorem now : Succeeds (Act.now : Act W Nat) fun _ => True := fun _ => trivial

theorem draw (count : Nat) :
    Succeeds (Act.draw count : Act W Bytes) fun bytes => bytes.length = count :=
  fun s => s.entropy.length_next count

theorem report (level : Level) (message : String) (fields : List (String × String)) :
    Succeeds (Act.report level message fields : Act W Unit) fun _ => True := fun _ => trivial

theorem bind {act : Act W α} {f : α → Act W β} (h : act.Succeeds p)
    (hf : ∀ a, p a → (f a).Succeeds q) : Succeeds (act >>= f) q := fun s =>
  .bind (h s) (fun a t ha => hf a ha t) fun _ hf => hf.elim

/-- What does not fail needs no handler. -/
theorem tryCatch {act : Act W α} (h : act.Succeeds p) (handle : Error → Act W α) :
    Succeeds (MonadExcept.tryCatch act handle) p := fun s =>
  .tryCatch (h s) (fun _ _ ha => ha) fun _ _ hf => hf.elim

theorem mapError {act : Act W α} {f : Error → Error} (h : act.Succeeds p) :
    (Act.mapError f act).Succeeds p :=
  h.tryCatch _

end Succeeds

end Act

end Keyring
