import Keyring.Proofs.Json.Documents
import Keyring.Proofs.Json.Literals

/-!
# Texts of objects

`ObjectText R ms text` : `text` is an object with the members `ms`, in their order and with all that
are shadowed by later ones under the same key.  It says where blanks, quotes, colons and commas stand;
what the values are written as is left to the relation `R`.

The readers of objects run a loop over members (`Reader.members`) that takes a state from one member to
the next.  `gives_members` and `MembersText.reads_members` say that such a loop reads the texts of
members and nothing else, and ends in the state that the members lead to one after the other;
`gives_object` and `ObjectText.reads_object` say so of whole objects.
-/

namespace Keyring.Json

open Reader

/-- Only blanks, line feeds, carriage returns and tabs. -/
def Blanks (text : Bytes) : Prop := ∀ b ∈ text, isSpace b = true

/-- What stands in front of a key, with the opening quote: a later member follows a comma. -/
inductive OpeningText : Bool → Bytes → Prop where
  | first {blanks : Bytes} (h : Blanks blanks) : OpeningText true (blanks ++ [0x22])
  | later {blanks blanks' : Bytes} (h : Blanks blanks) (h' : Blanks blanks') :
      OpeningText false (blanks ++ 0x2c :: (blanks' ++ [0x22]))

/-- Members from the first one or a later one on, up to the end of the object. -/
inductive MembersText {α : Type} (R : α → Bytes → Prop) :
    Bool → List (String × α) → Bytes → Prop where
  | nil {first : Bool} {blanks : Bytes} (h : Blanks blanks) : MembersText R first [] blanks
  | cons {first : Bool} {opening escaped blanks text later : Bytes} {key : String} {a : α}
      {ms : List (String × α)} (hopening : OpeningText first opening)
      (hkey : Unescapes escaped (Bytes.ofString key)) (hblanks : Blanks blanks) (ha : R a text)
      (hlater : MembersText R false ms later) :
      MembersText R first ((key, a) :: ms)
        (opening ++ (escaped ++ 0x22 :: (blanks ++ 0x3a :: (text ++ later))))

/-- An object from its opening to its closing brace. -/
inductive ObjectText {α : Type} (R : α → Bytes → Prop) (ms : List (String × α)) : Bytes → Prop where
  | mk {text : Bytes} (h : MembersText R true ms text) : ObjectText R ms (0x7b :: (text ++ [0x7d]))

theorem MembersText.length_le {α : Type} {R : α → Bytes → Prop} {first : Bool}
    {ms : List (String × α)} {text : Bytes} (h : MembersText R first ms text) :
    ms.length ≤ text.length := by
  induction h with
  | nil _ => exact Nat.zero_le _
  | cons hopening hkey hblanks ha hlater ih =>
    simp only [List.length_cons, List.length_append]
    omega

namespace Reader

variable {α β σ : Type} {R : α → Bytes → Prop} {f : α → β} {r : Reader β} {step : σ → String × β → σ}

/-- A member behind its key: its value is read by `r` and taken into the state. -/
def member (r : Reader β) (step : σ → String × β → σ) (state : σ) (key : String) : Reader σ := do
  colon
  return step state (key, ← r)

/-! ### What is given -/

theorem gives_colon (text : Bytes) : Gives colon text fun _ rest =>
    ∃ blanks, Blanks blanks ∧ text = blanks ++ 0x3a :: rest := by
  unfold colon
  refine .bind_peekPastSpace fun blanks rest htext hblanks => ?_
  cases rest with
  | nil => exact .failAhead _
  | cons b rest =>
    split
    · rename_i hb
      refine .skip ⟨blanks, hblanks, ?_⟩
      rw [htext, Option.some.inj hb, List.tail_cons]
    · exact .failAhead _
    · exact .failAhead _

theorem gives_endObject (text : Bytes) : Gives endObject (0x7d :: text) fun _ rest => rest = text :=
  (reads_endObject text).gives.imp fun _ _ h => h.2

theorem gives_hasMember (first : Bool) (text : Bytes) : Gives (hasMember first) text fun more rest =>
    match more with
    | true => ∃ opening, OpeningText first opening ∧ text = opening ++ rest
    | false => ∃ rest', rest = 0x7d :: rest' ∧ ∃ blanks, Blanks blanks ∧ text = blanks ++ rest := by
  unfold hasMember
  refine .bind_peekPastSpace fun blanks rest htext hblanks => ?_
  cases rest with
  | nil => exact .failAhead _
  | cons b rest =>
    split
    · exact .failAhead _
    · rename_i hb
      obtain rfl := Option.some.inj hb
      exact .pure ⟨rest, rfl, blanks, hblanks, htext⟩
    rename_i b' _ hb
    obtain rfl : b = b' := Option.some.inj hb
    split
    · rename_i hfirst
      split
      · rename_i hquote
        refine .bind_skip (.pure ⟨blanks ++ [0x22], hfirst ▸ .first hblanks, ?_⟩)
        rw [htext, hquote, List.append_assoc]
        rfl
      · exact .failAhead _
    rename_i hfirst
    split
    · rename_i hcomma
      refine .bind_skip (.bind_peekPastSpace fun blanks' rest' hrest hblanks' => ?_)
      rw [List.tail_cons] at hrest
      cases rest' with
      | nil => exact .failAhead _
      | cons c rest' =>
        split
        · rename_i hquote
          obtain rfl : first = false := by simpa using hfirst
          refine .bind_skip (.pure ⟨_, .later hblanks hblanks', ?_⟩)
          rw [htext, hcomma, hrest, Option.some.inj hquote]
          simp
        · exact .failAhead _
        · exact .failAhead _
        · exact .failAhead _
    · exact .failAhead _

/-- **Members are read only from texts of members**, if values are read only from their texts, and they
take the state with them one after the other. -/
theorem gives_members
    (hr : ∀ text, Gives r text fun b rest => ∀ a, b = f a → ∃ t, text = t ++ rest ∧ R a t)
    (fuel : Nat) (first : Bool) (state : σ) (text : Bytes) :
    Gives (members (member r step) fuel first state) text fun state' rest =>
      ∃ ms rest', state' = ms.foldl step state ∧ rest = 0x7d :: rest' ∧ ∀ as : List (String × α),
        ms = as.map (fun x => (x.1, f x.2)) → ∃ t, text = t ++ rest ∧ MembersText R first as t := by
  -- along the turns of the loop; the members of the later turns are read from the state of this one
  induction fuel generalizing first state text with
  | zero => exact .failAhead _
  | succ fuel ih =>
    unfold members
    refine .bind (gives_hasMember first text) fun more rest hmore => ?_
    cases more with
    | false =>
      obtain ⟨rest', hrest, blanks, hblanks, htext⟩ := hmore
      refine .pure ⟨[], rest', rfl, hrest, fun as has => ?_⟩
      obtain rfl := List.map_eq_nil_iff.1 has.symm
      exact ⟨blanks, htext, .nil hblanks⟩
    | true =>
      obtain ⟨opening, hopening, rfl⟩ := hmore
      refine .bind (gives_string rest) ?_
      rintro key _ ⟨escaped, rfl, hkey⟩
      -- what a member was read from is known only if its value is the image of some `a`
      have hmember : ∀ text, Gives (member r step state key) text fun state' rest =>
          ∃ b blanks, state' = step state (key, b) ∧ Blanks blanks ∧
            ∀ a, b = f a → ∃ t, text = blanks ++ 0x3a :: (t ++ rest) ∧ R a t := by
        intro text
        refine .bind (gives_colon text) ?_
        rintro _ rest ⟨blanks, hblanks, rfl⟩
        refine .bind_pure ((hr rest).imp fun b rest' hb => ?_)
        refine ⟨b, blanks, rfl, hblanks, fun a ha => ?_⟩
        obtain ⟨t, rfl, ht⟩ := hb a ha
        exact ⟨t, rfl, ht⟩
      refine .bind (hmember _) ?_
      rintro _ rest' ⟨b, blanks, rfl, hblanks, hb⟩
      refine (ih false (step state (key, b)) rest').imp ?_
      rintro _ _ ⟨ms, rest, rfl, rfl, hms⟩
      refine ⟨(key, b) :: ms, rest, rfl, rfl, fun as has => ?_⟩
      cases as with
      | nil => cases has
      | cons x as =>
        obtain ⟨hx, hlist⟩ := List.cons.inj has
        obtain ⟨rfl, hbx⟩ := Prod.mk.inj hx
        obtain ⟨t, rfl, ht⟩ := hb x.2 hbx
        obtain ⟨later, rfl, hlater⟩ := hms as hlist
        exact ⟨_, by simp, .cons hopening hkey hblanks ht hlater⟩

/-- **An object is read only from its text**, and made of what the members lead to. -/
theorem gives_object {γ : Type} (step : σ → String × β → σ) (g : σ → γ)
    (hr : ∀ text, Gives r text fun b rest => ∀ a, b = f a → ∃ t, text = t ++ rest ∧ R a t)
    (state : σ) (text : Bytes) :
    Gives (closing (do skip; return g (← members (member r step) (← fuel) true state)) endObject)
      (0x7b :: text) fun c rest =>
        ∃ ms, c = g (ms.foldl step state) ∧ ∀ as : List (String × α),
          ms = as.map (fun x => (x.1, f x.2)) →
            ∃ t, 0x7b :: text = t ++ rest ∧ ObjectText R as t := by
  refine .closing (.bind_skip (.bind_fuel (.bind (gives_members hr _ true state text) ?_)))
    (p := fun c rest => ∃ ms rest', c = g (ms.foldl step state) ∧ rest = 0x7d :: rest' ∧
      ∀ as : List (String × α), ms = as.map (fun x => (x.1, f x.2)) →
        ∃ t, text = t ++ rest ∧ MembersText R true as t) ?_
  · rintro _ rest ⟨ms, rest', rfl, hrest, hms⟩
    exact .pure ⟨ms, rest', rfl, hrest, hms⟩
  · rintro _ _ ⟨ms, rest', rfl, rfl, hms⟩
    refine (gives_endObject rest').imp ?_
    rintro _ _ rfl
    refine ⟨ms, rfl, fun as has => ?_⟩
    obtain ⟨t, rfl, ht⟩ := hms as has
    exact ⟨_, by simp, .mk ht⟩

end Reader

/-! ### What is read -/

section

variable {α β σ : Type} {R : α → Bytes → Prop} {f : α → β} {r : Reader β} {step : σ → String × β → σ}

theorem OpeningText.reads_hasMember {first : Bool} {opening : Bytes} (h : OpeningText first opening)
    (rest : Bytes) : Reads (hasMember first) opening true rest := by
  cases h with
  | first h => exact reads_hasMember_first h rest
  | later h h' => exact .spaces h (reads_hasMember_later h' rest)

/-- What follows a value: the end, or the comma in front of the next member. -/
theorem MembersText.stops_append {ms : List (String × α)} {text : Bytes}
    (h : MembersText R false ms text) (rest : Bytes) : stops (text ++ 0x7d :: rest) = true := by
  cases h with
  | nil h => exact Reader.stops_append h rfl
  | cons hopening =>
    cases hopening with
    | later h _ =>
      simp only [List.append_assoc]
      exact Reader.stops_append h rfl

/-- **Texts of members are read up to the end of the object**, if the texts of values are read. -/
theorem MembersText.reads_members {first : Bool} {as : List (String × α)} {text : Bytes}
    (h : MembersText R first as text)
    (hr : ∀ {a t}, R a t → ∀ rest, stops rest = true → Reads r t (f a) rest) (rest : Bytes)
    {fuel : Nat} (hfuel : as.length < fuel) (state : σ) :
    Reads (members (member r step) fuel first state) text
      ((as.map fun x => (x.1, f x.2)).foldl step state) (0x7d :: rest) := by
  induction h generalizing fuel state with
  | nil hblanks =>
    obtain ⟨fuel, rfl⟩ : ∃ k, fuel = k + 1 := ⟨fuel - 1, by omega⟩
    exact .bind_last (reads_hasMember_end hblanks _ rest) (.pure state _)
  | @cons first opening escaped blanks text later key a as hopening hkey hblanks ha hlater ih =>
    obtain ⟨fuel, rfl⟩ : ∃ k, fuel = k + 1 := ⟨fuel - 1, by simp at hfuel; omega⟩
    have hmore := @ih fuel (by simpa using hfuel) (step state (key, f a))
    -- what follows the value cannot continue a number
    have hvalue := hr ha _ (hlater.stops_append rest)
    have hmember : Reads (member r step state key) (blanks ++ [0x3a] ++ text)
        (step state (key, f a)) (later ++ 0x7d :: rest) :=
      .bind (.spaces hblanks (reads_colon _)) (.bind_pure hvalue)
    have hread := reads_members_cons hopening.reads_hasMember hkey hmember hmore
    simpa only [List.append_assoc, List.cons_append, List.nil_append, List.map_cons,
      List.foldl_cons] using hread

/-- **The text of an object is read**, if the texts of values are read. -/
theorem ObjectText.reads_object {γ : Type} {as : List (String × α)} {text : Bytes}
    (h : ObjectText R as text) (step : σ → String × β → σ) (g : σ → γ)
    (hr : ∀ {a t}, R a t → ∀ rest, stops rest = true → Reads r t (f a) rest) (state : σ)
    (rest : Bytes) :
    Reads (closing (do skip; return g (← members (member r step) (← fuel) true state)) endObject) text
      (g ((as.map fun x => (x.1, f x.2)).foldl step state)) rest := by
  obtain ⟨hms⟩ := h
  rename_i text
  have hfuel : as.length < (text ++ ([0x7d] ++ rest)).length + 1 := by
    have hle := hms.length_le
    simp only [List.length_append]
    omega
  exact .closing (.bind_skip (.fuel (.bind_pure (hms.reads_members hr _ hfuel state))))
    (reads_endObject rest)

end

end Keyring.Json
