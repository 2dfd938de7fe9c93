import Keyring.Proofs.Json.Scalars
import Keyring.Json.Document

/-!
# Documents read back as they were written

`Reader.ReadsBack r text a` : `text` is a written form of `a` for the reader `r`, whatever follows it in
a list or an object.

* `readsBack_value_natural`, `readsBack_value_list` : numbers and lists of them are read back as values,
  and so are `readsBack_value_negative`, `readsBack_value_bool` and `readsBack_value_string`;
* `MembersRead` : what a reader of members makes of written ones, one after the other, and
  `reads_spacedMembers` : it makes just that of a whole object, whatever blanks are in front of its keys
  and of its end.  `reads_members` is the case without any, and `Writer.prettyObject_eq` puts a member
  on each line into this form.
-/

namespace Keyring.Json

namespace Writer

theorem separated_cons (separator item : Bytes) (items : List Bytes) :
    separated separator (item :: items) = item ++ items.flatMap (separator ++ ·) := by
  induction items generalizing item with
  | nil => simp [separated]
  | cons next items ih => rw [separated, ih next, List.flatMap_cons, List.append_assoc] <;> simp

/-- Items that are not empty take up a byte each. -/
theorem length_le_flatMap (separator : Bytes) {items : List Bytes}
    (h : ∀ item ∈ items, item ≠ []) : items.length ≤ (items.flatMap (separator ++ ·)).length := by
  induction items with
  | nil => simp
  | cons item items ih =>
    obtain ⟨hitem, hitems⟩ := List.forall_mem_cons.1 h
    have hpos := List.length_pos_iff.2 hitem
    have hrest := ih hitems
    simp only [List.flatMap_cons, List.length_append, List.length_cons]
    omega

theorem length_le_separated (separator : Bytes) {items : List Bytes}
    (h : ∀ item ∈ items, item ≠ []) : items.length ≤ (separated separator items).length := by
  cases items with
  | nil => simp
  | cons item items =>
    obtain ⟨hitem, hitems⟩ := List.forall_mem_cons.1 h
    have hpos := List.length_pos_iff.2 hitem
    have hrest := length_le_flatMap separator hitems
    rw [separated_cons, List.length_append, List.length_cons]
    omega

/-- A member as it is written. -/
def memberText (m : String × Bytes) : Bytes := string m.1 ++ 0x3a :: m.2

/-- What stands in front of a key on a line of its own. -/
def margin : Bytes := [0x0a, 0x20, 0x20]

/-- A member on each line: the members with blanks in front of keys, of values and of the end. -/
theorem prettyObject_eq (members : List (String × Bytes)) :
    ∃ ending, (∀ b ∈ ending, Reader.isSpace b = true) ∧
      prettyObject members = 0x7b :: (separated [0x2c]
        (members.map fun m => margin ++ memberText (m.1, 0x20 :: m.2)) ++ ending) ++ [0x7d] := by
  cases members with
  | nil => exact ⟨[], by simp, rfl⟩
  | cons m members =>
    refine ⟨[0x0a], by simp [Reader.isSpace], ?_⟩
    simp [prettyObject, separated_cons, margin, memberText, List.flatMap_map]

end Writer

namespace Reader

open Writer (memberText)

variable {α σ : Type}

/-! ### Lists -/

/-- Neither a blank nor the end of a list comes first. -/
def startsItem : Bytes → Bool
  | [] => false
  | b :: _ => !isSpace b && b != 0x5d

theorem startsItem_append {text : Bytes} (h : startsItem text = true) (rest : Bytes) :
    startsItem (text ++ rest) = true := by
  cases text with
  | nil => cases h
  | cons b text => exact h

/-- `text` is a written form of `a` for `r`: it starts like an item of a list, and is read back in
front of everything that cannot continue a number. -/
structure ReadsBack (r : Reader α) (text : Bytes) (a : α) : Prop where
  starts : startsItem text = true
  reads (rest : Bytes) (h : stops rest = true) : Reads r text a rest

theorem ReadsBack.ne_nil {r : Reader α} {text : Bytes} {a : α} (h : ReadsBack r text a) :
    text ≠ [] := by
  rintro rfl
  cases h.starts

theorem reads_hasItem_end (first : Bool) (rest : Bytes) :
    Reads (hasItem first) [] false (0x5d :: rest) :=
  .peekByte rfl (by decide) (.pure false _)

theorem reads_hasItem_first {rest : Bytes} (h : startsItem rest = true) :
    Reads (hasItem true) [] true rest := by
  cases rest with
  | nil => cases h
  | cons b rest =>
    simp only [startsItem, Bool.and_eq_true, Bool.not_eq_true', bne_iff_ne, ne_eq] at h
    refine .peekByte rfl h.1 ?_
    split
    · rename_i hb
      cases hb
    · rename_i hb
      exact absurd (Option.some.inj hb) h.2
    · exact .pure true _

theorem reads_hasItem_later {rest : Bytes} (h : startsItem rest = true) :
    Reads (hasItem false) [0x2c] true rest := by
  cases rest with
  | nil => cases h
  | cons b rest =>
    simp only [startsItem, Bool.and_eq_true, Bool.not_eq_true', bne_iff_ne, ne_eq] at h
    refine .peekByte rfl (by decide) (.bind_skip (.peekByte rfl h.1 ?_))
    split
    · rename_i hb
      exact absurd (Option.some.inj hb) h.2
    · exact .pure true _
    · rename_i hb
      cases hb

theorem reads_endList (rest : Bytes) : Reads endList [0x5d] () rest :=
  .peekByte rfl (by decide) (.skip 0x5d rest)

/-- Behind the first one, items are read back together with the comma before each. -/
theorem reads_items_later {item : Reader α} {xs : List (Bytes × α)}
    (h : ∀ x ∈ xs, ReadsBack item x.1 x.2) (rest : Bytes) {fuel : Nat} (hfuel : xs.length < fuel) :
    Reads (items item fuel false) ((xs.map Prod.fst).flatMap ([0x2c] ++ ·)) (xs.map Prod.snd)
      (0x5d :: rest) := by
  induction xs generalizing fuel with
  | nil =>
    obtain ⟨fuel, rfl⟩ : ∃ k, fuel = k + 1 := ⟨fuel - 1, by omega⟩
    exact .bind_ahead (reads_hasItem_end false rest) (.pure [] _)
  | cons x xs ih =>
    obtain ⟨fuel, rfl⟩ : ∃ k, fuel = k + 1 := ⟨fuel - 1, by simp at hfuel; omega⟩
    obtain ⟨hx, hxs⟩ := List.forall_mem_cons.1 h
    have hlater := @ih hxs fuel (by simpa using hfuel)
    -- what follows an item is a comma or the end of the list
    have hstops : stops ((xs.map Prod.fst).flatMap ([0x2c] ++ ·) ++ 0x5d :: rest) = true := by
      cases xs <;> rfl
    rw [List.map_cons, List.flatMap_cons, List.append_assoc]
    refine .bind (reads_hasItem_later ?_) (.bind (hx.reads _ hstops) (.bind_pure hlater))
    rw [List.append_assoc]
    exact startsItem_append hx.starts _

/-- The items of a written list are read back up to its end. -/
theorem reads_items {item : Reader α} {xs : List (Bytes × α)}
    (h : ∀ x ∈ xs, ReadsBack item x.1 x.2) (rest : Bytes) {fuel : Nat} (hfuel : xs.length < fuel) :
    Reads (items item fuel true) (Writer.separated [0x2c] (xs.map Prod.fst)) (xs.map Prod.snd)
      (0x5d :: rest) := by
  obtain ⟨fuel, rfl⟩ : ∃ k, fuel = k + 1 := ⟨fuel - 1, by omega⟩
  cases xs with
  | nil => exact .bind_ahead (reads_hasItem_end true rest) (.pure [] _)
  | cons x xs =>
    obtain ⟨hx, hxs⟩ := List.forall_mem_cons.1 h
    have hlater := reads_items_later hxs rest (show xs.length < fuel by simpa using hfuel)
    have hstops : stops ((xs.map Prod.fst).flatMap ([0x2c] ++ ·) ++ 0x5d :: rest) = true := by
      cases xs <;> rfl
    rw [List.map_cons, Writer.separated_cons]
    refine .bind_ahead (reads_hasItem_first ?_) (.bind (hx.reads _ hstops) (.bind_pure hlater))
    rw [List.append_assoc]
    exact startsItem_append hx.starts _

/-! ### Values -/

/-- No first byte of a number is a blank or starts anything else. -/
theorem isDigit_facts {b : UInt8} (h : isDigit b = true) :
    isSpace b = false ∧ b ≠ 0x5d ∧ b ≠ 0x6e ∧ b ≠ 0x74 ∧ b ≠ 0x66 ∧ b ≠ 0x2d := by
  have hfacts : ∀ b : UInt8, isDigit b = true →
      isSpace b = false ∧ b ≠ 0x5d ∧ b ≠ 0x6e ∧ b ≠ 0x74 ∧ b ≠ 0x66 ∧ b ≠ 0x2d :=
    Bytes.forall_byte (by decide +kernel)
  exact hfacts b h

/-- A natural number is read back as a value. -/
theorem readsBack_value_natural (depth : Nat) {n : Nat} (hn : n < UInt64.size) :
    ReadsBack (value (depth + 1)) (Writer.natural n) (.number (.natural n)) := by
  obtain ⟨b, bs, hb⟩ := List.exists_cons_of_ne_nil (Writer.natural_ne_nil n)
  have hdigit : isDigit b = true := Writer.isDigit_of_mem_natural (hb ▸ List.mem_cons_self)
  obtain ⟨hspace, hend, hnull, htrue, hfalse, hminus⟩ := isDigit_facts hdigit
  refine ⟨?_, fun rest hrest => ?_⟩
  · simp [hb, startsItem, hspace, hend]
  · refine .peekByte (by rw [hb]; rfl) hspace ?_
    simp only [if_neg hnull, if_neg htrue, if_neg hfalse, if_neg hminus, hdigit, if_true]
    exact .bind_pure (reads_number hn hrest)

/-- A negative number is read back as a value. -/
theorem readsBack_value_negative (depth : Nat) {n : Nat} (hzero : n ≠ 0)
    (hn : n ≤ 0x8000000000000000) :
    ReadsBack (value (depth + 1)) (0x2d :: Writer.natural n) (.number (.negative n)) where
  starts := rfl
  reads _ hrest :=
    .peekByte rfl (by decide) (.bind_skip (.bind_pure (reads_negative hzero hn hrest)))

theorem reads_word (text rest : Bytes) : Reads (word text) text () rest := by
  induction text with
  | nil => exact .pure () rest
  | cons b text ih =>
    refine .bind_next ?_
    simp only [if_true]
    exact ih

/-- A truth value is read back. -/
theorem readsBack_value_bool (depth : Nat) (b : Bool) :
    ReadsBack (value (depth + 1)) (Writer.ascii (if b then "true" else "false")) (.bool b) where
  starts := by cases b <;> decide
  reads rest _ := by
    cases b with
    | true =>
      have htext : Writer.ascii "true" = 0x74 :: [0x72, 0x75, 0x65] := by decide
      rw [if_pos rfl, htext]
      exact .peekByte rfl (by decide) (.bind_skip (.bind_last (reads_word _ rest) (.pure _ _)))
    | false =>
      have htext : Writer.ascii "false" = 0x66 :: [0x61, 0x6c, 0x73, 0x65] := by decide
      rw [if_neg Bool.false_ne_true, htext]
      exact .peekByte rfl (by decide) (.bind_skip (.bind_last (reads_word _ rest) (.pure _ _)))

/-- A string is read back as a value. -/
theorem readsBack_value_string (depth : Nat) (s : String) :
    ReadsBack (value (depth + 1)) (Writer.string s) (.string s) where
  starts := rfl
  reads rest _ := .peekByte rfl (by decide) (.bind_skip (.bind_pure (reads_string s rest)))

/-- A value may have blanks in front of it. -/
theorem reads_value_spaces {depth : Nat} {blanks text rest : Bytes} {v : Value}
    (hblanks : ∀ b ∈ blanks, isSpace b = true) (h : Reads (value (depth + 1)) text v rest) :
    Reads (value (depth + 1)) (blanks ++ text) v rest :=
  .spaces hblanks h

/-- A list of values is read back if each of them is. -/
theorem readsBack_value_list {depth : Nat} (hdepth : depth ≠ 0) {xs : List (Bytes × Value)}
    (h : ∀ x ∈ xs, ReadsBack (value depth) x.1 x.2) :
    ReadsBack (value (depth + 1)) (Writer.list (xs.map Prod.fst)) (.list (xs.map Prod.snd)) where
  starts := rfl
  reads rest _ := by
    refine .peekByte rfl (by decide) ?_
    simp +decide only [Writer.list, List.cons_append, if_false, if_true, if_neg hdepth]
    have hfuel : xs.length <
        (Writer.separated [0x2c] (xs.map Prod.fst) ++ ([0x5d] ++ rest)).length + 1 := by
      have hne : ∀ item ∈ xs.map Prod.fst, item ≠ [] := by
        intro item hitem
        obtain ⟨x, hx, rfl⟩ := List.mem_map.1 hitem
        exact (h x hx).ne_nil
      have hle := Writer.length_le_separated [0x2c] hne
      simp only [List.length_map] at hle
      simp only [List.length_append]
      omega
    exact .closing (.bind_skip (.fuel (.bind_pure (reads_items h _ hfuel)))) (reads_endList rest)

/-! ### Objects -/

theorem reads_endObject (rest : Bytes) : Reads endObject [0x7d] () rest :=
  .peekByte rfl (by decide) (.skip 0x7d rest)

theorem reads_colon (rest : Bytes) : Reads colon [0x3a] () rest :=
  .peekByte rfl (by decide) (.skip 0x3a rest)

section

variable {margin ending : Bytes}

/-- The end of an object, behind blanks. -/
theorem reads_hasMember_end (hending : ∀ b ∈ ending, isSpace b = true) (first : Bool)
    (rest : Bytes) : Reads (hasMember first) ending false (0x7d :: rest) := by
  rw [← List.append_nil ending]
  exact .spaces hending (.peekByte rfl (by decide) (.pure false _))

/-- The opening quote of the first key, behind blanks. -/
theorem reads_hasMember_first (hmargin : ∀ b ∈ margin, isSpace b = true) (rest : Bytes) :
    Reads (hasMember true) (margin ++ [0x22]) true rest :=
  .spaces hmargin (.peekByte rfl (by decide) (.bind_skip (.pure true _)))

/-- The comma and the opening quote of a later key, with blanks between them. -/
theorem reads_hasMember_later (hmargin : ∀ b ∈ margin, isSpace b = true) (rest : Bytes) :
    Reads (hasMember false) (0x2c :: (margin ++ [0x22])) true rest :=
  .peekByte rfl (by decide) (.bind_skip (.spaces hmargin
    (.peekByte rfl (by decide) (.bind_skip (.pure true _)))))

end

/-- Read one after the other behind their keys, the values of the members take one state to another. -/
inductive MembersRead (member : σ → String → Reader σ) : σ → List (String × Bytes) → σ → Prop where
  | nil (state : σ) : MembersRead member state [] state
  | cons {state state' state'' : σ} {key : String} {text : Bytes} {later : List (String × Bytes)}
      (h : ∀ rest, stops rest = true → Reads (member state key) (0x3a :: text) state' rest)
      (hlater : MembersRead member state' later state'') :
      MembersRead member state ((key, text) :: later) state''

/-- A step for each member makes up the reading of all of them. -/
theorem MembersRead.foldl {β : Type} {member : σ → String → Reader σ} {w : β → String × Bytes}
    {g : σ → β → σ} {xs : List β} (state : σ)
    (h : ∀ state, ∀ x ∈ xs, ∀ rest, stops rest = true →
      Reads (member state (w x).1) (0x3a :: (w x).2) (g state x) rest) :
    MembersRead member state (xs.map w) (xs.foldl g state) := by
  induction xs generalizing state with
  | nil => exact .nil state
  | cons x xs ih =>
    refine .cons (h state x List.mem_cons_self) (ih (g state x) fun state y hy => ?_)
    exact h state y (List.mem_cons_of_mem x hy)

/-- A member behind its opening quote, and then the later ones. -/
theorem reads_members_cons {member : σ → String → Reader σ} {state state' state'' : σ}
    {first : Bool} {opening escaped text later rest : Bytes} {key : String} {fuel : Nat}
    (hopening : ∀ rest, Reads (hasMember first) opening true rest)
    (hkey : Unescapes escaped (Bytes.ofString key))
    (hmember : Reads (member state key) text state' (later ++ rest))
    (hlater : Reads (members member fuel false state') later state'' rest) :
    Reads (members member (fuel + 1) first state)
      (opening ++ (escaped ++ [0x22] ++ (text ++ later))) state'' rest :=
  .bind (hopening _) (.bind (hkey.reads_string _) (.bind hmember hlater))

section

variable {member : σ → String → Reader σ} {margin ending : Bytes} {ms : List (String × Bytes)}
  {state state' : σ}

/-- What follows a value: blanks and the end, or the comma in front of the next member. -/
theorem stops_members (hending : ∀ b ∈ ending, isSpace b = true) (ms : List (String × Bytes))
    (rest : Bytes) :
    stops ((ms.map fun m => margin ++ memberText m).flatMap ([0x2c] ++ ·) ++ ending ++
      0x7d :: rest) = true := by
  cases ms with
  | nil => exact stops_append hending rfl
  | cons m ms => rfl

/-- Behind the first one, members are read back together with the comma before each. -/
theorem reads_members_later (hmargin : ∀ b ∈ margin, isSpace b = true)
    (hending : ∀ b ∈ ending, isSpace b = true) (h : MembersRead member state ms state')
    (rest : Bytes) {fuel : Nat} (hfuel : ms.length < fuel) :
    Reads (members member fuel false state)
      ((ms.map fun m => margin ++ memberText m).flatMap ([0x2c] ++ ·) ++ ending) state'
      (0x7d :: rest) := by
  induction h generalizing fuel with
  | nil state =>
    obtain ⟨fuel, rfl⟩ : ∃ k, fuel = k + 1 := ⟨fuel - 1, by omega⟩
    exact .bind_last (reads_hasMember_end hending false rest) (.pure state _)
  | @cons state state' state'' key text later h hlater ih =>
    obtain ⟨fuel, rfl⟩ : ∃ k, fuel = k + 1 := ⟨fuel - 1, by simp at hfuel; omega⟩
    have hmore := @ih fuel (by simpa using hfuel)
    have hread := reads_members_cons (reads_hasMember_later hmargin) (unescapes_flatMap _)
      (h _ (stops_members hending later rest)) hmore
    simpa only [List.map_cons, List.flatMap_cons, memberText, Writer.string, List.cons_append,
      List.nil_append, List.append_assoc] using hread

/-- The members of a written object are read back up to its end. -/
theorem reads_spacedMembers (hmargin : ∀ b ∈ margin, isSpace b = true)
    (hending : ∀ b ∈ ending, isSpace b = true) (h : MembersRead member state ms state')
    (rest : Bytes) {fuel : Nat} (hfuel : ms.length < fuel) :
    Reads (members member fuel true state)
      (Writer.separated [0x2c] (ms.map fun m => margin ++ memberText m) ++ ending) state'
      (0x7d :: rest) := by
  obtain ⟨fuel, rfl⟩ : ∃ k, fuel = k + 1 := ⟨fuel - 1, by omega⟩
  cases h with
  | nil => exact .bind_last (reads_hasMember_end hending true rest) (.pure state _)
  | @cons _ state₁ _ key text later h hlater =>
    have hmore := reads_members_later hmargin hending hlater rest
      (show later.length < fuel by simpa using hfuel)
    have hread := reads_members_cons (reads_hasMember_first hmargin) (unescapes_flatMap _)
      (h _ (stops_members hending later rest)) hmore
    rw [List.map_cons, Writer.separated_cons]
    simpa only [memberText, Writer.string, List.cons_append, List.nil_append, List.append_assoc]
      using hread

theorem reads_members (h : MembersRead member state ms state') (rest : Bytes) {fuel : Nat}
    (hfuel : ms.length < fuel) :
    Reads (members member fuel true state) (Writer.separated [0x2c] (ms.map memberText)) state'
      (0x7d :: rest) := by
  have hblank : ∀ b ∈ ([] : Bytes), isSpace b = true := by simp
  have hread := reads_spacedMembers hblank hblank h rest hfuel
  rwa [List.append_nil] at hread

/-- A text gives fuel for the members written in it. -/
theorem length_lt_fuel (margin : Bytes) (ms : List (String × Bytes)) (rest : Bytes) :
    ms.length <
      (Writer.separated [0x2c] (ms.map fun m => margin ++ memberText m) ++ rest).length + 1 := by
  have hne : ∀ item ∈ ms.map fun m => margin ++ memberText m, item ≠ [] := by
    intro item hitem
    obtain ⟨m, -, rfl⟩ := List.mem_map.1 hitem
    simp [memberText]
  have hle := Writer.length_le_separated [0x2c] hne
  simp only [List.length_map] at hle
  simp only [List.length_append]
  omega

variable {f : σ → Reader α} {a : α} {rest : Bytes}

/-- Members with as much fuel as the text gives. -/
theorem Reads.members (h : MembersRead member state ms state') :
    Reads (do Reader.members member (← Reader.fuel) true state)
      (Writer.separated [0x2c] (ms.map memberText)) state' (0x7d :: rest) :=
  .fuel (reads_members h rest (length_lt_fuel [] ms _))

/-- Members with as much fuel as the text gives, and then a reader that gets what they make. -/
theorem Reads.bind_members (h : MembersRead member state ms state')
    (hf : Reads (f state') [] a (0x7d :: rest)) :
    Reads (do f (← Reader.members member (← Reader.fuel) true state))
      (Writer.separated [0x2c] (ms.map memberText)) a (0x7d :: rest) :=
  .fuel (.bind_last (reads_members h rest (length_lt_fuel [] ms _)) hf)

/-- Members with as much fuel as the text gives, with blanks in front of the keys and of the end. -/
theorem Reads.spacedMembers (hmargin : ∀ b ∈ margin, isSpace b = true)
    (hending : ∀ b ∈ ending, isSpace b = true) (h : MembersRead member state ms state') :
    Reads (do Reader.members member (← Reader.fuel) true state)
      (Writer.separated [0x2c] (ms.map fun m => margin ++ memberText m) ++ ending) state'
      (0x7d :: rest) := by
  refine .fuel (reads_spacedMembers hmargin hending h rest ?_)
  rw [List.append_assoc]
  exact length_lt_fuel margin ms _

end

/-- An object is read back if its content is. -/
theorem reads_nested {depth : Nat} {body : Nat → Reader α} {finish : Reader Unit} {opening : UInt8}
    {text ending rest : Bytes} {a : α} (h : Reads (body (depth + 1)) text a (ending ++ rest))
    (hfinish : Reads finish ending () rest) :
    Reads (nested (depth + 2) body finish) (opening :: text ++ ending) a rest :=
  .closing (.bind_skip h) hfinish

end Reader

end Keyring.Json
