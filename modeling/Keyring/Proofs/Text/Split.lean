import Keyring.Text.Split
import Mathlib

/-!
# Where texts are split

`splitFirst?` splits a text at its first separator, if it has one (`splitFirst?_eq_some_iff`,
`splitFirst?_eq_none_iff`).  There is one such place, so texts that are put together around a separator
fall into the same parts again (`sides_unique`, and `sides_unique_last` for the last separator).
-/

namespace Keyring.Text

theorem splitFirst?_eq_some_iff {separator : Char} {cs before behind : List Char} :
    splitFirst? separator cs = some (before, behind) ↔
      cs = before ++ separator :: behind ∧ separator ∉ before := by
  induction cs generalizing before with
  | nil => simp [splitFirst?]
  | cons c cs ih =>
    rw [splitFirst?]
    by_cases hc : c = separator
    · rw [if_pos hc, hc]
      cases before with
      | nil => simp
      | cons b before => simp +contextual
    · rw [if_neg hc, Option.map_eq_some_iff]
      cases before with
      | nil => simp [hc]
      | cons b before =>
        constructor
        · rintro ⟨⟨before', behind'⟩, hrest, heq⟩
          cases heq
          obtain ⟨rfl, hmem⟩ := ih.1 hrest
          exact ⟨rfl, List.not_mem_cons_of_ne_of_not_mem (Ne.symm hc) hmem⟩
        · rintro ⟨heq, hmem⟩
          cases heq
          exact ⟨(before, behind), ih.2 ⟨rfl, List.not_mem_of_not_mem_cons hmem⟩, rfl⟩

theorem splitFirst?_eq_none_iff {separator : Char} {cs : List Char} :
    splitFirst? separator cs = none ↔ separator ∉ cs := by
  constructor
  · intro h hmem
    obtain ⟨before, behind, hcs, hbefore⟩ := List.eq_append_cons_of_mem hmem
    rw [splitFirst?_eq_some_iff.2 ⟨hcs, hbefore⟩] at h
    cases h
  · intro h
    cases hfound : splitFirst? separator cs with
    | none => rfl
    | some found =>
      obtain ⟨hcs, -⟩ := splitFirst?_eq_some_iff.1 hfound
      exact absurd (by simp [hcs]) h

/-- There is one first separator. -/
theorem sides_unique {separator : Char} {left right left' right' : List Char}
    (h : left ++ separator :: right = left' ++ separator :: right') (hleft : separator ∉ left)
    (hleft' : separator ∉ left') : left = left' ∧ right = right' := by
  have hsplit : splitFirst? separator (left ++ separator :: right) = some (left, right) :=
    splitFirst?_eq_some_iff.2 ⟨rfl, hleft⟩
  rw [h, splitFirst?_eq_some_iff.2 ⟨rfl, hleft'⟩] at hsplit
  obtain ⟨rfl, rfl⟩ := Prod.mk.inj (Option.some.inj hsplit)
  exact ⟨rfl, rfl⟩

/-- There is one last separator. -/
theorem sides_unique_last {separator : Char} {left right left' right' : List Char}
    (h : left ++ separator :: right = left' ++ separator :: right') (hright : separator ∉ right)
    (hright' : separator ∉ right') : left = left' ∧ right = right' := by
  have hreverse := congrArg List.reverse h
  simp only [List.reverse_append, List.reverse_cons, List.append_assoc, List.singleton_append]
    at hreverse
  obtain ⟨hr, hl⟩ := sides_unique hreverse (by simpa using hright) (by simpa using hright')
  exact ⟨List.reverse_inj.1 hl, List.reverse_inj.1 hr⟩

end Keyring.Text
