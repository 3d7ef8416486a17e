import Mathlib.Tactic

/-!
# Text between separators

Paths are read part by part, and settings item by item, by one recursion on the characters. It is
the split of a list at a separator (`eq_splitOn`), hence it undoes what was put together with
separators in between (`split_intercalate`).
-/

namespace SwitchPlatform.Text

section Split

variable {sep : Char} {split : List Char → List (List Char)} (hnil : split [] = [[]])
  (hcons : ∀ c cs, split (c :: cs) =
    if c = sep then [] :: split cs
    else
      match split cs with
      | [] => [[c]]
      | p :: ps => (c :: p) :: ps)

include hnil hcons

theorem eq_splitOn (cs : List Char) : split cs = cs.splitOn sep := by
  induction cs with
  | nil => rw [hnil, List.splitOn_nil]
  | cons c cs ih =>
    have hne : cs.splitOn sep ≠ [] := List.splitOn_ne_nil _ _
    rw [hcons, List.splitOn_cons_eq_if_modifyHead, ih]
    by_cases h : c = sep
    · simp [h]
    · rw [if_neg h, if_neg (by simpa using h)]
      cases hcs : cs.splitOn sep with
      | nil => exact absurd hcs hne
      | cons p ps => rfl

/-- Texts without the separator are found again. -/
theorem split_intercalate {between : String} (hbetween : between.toList = [sep])
    {texts : List String} (hne : texts ≠ []) (h : ∀ s ∈ texts, sep ∉ s.toList) :
    split (between.intercalate texts).toList = texts.map String.toList := by
  have hsep : ∀ cs ∈ texts.map String.toList, sep ∉ cs := by
    intro cs hcs
    obtain ⟨s, hs, rfl⟩ := List.mem_map.1 hcs
    exact h s hs
  rw [eq_splitOn hnil hcons, String.toList_intercalate, hbetween,
    List.splitOn_intercalate sep hsep (by simpa using hne)]

end Split

end SwitchPlatform.Text
