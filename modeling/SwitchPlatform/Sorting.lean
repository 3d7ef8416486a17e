/-!
# Sorting by insertion

`sortBy le` arranges a list in the order of a comparison. The result is a permutation of the list
(`sortBy_perm`). The lists of this library are short, so insertion suffices.
-/

namespace SwitchPlatform

universe u

variable {α : Type u} (le : α → α → Bool)

/-- Puts `x` in front of the first element that it does not follow. -/
def insertBy (x : α) : List α → List α
  | [] => [x]
  | y :: ys => if le x y then x :: y :: ys else y :: insertBy x ys

/-- The elements of a list in the order of `le`. -/
def sortBy : List α → List α
  | [] => []
  | x :: xs => insertBy le x (sortBy xs)

theorem insertBy_perm (x : α) (ys : List α) : (insertBy le x ys).Perm (x :: ys) := by
  fun_induction insertBy le x ys with
  | case1 => exact .refl _
  | case2 => exact .refl _
  | case3 y ys _ ih => exact (ih.cons y).trans (.swap x y ys)

theorem sortBy_perm (xs : List α) : (sortBy le xs).Perm xs := by
  induction xs with
  | nil => exact .refl _
  | cons x xs ih => exact (insertBy_perm le x _).trans (ih.cons x)

end SwitchPlatform
