/-! Sorting lists by inserting each element in front of the first one that it may precede. -/

namespace SenderPolicy

variable {α : Type}

/-- Puts an element in front of the first one that it may precede. -/
def insertSorted (le : α → α → Bool) (x : α) : List α → List α
  | [] => [x]
  | y :: rest => if le x y then x :: y :: rest else y :: insertSorted le x rest

/-- The elements in ascending order; equal ones keep their order. -/
def sorted (le : α → α → Bool) (xs : List α) : List α :=
  xs.foldr (insertSorted le) []

theorem insertSorted_perm (le : α → α → Bool) (x : α) (xs : List α) :
    (insertSorted le x xs).Perm (x :: xs) := by
  induction xs with
  | nil => exact .refl _
  | cons y rest ih =>
    unfold insertSorted
    split
    · exact .refl _
    · exact (ih.cons y).trans (.swap x y rest)

theorem sorted_perm (le : α → α → Bool) (xs : List α) : (sorted le xs).Perm xs := by
  induction xs with
  | nil => exact .refl _
  | cons x rest ih => exact (insertSorted_perm le x _).trans (ih.cons x)

end SenderPolicy
