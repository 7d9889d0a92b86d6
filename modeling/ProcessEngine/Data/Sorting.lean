/-!
# Sorting lists

Insertion sort by a comparison. Elements that compare equal keep their order,
the result holds the elements of the list (`sortBy_perm`), and every element
comes before those it may precede (`pairwise_sortBy`).
-/

namespace ProcessEngine

universe u

variable {α : Type u}

/-- Puts an element in front of the first one it may precede. -/
def insertBy (before : α -> α -> Bool) (element : α) : List α -> List α
  | [] => [element]
  | head :: rest =>
    if before element head then element :: head :: rest
    else head :: insertBy before element rest

/-- Sorts by a comparison that tells whether one element may precede another. -/
def sortBy (before : α -> α -> Bool) (list : List α) : List α :=
  list.foldr (insertBy before) []

/-- Sorts by comparing keys. -/
def sortOn {Key : Type u} [Ord Key] (key : α -> Key) (list : List α) : List α :=
  sortBy (fun left right => (compare (key left) (key right)).isLE) list

theorem insertBy_perm (before : α -> α -> Bool) (element : α) (list : List α) :
    (insertBy before element list).Perm (element :: list) := by
  induction list with
  | nil => exact .refl _
  | cons head rest ih =>
    simp only [insertBy]
    split
    · exact .refl _
    · exact (ih.cons head).trans (.swap element head rest)

/-- Sorting neither adds nor drops elements. -/
theorem sortBy_perm (before : α -> α -> Bool) (list : List α) :
    (sortBy before list).Perm list := by
  induction list with
  | nil => exact .refl _
  | cons head rest ih => exact (insertBy_perm before head _).trans (ih.cons head)

theorem pairwise_insertBy {before : α -> α -> Bool}
    (transitive : ∀ a b c, before a b = true -> before b c = true -> before a c = true)
    (total : ∀ a b, before a b = true ∨ before b a = true) (element : α) {list : List α}
    (sorted : list.Pairwise (before · ·)) :
    (insertBy before element list).Pairwise (before · ·) := by
  induction list with
  | nil => simp [insertBy]
  | cons head rest ih =>
    rw [List.pairwise_cons] at sorted
    simp only [insertBy]
    split
    · rename_i precedes
      refine List.pairwise_cons.2 ⟨fun other listed => ?_, List.pairwise_cons.2 sorted⟩
      rcases List.mem_cons.1 listed with same | below
      · exact same ▸ precedes
      · exact transitive _ _ _ precedes (sorted.1 _ below)
    · rename_i follows
      refine List.pairwise_cons.2 ⟨fun other listed => ?_, ih sorted.2⟩
      rcases List.mem_cons.1 ((insertBy_perm before element rest).mem_iff.1 listed) with
        same | below
      · exact same ▸ (total element head).resolve_left follows
      · exact sorted.1 _ below

/-- The result of sorting by a total transitive comparison is sorted. -/
theorem pairwise_sortBy {before : α -> α -> Bool}
    (transitive : ∀ a b c, before a b = true -> before b c = true -> before a c = true)
    (total : ∀ a b, before a b = true ∨ before b a = true) (list : List α) :
    (sortBy before list).Pairwise (before · ·) := by
  induction list with
  | nil => exact .nil
  | cons head rest ih => exact pairwise_insertBy transitive total head ih

end ProcessEngine
