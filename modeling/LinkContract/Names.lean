/-!
# Sorted name lists

Findings list names in strictly increasing order. `sorted` puts the names of any
list into that form: it keeps exactly the names that occur.
-/
namespace LinkContract.Names

def insert (name : String) : List String → List String
  | [] => [name]
  | head :: rest =>
    if name < head then name :: head :: rest
    else if name = head then head :: rest
    else head :: insert name rest

def sorted (names : List String) : List String := names.foldr insert []

theorem mem_insert (name other : String) (names : List String) :
    other ∈ insert name names ↔ other = name ∨ other ∈ names := by
  induction names with
  | nil => simp [insert]
  | cons head rest ih =>
    simp only [insert]
    split
    · simp
    · split
      next same => subst same; simp
      · simp only [List.mem_cons, ih]
        exact or_left_comm

theorem mem_sorted (name : String) (names : List String) : name ∈ sorted names ↔ name ∈ names := by
  induction names with
  | nil => simp [sorted]
  | cons head rest ih =>
    simp only [sorted, List.foldr_cons, mem_insert, List.mem_cons] at *
    rw [ih]

theorem pairwise_insert (name : String) (names : List String)
    (increasing : names.Pairwise (· < ·)) : (insert name names).Pairwise (· < ·) := by
  induction names with
  | nil => simp [insert]
  | cons head rest ih =>
    obtain ⟨least, ordered⟩ := List.pairwise_cons.mp increasing
    simp only [insert]
    split
    next smaller =>
      refine List.pairwise_cons.mpr ⟨?_, increasing⟩
      intro other member
      rcases List.mem_cons.mp member with rfl | later
      · exact smaller
      · exact String.lt_trans smaller (least other later)
    next notSmaller =>
      split
      · exact increasing
      next different =>
        refine List.pairwise_cons.mpr ⟨?_, ih ordered⟩
        intro other member
        rcases (mem_insert name other rest).mp member with rfl | later
        · have order := String.not_lt.mp notSmaller
          exact Std.lt_of_le_of_ne order (Ne.symm different)
        · exact least other later

/-- Sorted lists are strictly increasing, so no name is repeated. -/
theorem pairwise_sorted (names : List String) : (sorted names).Pairwise (· < ·) := by
  induction names with
  | nil => exact .nil
  | cons head rest ih => exact pairwise_insert head _ ih

end LinkContract.Names
