import LinkContract.Text.Basic

/-!
# Pieces of a text

The pieces between separators are those of `List.splitOnP`. No separator is in a piece, and
pieces that hold no separator are found again when single separators are put between them.
-/
namespace LinkContract.Text

theorem pieces_eq_splitOnP (separates : Char → Bool) (text : List Char) :
    pieces separates text = text.splitOnP separates := by
  induction text with
  | nil => rfl
  | cons c rest ih =>
    rw [pieces, List.splitOnP_cons_eq_if_modifyHead, ← ih]
    cases shape : pieces separates rest with
    | nil => exact absurd shape (pieces_ne_nil separates rest)
    | cons piece others => rfl

theorem not_separates_of_mem_pieces (separates : Char → Bool) (text : List Char) :
    ∀ piece ∈ pieces separates text, ∀ c ∈ piece, separates c = false := by
  induction text with
  | nil => simp [pieces]
  | cons c rest ih =>
    by_cases separated : separates c = true
    · simp only [pieces, separated, if_true, List.forall_mem_cons]
      exact ⟨List.forall_mem_nil _, ih⟩
    · simp only [pieces, separated, Bool.false_eq_true, if_false]
      cases shape : pieces separates rest with
      | nil => exact absurd shape (pieces_ne_nil separates rest)
      | cons piece others =>
        -- the first piece of the rest takes in the character, which is no separator
        rw [shape, List.forall_mem_cons] at ih
        simp only [List.forall_mem_cons]
        exact ⟨⟨Bool.eq_false_iff.mpr separated, ih.1⟩, ih.2⟩

/-- Splitting undoes joining, except for no pieces at all: the empty text is one piece. -/
theorem pieces_intercalate (mark : Char) {parts : List (List Char)} (occupied : parts ≠ [])
    (clear : ∀ part ∈ parts, mark ∉ part) :
    pieces (· == mark) ([mark].intercalate parts) = parts := by
  rw [pieces_eq_splitOnP]
  exact List.splitOn_intercalate mark clear occupied

/-! ### Joined lines -/

/-- What puts a mark between any two parts is the library's join. -/
theorem eq_intercalate (mark : Char) (join : List (List Char) → List Char) (nil : join [] = [])
    (single : ∀ part, join [part] = part)
    (more : ∀ part next others,
      join (part :: next :: others) = part ++ mark :: join (next :: others))
    (parts : List (List Char)) : join parts = [mark].intercalate parts := by
  induction parts with
  | nil => rw [nil, List.intercalate_nil]
  | cons part rest ih =>
    cases rest with
    | nil => rw [single, List.intercalate_singleton]
    | cons next others =>
      rw [more, ih, List.intercalate_cons_cons, List.append_assoc, List.singleton_append]

theorem joinLines_eq_intercalate (parts : List (List Char)) :
    joinLines parts = ['\n'].intercalate parts :=
  eq_intercalate '\n' joinLines rfl (fun _ => rfl) (fun _ _ _ => rfl) parts

/-- Lines that are not empty are found in the text that joins them, be there any or none. -/
theorem filter_pieces_joinLines (parts : List (List Char))
    (whole : ∀ part ∈ parts, part ≠ [] ∧ '\n' ∉ part) :
    (pieces (· == '\n') (joinLines parts)).filter (fun piece => !piece.isEmpty) = parts := by
  by_cases empty : parts = []
  · -- no lines are joined to the empty text, whose one piece is dropped
    subst empty
    rfl
  · rw [joinLines_eq_intercalate,
      pieces_intercalate '\n' empty fun part inside => (whole part inside).2, List.filter_eq_self]
    intro part inside
    simp [(whole part inside).1]

/-! ### Words -/

/-- Something stands in the text, and none of it is blank. -/
structure IsWord (text : List Char) : Prop where
  occupied : text ≠ []
  solid : ∀ c ∈ text, isBlank c = false

theorem isWord_of_mem_words {text word : List Char} (member : word ∈ words text) : IsWord word where
  occupied := ne_nil_of_mem_words member
  solid := not_separates_of_mem_pieces isBlank text word (List.mem_filter.mp member).1

end LinkContract.Text
