/-!
# Texts as lists of characters

A character is blank when it has the Unicode property `White_Space`. Trimming
removes blanks at the ends of a text, and the words of a text are its maximal
runs of characters that are not blank.

A line ends at a line feed, or at a carriage return followed by a line feed. A
text that ends in a line feed has no further line after it.

Lower case changes the letters `A` to `Z` only. A stem can be stripped from the
front of a text as often as it occurs there.
-/
namespace LinkContract.Text

/-! ### Blanks, pieces and words -/

/-- The property `White_Space` as closed ranges of code points. -/
def blankRanges : List (Nat × Nat) :=
  [(0x9, 0xD), (0x20, 0x20), (0x85, 0x85), (0xA0, 0xA0), (0x1680, 0x1680), (0x2000, 0x200A),
    (0x2028, 0x2029), (0x202F, 0x202F), (0x205F, 0x205F), (0x3000, 0x3000)]

def isBlank (c : Char) : Bool :=
  blankRanges.any fun range => range.1 ≤ c.toNat && c.toNat ≤ range.2

def trimStart (text : List Char) : List Char := text.dropWhile isBlank

def trimEnd : List Char → List Char
  | [] => []
  | c :: rest =>
    match trimEnd rest with
    | [] => if isBlank c then [] else [c]
    | kept => c :: kept

def trim (text : List Char) : List Char := trimEnd (trimStart text)

theorem trimEnd_eq_nil_iff (text : List Char) :
    trimEnd text = [] ↔ ∀ c ∈ text, isBlank c = true := by
  induction text with
  | nil => simp [trimEnd]
  | cons c rest ih =>
    simp only [trimEnd, List.mem_cons, forall_eq_or_imp]
    split
    next empty =>
      rw [ih] at empty
      split <;> simp_all
    next occupied =>
      have other : ¬ ∀ d ∈ rest, isBlank d = true := fun blank => occupied (ih.mpr blank)
      simp [other]

/-- The pieces between separators, empty ones included: there is one more piece
than there are separators. -/
def pieces (separates : Char → Bool) : List Char → List (List Char)
  | [] => [[]]
  | c :: rest =>
    if separates c then [] :: pieces separates rest
    else
      match pieces separates rest with
      | [] => [[c]]
      | piece :: others => (c :: piece) :: others

theorem pieces_ne_nil (separates : Char → Bool) (text : List Char) :
    pieces separates text ≠ [] := by
  cases text with
  | nil => simp [pieces]
  | cons c rest =>
    simp only [pieces]
    split
    · simp
    · split <;> simp

/-- A separator divides the pieces of a text into those before and those after it. -/
theorem pieces_append (separates : Char → Bool) (first : List Char) (mark : Char)
    (second : List Char) (marks : separates mark = true) :
    pieces separates (first ++ mark :: second)
      = pieces separates first ++ pieces separates second := by
  induction first with
  | nil => simp [pieces, marks]
  | cons c rest ih =>
    by_cases separated : separates c = true
    · simp [pieces, separated, ih]
    · simp only [List.cons_append, pieces, separated, ih]
      -- the first piece is the same on both sides, and it takes in `c`
      cases shape : pieces separates rest with
      | nil => exact absurd shape (pieces_ne_nil separates rest)
      | cons piece others => simp

/-- A text without separators is one piece. -/
theorem pieces_eq_singleton (separates : Char → Bool) (text : List Char)
    (clear : ∀ c ∈ text, separates c = false) : pieces separates text = [text] := by
  induction text with
  | nil => rfl
  | cons c rest ih =>
    simp only [List.mem_cons, forall_eq_or_imp] at clear
    simp [pieces, clear.1, ih clear.2]

def words (text : List Char) : List (List Char) :=
  (pieces isBlank text).filter (fun piece => !piece.isEmpty)

theorem words_append (first : List Char) (blank : Char) (second : List Char)
    (space : isBlank blank = true) :
    words (first ++ blank :: second) = words first ++ words second := by
  rw [words, pieces_append isBlank first blank second space, List.filter_append, words, words]

theorem ne_nil_of_mem_words {text word : List Char} (member : word ∈ words text) : word ≠ [] := by
  simp only [words, List.mem_filter, Bool.not_eq_true', List.isEmpty_eq_false_iff] at member
  exact member.2

/-! ### Lines -/

def dropReturn : List Char → List Char
  | [] => []
  | [c] => if c = '\r' then [] else [c]
  | c :: rest => c :: dropReturn rest

/-- Terminated lines lose their carriage return; what follows the last line feed
counts as a line only when it is not empty. -/
def closeLines : List (List Char) → List (List Char)
  | [] => []
  | [last] => if last.isEmpty then [] else [last]
  | line :: rest => dropReturn line :: closeLines rest

def lines (text : List Char) : List (List Char) :=
  closeLines (pieces (· == '\n') text)

theorem lines_nil : lines [] = [] := rfl

theorem lines_append (line rest : List Char) (clear : '\n' ∉ line) :
    lines (line ++ '\n' :: rest) = dropReturn line :: lines rest := by
  have unbroken : ∀ c ∈ line, (c == '\n') = false := by
    intro c member
    simp only [beq_eq_false_iff_ne, ne_eq]
    rintro rfl
    exact clear member
  rw [lines, pieces_append _ line '\n' rest rfl, pieces_eq_singleton _ line unbroken, lines]
  cases shape : pieces (· == '\n') rest with
  | nil => exact absurd shape (pieces_ne_nil _ rest)
  | cons first others => simp [closeLines]

/-- Lines separated by single line feeds, without a final one. -/
def joinLines : List (List Char) → List Char
  | [] => []
  | [line] => line
  | line :: rest => line ++ '\n' :: joinLines rest

/-! ### Letter case and repeated stems -/

def lower (text : List Char) : List Char := text.map Char.toLower

theorem length_sub_stem_lt {stem text : List Char} (occupied : stem ≠ [])
    (opens : stem.isPrefixOf text = true) : text.length - stem.length < text.length := by
  have fits := (List.isPrefixOf_iff_prefix.mp opens).length_le
  have positive := List.length_pos_iff.mpr occupied
  omega

/-- Strips every copy of `stem` that stands at the front, one after the other. -/
def dropCopies (stem text : List Char) : List Char :=
  if copy : stem ≠ [] ∧ stem.isPrefixOf text = true then
    have _shorter := length_sub_stem_lt copy.1 copy.2
    dropCopies stem (text.drop stem.length)
  else text
termination_by text.length

theorem dropCopies_append (stem text : List Char) (occupied : stem ≠ []) :
    dropCopies stem (stem ++ text) = dropCopies stem text := by
  rw [dropCopies]
  simp [occupied, List.isPrefixOf_iff_prefix]

theorem dropCopies_of_not_isPrefixOf (stem text : List Char)
    (differs : stem.isPrefixOf text = false) : dropCopies stem text = text := by
  rw [dropCopies]
  simp [differs]

end LinkContract.Text
