import LinkContract.Text.Basic

/-!
# Lines that read back

Lines are written one after the other, each with a line feed behind it. When no line
contains a line feed or ends in a carriage return, the text has exactly these lines; when
a line neither begins nor ends with a blank, trimming leaves it alone.
-/
namespace LinkContract.Text

theorem isBlank_lineFeed : isBlank '\n' = true := by decide

theorem isBlank_return : isBlank '\r' = true := by decide

theorem isBlank_space : isBlank ' ' = true := by decide

/-- The characters from `!` to `~` are not blank. -/
theorem isBlank_of_visible (c : Char) (low : 0x20 < c.toNat) (high : c.toNat < 0x7F) :
    isBlank c = false := by
  simp only [isBlank, blankRanges, List.any_cons, List.any_nil, Bool.or_false, Bool.or_eq_false_iff,
    Bool.and_eq_false_iff, decide_eq_false_iff_not, Nat.not_le]
  omega

/-- Lines with a line feed behind each of them. -/
def terminated (written : List (List Char)) : List Char :=
  written.flatMap fun line => line ++ ['\n']

theorem terminated_cons (line : List Char) (rest : List (List Char)) :
    terminated (line :: rest) = line ++ '\n' :: terminated rest := by
  simp [terminated]

/-- Only the last character of a line can be dropped. -/
theorem dropReturn_cons_of_ne_nil (c : Char) (rest : List Char) (occupied : rest ≠ []) :
    dropReturn (c :: rest) = c :: dropReturn rest := by
  cases rest with
  | nil => exact absurd rfl occupied
  | cons d others => rfl

theorem dropReturn_of_getLast? (line : List Char) (last : line.getLast? ≠ some '\r') :
    dropReturn line = line := by
  induction line with
  | nil => rfl
  | cons c rest ih =>
    cases rest with
    | nil =>
      have other : c ≠ '\r' := by simpa using last
      simp [dropReturn, other]
    | cons d others =>
      rw [List.getLast?_cons_cons] at last
      rw [dropReturn_cons_of_ne_nil c _ (List.cons_ne_nil d others), ih last]

theorem lines_terminated (written : List (List Char)) (clear : ∀ line ∈ written, '\n' ∉ line)
    (closed : ∀ line ∈ written, line.getLast? ≠ some '\r') :
    lines (terminated written) = written := by
  induction written with
  | nil => rfl
  | cons line rest ih =>
    rw [List.forall_mem_cons] at clear closed
    -- the line ends at its own line feed, and there is no carriage return to drop before it
    rw [terminated_cons, lines_append line _ clear.1, dropReturn_of_getLast? line closed.1,
      ih clear.2 closed.2]

/-- The last character, if there is one, is not blank. -/
def EndsSolid (text : List Char) : Prop := ∀ c, text.getLast? = some c → isBlank c = false

theorem endsSolid_append (first second : List Char) (occupied : second ≠ [])
    (solid : EndsSolid second) : EndsSolid (first ++ second) := by
  intro c last
  cases shape : second.getLast? with
  | none => exact absurd (List.getLast?_eq_none_iff.mp shape) occupied
  | some d =>
    rw [List.getLast?_append, shape, Option.some_or] at last
    exact solid c (shape.trans last)

theorem endsSolid_of_forall (text : List Char) (solid : ∀ c ∈ text, isBlank c = false) :
    EndsSolid text :=
  fun c last => solid c (List.mem_of_getLast? last)

theorem endsSolid_singleton (c : Char) (solid : isBlank c = false) : EndsSolid [c] := by
  intro d last
  cases last
  exact solid

theorem EndsSolid.getLast?_ne_return {text : List Char} (solid : EndsSolid text) :
    text.getLast? ≠ some '\r' := by
  intro last
  have blank := solid '\r' last
  rw [isBlank_return] at blank
  cases blank

theorem trimEnd_of_endsSolid (text : List Char) (solid : EndsSolid text) : trimEnd text = text := by
  induction text with
  | nil => rfl
  | cons c rest ih =>
    cases rest with
    | nil => simp [trimEnd, solid c rfl]
    | cons d others =>
      have tail : EndsSolid (d :: others) := fun e last => solid e (by simpa using last)
      rw [trimEnd, ih tail]

theorem trimStart_cons (c : Char) (text : List Char) (solid : isBlank c = false) :
    trimStart (c :: text) = c :: text := by
  simp [trimStart, solid]

/-! ### Words -/

theorem words_nil : words [] = [] := rfl

theorem words_blank_append (blanks text : List Char) (blank : ∀ c ∈ blanks, isBlank c = true) :
    words (blanks ++ text) = words text := by
  induction blanks with
  | nil => rfl
  | cons c rest ih =>
    rw [List.forall_mem_cons] at blank
    -- a blank in front divides the words of nothing from those of the rest
    have split := words_append [] c (rest ++ text) blank.1
    rw [List.cons_append, ← List.nil_append (c :: (rest ++ text)), split, words_nil,
      List.nil_append, ih blank.2]

theorem words_eq_singleton (word : List Char) (occupied : word ≠ [])
    (solid : ∀ c ∈ word, isBlank c = false) : words word = [word] := by
  rw [words, pieces_eq_singleton isBlank word solid]
  simp [occupied]

end LinkContract.Text
