import LinkContract.Proofs.Text.Lines

/-!
# Cuts between lines

A text is its first line, the line feed behind it and the rest, or it is one line with no line
feed at all. By induction along these parts, a text that ends with its line can be cut off from
what follows it, and the carriage returns in front of the line feeds change nothing for those who
trim the end of a line.
-/
namespace LinkContract.Text

/-- Induction on a text line by line. -/
theorem line_induction {motive : List Char → Prop} (text : List Char)
    (last : ∀ line, '\n' ∉ line → motive line)
    (closed : ∀ line rest, '\n' ∉ line → motive rest → motive (line ++ '\n' :: rest)) :
    motive text := by
  by_cases broken : '\n' ∈ text
  · obtain ⟨line, rest, shape, clear⟩ := List.eq_append_cons_of_mem broken
    have shorter : rest.length < text.length := by
      rw [shape, List.length_append, List.length_cons]
      omega
    rw [shape]
    exact closed line rest clear (line_induction rest last closed)
  · exact last text broken
termination_by text.length

/-- The text is empty, or it ends with its last line. -/
def EndsLine (text : List Char) : Prop := text = [] ∨ text.getLast? = some '\n'

instance (text : List Char) : Decidable (EndsLine text) :=
  inferInstanceAs (Decidable (text = [] ∨ text.getLast? = some '\n'))

theorem EndsLine.eq_nil {line : List Char} (ends : EndsLine line) (clear : '\n' ∉ line) :
    line = [] := by
  rcases ends with empty | last
  · exact empty
  · exact absurd (List.mem_of_getLast? last) clear

theorem EndsLine.rest {line rest : List Char} (ends : EndsLine (line ++ '\n' :: rest)) :
    EndsLine rest := by
  cases rest with
  | nil => exact Or.inl rfl
  | cons c others =>
    right
    rcases ends with empty | last
    · simp at empty
    · simpa using last

theorem lines_append_of_endsLine (first second : List Char) (ends : EndsLine first) :
    lines (first ++ second) = lines first ++ lines second := by
  induction first using line_induction with
  | last line clear =>
    -- a line that is not closed can only be empty here
    rw [ends.eq_nil clear, lines_nil, List.nil_append, List.nil_append]
  | closed line rest clear ih =>
    rw [List.append_assoc, List.cons_append, lines_append line _ clear, ih ends.rest,
      lines_append line rest clear, List.cons_append]

/-! ### Carriage returns -/

/-- Puts a carriage return in front of every line feed. -/
def withReturns (text : List Char) : List Char :=
  text.flatMap fun c => if c = '\n' then ['\r', '\n'] else [c]

theorem withReturns_of_clear (line : List Char) (clear : '\n' ∉ line) :
    withReturns line = line := by
  induction line with
  | nil => rfl
  | cons c rest ih =>
    rw [List.mem_cons, not_or] at clear
    have other : c ≠ '\n' := fun same => clear.1 same.symm
    have tail := ih clear.2
    rw [withReturns] at tail
    simp [withReturns, other, tail]

theorem withReturns_append (line rest : List Char) (clear : '\n' ∉ line) :
    withReturns (line ++ '\n' :: rest) = (line ++ ['\r']) ++ '\n' :: withReturns rest := by
  have same := withReturns_of_clear line clear
  rw [withReturns] at same
  simp [withReturns, same]

theorem dropReturn_append_return (line : List Char) : dropReturn (line ++ ['\r']) = line := by
  induction line with
  | nil => rfl
  | cons c rest ih =>
    have occupied : rest ++ ['\r'] ≠ [] := by simp
    rw [List.cons_append, dropReturn_cons_of_ne_nil c _ occupied, ih]

/-- Lines keep the carriage returns that the text has of its own, so the lines with and without
the new ones differ by one carriage return at most. -/
theorem map_lines_withReturns {α : Type} (view : List Char → α)
    (unaffected : ∀ line, view (dropReturn line) = view line) (text : List Char) :
    (lines (withReturns text)).map view = (lines text).map view := by
  induction text using line_induction with
  | last line clear => rw [withReturns_of_clear line clear]
  | closed line rest clear ih =>
    have shown : '\n' ∉ line ++ ['\r'] := by simp [clear]
    -- of the two returns that may end the line now, the new one is dropped
    rw [withReturns_append line rest clear, lines_append _ _ shown, dropReturn_append_return,
      lines_append line rest clear, List.map_cons, List.map_cons, unaffected, ih]

theorem trimEnd_dropReturn (line : List Char) : trimEnd (dropReturn line) = trimEnd line := by
  induction line with
  | nil => rfl
  | cons c rest ih =>
    cases rest with
    | nil =>
      by_cases dropped : c = '\r'
      · subst dropped
        rfl
      · simp [dropReturn, dropped]
    | cons d others =>
      rw [dropReturn_cons_of_ne_nil c _ (List.cons_ne_nil d others)]
      simp only [trimEnd, ih]

end LinkContract.Text
