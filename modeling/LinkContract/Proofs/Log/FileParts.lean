import LinkContract.Proofs.Log.Validation
import LinkContract.Proofs.Text.LineCuts

/-!
# Logs in parts

A log is validated line by line. What a line adds to the defects depends on the line and its
number alone, and the number is the place of the line in the text, blank lines included. So a text
that ends with its line can be validated apart from what follows it: the second part only has
greater numbers, by as many as the first part has line feeds.
-/
namespace LinkContract

theorem Text.length_lines_of_endsLine (text : List Char) (ends : EndsLine text) :
    (lines text).length = text.count '\n' := by
  induction text using line_induction with
  | last line clear =>
    rw [ends.eq_nil clear]
    rfl
  | closed line rest clear ih =>
    rw [lines_append line rest clear, List.length_cons, ih ends.rest, List.count_append,
      List.count_eq_zero_of_not_mem clear, List.count_cons_self, Nat.zero_add]

namespace Log

/-! ### One line -/

/-- The same defect, as many lines further down. -/
def Defect.below (lines : Nat) (defect : Defect) : Defect :=
  { defect with line := defect.line + lines }

theorem map_line_below (lines : Nat) (defects : List Defect) :
    (defects.map (Defect.below lines)).map Defect.line
      = (defects.map Defect.line).map (· + lines) := by
  simp [Defect.below, Function.comp_def]

/-- A line that is not blank counts. -/
def counts (raw : List Char) : Bool := !(Text.trim raw).isEmpty

/-- The defects that a line of a file has. -/
def defectsAt (number : Nat) (raw : List Char) : List Defect :=
  if counts raw then defectsOf (String.ofList (Text.trim raw)) number else []

theorem counts_iff (raw : List Char) : counts raw = true ↔ Text.trim raw ≠ [] := by
  simp [counts]

theorem defectsOf_below (line : String) (number lines : Nat) :
    defectsOf line (number + lines) = (defectsOf line number).map (Defect.below lines) := by
  rw [defectsOf, defectsOf, validateLine, validateLine]
  -- what is wrong with a line is found before its number is looked at
  cases readRecord line with
  | ok record => rfl
  | error faults => simp [Defect.below]

theorem line_of_mem_defectsOf {line : String} {number : Nat} {defect : Defect}
    (member : defect ∈ defectsOf line number) : defect.line = number := by
  rw [defectsOf, validateLine] at member
  cases shape : readRecord line with
  | ok record => simp [shape] at member
  | error faults =>
    simp only [shape, List.mem_map] at member
    obtain ⟨fault, _, rfl⟩ := member
    rfl

/-- A line has defects just when it is refused. -/
theorem defectsOf_ne_nil_iff (line : String) (number : Nat) :
    defectsOf line number ≠ [] ↔ ∃ defects, validateLine line number = .error defects := by
  rw [ne_eq, defectsOf_eq_nil_iff]
  cases validateLine line number <;> simp

theorem defectsAt_below (number lines : Nat) (raw : List Char) :
    defectsAt (number + lines) raw = (defectsAt number raw).map (Defect.below lines) := by
  rw [defectsAt, defectsAt]
  split
  · exact defectsOf_below _ number lines
  · rfl

theorem of_mem_defectsAt {number : Nat} {raw : List Char} {defect : Defect}
    (member : defect ∈ defectsAt number raw) : defect.line = number ∧ counts raw = true := by
  rw [defectsAt] at member
  split at member
  next counted => exact ⟨line_of_mem_defectsOf member, counted⟩
  next => cases member

/-! ### Lines under each other -/

/-- The defects of lines, the first of which has a given number. -/
def defectsFrom (first : Nat) : List (List Char) → List Defect
  | [] => []
  | raw :: rest => defectsAt first raw ++ defectsFrom (first + 1) rest

theorem length_filter_numberedLines (first : Nat) (lines : List (List Char)) :
    ((numberedLines first lines).filter fun line => !line.2.isEmpty).length
      = lines.countP counts := by
  induction lines generalizing first with
  | nil => rfl
  | cons raw rest ih =>
    have step := ih (first + 1)
    by_cases counted : counts raw = true
    · have kept := counted
      rw [counts] at kept
      simp [numberedLines, kept, counted, step]
    · have dropped := counted
      rw [counts] at dropped
      simp [numberedLines, dropped, counted, step]

theorem flatMap_numberedLines (first : Nat) (lines : List (List Char)) :
    ((numberedLines first lines).filter fun line => !line.2.isEmpty).flatMap
        (fun line => defectsOf (String.ofList line.2) line.1)
      = defectsFrom first lines := by
  induction lines generalizing first with
  | nil => rfl
  | cons raw rest ih =>
    rw [defectsFrom, ← ih (first + 1), numberedLines, List.filter_cons, defectsAt, counts]
    -- a blank line is left out on one side and has no defects on the other
    split <;> simp

theorem validateText_eq (text : String) :
    validateText text
      = { lines := (Text.lines text.toList).countP counts
          defects := defectsFrom 1 (Text.lines text.toList) } := by
  simp only [validateText, length_filter_numberedLines, flatMap_numberedLines]

/-- The later lines are numbered on from those before them, whether or not these are blank. -/
theorem defectsFrom_append (first : Nat) (lines later : List (List Char)) :
    defectsFrom first (lines ++ later)
      = defectsFrom first lines ++ defectsFrom (first + lines.length) later := by
  induction lines generalizing first with
  | nil => rfl
  | cons raw rest ih =>
    rw [List.cons_append, defectsFrom, ih, defectsFrom, List.append_assoc, List.length_cons,
      Nat.add_assoc, Nat.add_comm 1]

theorem defectsFrom_below (first lines : Nat) (later : List (List Char)) :
    defectsFrom (first + lines) later = (defectsFrom first later).map (Defect.below lines) := by
  induction later generalizing first with
  | nil => rfl
  | cons raw rest ih =>
    rw [defectsFrom, defectsAt_below, Nat.add_right_comm, ih, defectsFrom, List.map_append]

/-! ### Numbers of lines -/

theorem exists_line_of_mem_defectsFrom {first : Nat} {lines : List (List Char)} {defect : Defect}
    (member : defect ∈ defectsFrom first lines) :
    ∃ index raw, lines[index]? = some raw ∧ defect ∈ defectsAt (first + index) raw := by
  induction lines generalizing first with
  | nil => cases member
  | cons raw rest ih =>
    rcases List.mem_append.mp member with here | later
    · exact ⟨0, raw, rfl, here⟩
    · obtain ⟨index, found, place, own⟩ := ih later
      exact ⟨index + 1, found, place, by rwa [Nat.add_assoc, Nat.add_comm 1] at own⟩

theorem le_line_of_mem_defectsFrom {first : Nat} {lines : List (List Char)} {defect : Defect}
    (member : defect ∈ defectsFrom first lines) : first ≤ defect.line := by
  obtain ⟨index, raw, _, own⟩ := exists_line_of_mem_defectsFrom member
  rw [(of_mem_defectsAt own).1]
  exact Nat.le_add_right first index

theorem pairwise_defectsFrom (first : Nat) (lines : List (List Char)) :
    (defectsFrom first lines).Pairwise fun defect other => defect.line ≤ other.line := by
  induction lines generalizing first with
  | nil => exact .nil
  | cons raw rest ih =>
    refine List.pairwise_append.mpr ⟨?_, ih (first + 1), ?_⟩
    · -- a line may have several defects, all under its own number
      refine List.pairwise_of_forall_mem_list fun defect here other there => ?_
      exact Nat.le_of_eq ((of_mem_defectsAt here).1.trans (of_mem_defectsAt there).1.symm)
    · intro defect here other later
      rw [(of_mem_defectsAt here).1]
      exact Nat.le_of_succ_le (le_line_of_mem_defectsFrom later)

/-- By induction on the lines before it: the defects with the number of a line are its own. -/
theorem filter_defectsFrom {first index : Nat} {lines : List (List Char)} {raw : List Char}
    (place : lines[index]? = some raw) :
    (defectsFrom first lines).filter (fun defect => defect.line = first + index)
      = defectsAt (first + index) raw := by
  induction lines generalizing first index with
  | nil => cases place
  | cons head rest ih =>
    rw [defectsFrom, List.filter_append]
    cases index with
    | zero =>
      -- all defects of the first line stay, and the lines below it have greater numbers
      obtain rfl : head = raw := Option.some.inj place
      have own : (defectsAt first head).filter (fun defect => defect.line = first)
          = defectsAt first head :=
        List.filter_eq_self.mpr fun defect here => decide_eq_true (of_mem_defectsAt here).1
      have later : (defectsFrom (first + 1) rest).filter (fun defect => defect.line = first)
          = [] := by
        refine List.filter_eq_nil_iff.mpr fun defect member => ?_
        have bound := le_line_of_mem_defectsFrom member
        simp only [decide_eq_true_eq]
        omega
      rw [Nat.add_zero, own, later, List.append_nil]
    | succ index =>
      -- the line is among the later ones, so the first line adds nothing to the choice
      have earlier : (defectsAt first head).filter
          (fun defect => defect.line = first + (index + 1)) = [] := by
        refine List.filter_eq_nil_iff.mpr fun defect here => ?_
        rw [decide_eq_true_eq, (of_mem_defectsAt here).1]
        omega
      have shifted : first + (index + 1) = first + 1 + index := by omega
      rw [earlier, List.nil_append, shifted]
      exact ih place

/-! ### Whole texts -/

/-- The line with this number, counted from 1, is this one. -/
def IsLine (text : String) (number : Nat) (raw : List Char) : Prop :=
  0 < number ∧ (Text.lines text.toList)[number - 1]? = some raw

instance (text : String) (number : Nat) (raw : List Char) : Decidable (IsLine text number raw) :=
  inferInstanceAs (Decidable (0 < number ∧ (Text.lines text.toList)[number - 1]? = some raw))

theorem validateText_append (first second : String) (ends : Text.EndsLine first.toList) :
    validateText (first ++ second)
      = { lines := (validateText first).lines + (validateText second).lines
          defects := (validateText first).defects
            ++ (validateText second).defects.map (Defect.below (first.toList.count '\n')) } := by
  -- the first part has a line for each of its line feeds, and the numbers go on from there
  simp only [validateText_eq, String.toList_append, Text.lines_append_of_endsLine _ _ ends,
    List.countP_append, defectsFrom_append, Text.length_lines_of_endsLine _ ends,
    defectsFrom_below]

theorem filter_defects_validateText {text : String} {number : Nat} {raw : List Char}
    (place : IsLine text number raw) :
    (validateText text).defects.filter (fun defect => defect.line = number)
      = defectsAt number raw := by
  obtain ⟨positive, found⟩ := place
  have index : 1 + (number - 1) = number := Nat.add_sub_cancel' positive
  have own : (defectsFrom 1 (Text.lines text.toList)).filter
      (fun defect => defect.line = 1 + (number - 1)) = defectsAt (1 + (number - 1)) raw :=
    filter_defectsFrom found
  rw [index] at own
  rw [validateText_eq]
  exact own

theorem exists_line_of_mem_defects {text : String} {defect : Defect}
    (member : defect ∈ (validateText text).defects) :
    ∃ raw, IsLine text defect.line raw ∧ Text.trim raw ≠ [] := by
  rw [validateText_eq] at member
  obtain ⟨index, raw, found, own⟩ := exists_line_of_mem_defectsFrom member
  obtain ⟨number, counted⟩ := of_mem_defectsAt own
  refine ⟨raw, ⟨by omega, ?_⟩, (counts_iff raw).mp counted⟩
  rw [number, Nat.add_sub_cancel_left]
  exact found

/-- A log can be cut behind any line: the counts add up, and the defects of the second part follow
those of the first with their numbers moved on by its line feeds. In any log the numbers are those
of lines that are not blank and never decrease, and what a line that is not blank adds are the
defects of its trimmed text, so it adds some just when that text is refused. -/
theorem log_validated_in_parts :
    (∀ first second : String, Text.EndsLine first.toList →
        validateText (first ++ second)
          = { lines := (validateText first).lines + (validateText second).lines
              defects := (validateText first).defects
                ++ (validateText second).defects.map (Defect.below (first.toList.count '\n')) })
      ∧ ∀ text : String,
        (∀ defect ∈ (validateText text).defects,
            ∃ raw, IsLine text defect.line raw ∧ Text.trim raw ≠ [])
          ∧ ((validateText text).defects.map Defect.line).Pairwise (· ≤ ·)
          ∧ ∀ number raw, IsLine text number raw → Text.trim raw ≠ [] →
            (validateText text).defects.filter (fun defect => defect.line = number)
                = defectsOf (String.ofList (Text.trim raw)) number
              ∧ ((∃ defect ∈ (validateText text).defects, defect.line = number)
                ↔ ∃ defects, validateLine (String.ofList (Text.trim raw)) number
                  = .error defects) := by
  refine ⟨validateText_append, fun text => ⟨fun _ => exists_line_of_mem_defects, ?_, ?_⟩⟩
  · rw [validateText_eq]
    exact List.pairwise_map.mpr (pairwise_defectsFrom 1 _)
  · intro number raw place occupied
    -- the line is not blank, so its defects are those of its trimmed text
    have own := filter_defects_validateText place
    rw [defectsAt, if_pos ((counts_iff raw).mpr occupied)] at own
    refine ⟨own, ?_⟩
    rw [← defectsOf_ne_nil_iff, ← own]
    simp [List.filter_eq_nil_iff]

/-- Blank lines stand in both parts. The line that is refused for four reasons is the second of
its part and the fourth of the whole; blanks and a carriage return at its ends do not matter. -/
theorem parts_numbered_past_blank_lines :
    let first := " \n[]\r\n"
    let second := "\n\t\x7b\"level\":\"loud\"\x7d \r\nx"
    let raw := "\t\x7b\"level\":\"loud\"\x7d ".toList
    Text.EndsLine first.toList
      ∧ (validateText first).lines = 1 ∧ (validateText second).lines = 2
      ∧ (validateText (first ++ second)).lines = 3
      ∧ (validateText first).defects.map Defect.line = [2]
      ∧ (validateText second).defects.map Defect.line = [2, 2, 2, 2, 3]
      ∧ (validateText (first ++ second)).defects.map Defect.line = [2, 4, 4, 4, 4, 5]
      ∧ IsLine (first ++ second) 4 raw ∧ Text.trim raw ≠ []
      ∧ ∃ defects, validateLine (String.ofList (Text.trim raw)) 4 = .error defects := by
  intro first second raw
  have ends : Text.EndsLine first.toList := by decide
  have counted : (validateText first).lines = 1 ∧ (validateText second).lines = 2 := by
    decide +kernel
  have numbers : (validateText first).defects.map Defect.line = [2] := by decide +kernel
  have others : (validateText second).defects.map Defect.line = [2, 2, 2, 2, 3] := by
    decide +kernel
  have whole := log_validated_in_parts.1 first second ends
  have all : (validateText (first ++ second)).defects.map Defect.line = [2, 4, 4, 4, 4, 5] := by
    rw [whole, List.map_append, map_line_below, numbers, others]
    decide
  have place : IsLine (first ++ second) 4 raw := by decide +kernel
  have occupied : Text.trim raw ≠ [] := by decide
  have added := ((log_validated_in_parts.2 (first ++ second)).2.2 4 raw place occupied).2
  refine ⟨ends, counted.1, counted.2, ?_, numbers, others, all, place, occupied, added.mp ?_⟩
  · rw [whole, counted.1, counted.2]
  · have four : 4 ∈ (validateText (first ++ second)).defects.map Defect.line := by
      rw [all]
      decide
    exact List.mem_map.mp four

end Log

end LinkContract
