import LinkContract.Listing
import LinkContract.Proofs.Text.Lines

/-!
# Writing a listing

A listing is written in groups, each for one object. A group has its label once, in a
header line, or in front of every symbol line. What stands before the letter of a symbol
line is an address, or blanks that fill its place.

`listing_read_back` says that reading undoes writing. A symbol line has a space before its
name, so it is no header, and the only colon before a space is the one behind a label.
-/
namespace LinkContract.Listing

/-- What stands before the letter of a symbol line. -/
inductive Lead where
  | address (digits : List Char) (occupied : digits ≠ [])
      (hexadecimal : digits.all isHexDigit = true)
  | blanks (filling : List Char) (blank : filling.all Text.isBlank = true)
      (sameLine : '\n' ∉ filling)

/-- What a symbol line says of a name. -/
structure Row where
  lead : Lead
  letter : Char
  name : String
  isLetter : letter.isAlpha = true
  occupied : name.toList ≠ []
  solid : hasBlank name.toList = false

/-- Where the label of a group stands. -/
inductive Placement where
  | header
  | everyLine
  deriving DecidableEq

structure Group where
  label : String
  placement : Placement
  rows : List Row
  solid : hasBlank label.toList = false

def Lead.text : Lead → List Char
  | .address digits .. => digits ++ [' ']
  | .blanks filling .. => filling

/-- The words in front of the letter. -/
def Lead.fields : Lead → List (List Char)
  | .address digits .. => [digits]
  | .blanks .. => []

def Row.text (row : Row) : List Char :=
  row.lead.text ++ row.letter :: ' ' :: row.name.toList

def Group.lines (group : Group) : List (List Char) :=
  match group.placement with
  | .header => (group.label.toList ++ [':']) :: group.rows.map Row.text
  | .everyLine => group.rows.map fun row => group.label.toList ++ ':' :: ' ' :: row.text

/-- The text of a listing, with a line feed behind every line. -/
def render (groups : List Group) : String :=
  String.ofList (Text.terminated (groups.flatMap Group.lines))

/-! ### What the rows mean -/

theorem isSome_ofLetter? (letter : Char) (isLetter : letter.isAlpha = true) :
    (Linkage.ofLetter? letter).isSome = true := by
  -- what is left after the letters with a meaning of their own goes by its case
  have cased : letter.isUpper = true ∨ letter.isLower = true := Bool.or_eq_true_iff.mp isLetter
  simp only [Linkage.ofLetter?]
  repeat' split
  all_goals simp_all

def Row.linkage (row : Row) : Linkage :=
  (Linkage.ofLetter? row.letter).get (isSome_ofLetter? row.letter row.isLetter)

theorem Row.ofLetter?_letter (row : Row) : Linkage.ofLetter? row.letter = some row.linkage := by
  simp [Row.linkage]

def Group.occurrences (group : Group) : List Occurrence :=
  group.rows.map fun row => ⟨group.label, row.name, row.linkage⟩

/-! ### Characters of a row -/

theorem hasBlank_eq_false_iff (text : List Char) :
    hasBlank text = false ↔ ∀ c ∈ text, Text.isBlank c = false := by
  simp [hasBlank]

theorem isHexDigit_iff (c : Char) :
    isHexDigit c = true ↔
      48 ≤ c.toNat ∧ c.toNat ≤ 57 ∨ 97 ≤ c.toNat ∧ c.toNat ≤ 102 ∨ 65 ≤ c.toNat ∧ c.toNat ≤ 70 := by
  simp [isHexDigit, Char.isDigit, Char.le_def, UInt32.le_iff_toNat_le, or_assoc]

theorem isAlpha_iff (c : Char) :
    c.isAlpha = true ↔ 65 ≤ c.toNat ∧ c.toNat ≤ 90 ∨ 97 ≤ c.toNat ∧ c.toNat ≤ 122 := by
  have spelled : c.isAlpha
      = (decide (65 ≤ c.val ∧ c.val ≤ 90) || decide (97 ≤ c.val) && decide (c.val ≤ 122)) := rfl
  simp [spelled, UInt32.le_iff_toNat_le]

theorem isBlank_of_isHexDigit (c : Char) (hexadecimal : isHexDigit c = true) :
    Text.isBlank c = false := by
  have range := (isHexDigit_iff c).mp hexadecimal
  exact Text.isBlank_of_visible c (by omega) (by omega)

theorem isBlank_of_isAlpha (c : Char) (letter : c.isAlpha = true) : Text.isBlank c = false := by
  have range := (isAlpha_iff c).mp letter
  exact Text.isBlank_of_visible c (by omega) (by omega)

theorem Row.letter_ne (row : Row) (c : Char) (other : c.isAlpha = false) : row.letter ≠ c := by
  intro same
  have isLetter := row.isLetter
  rw [same, other] at isLetter
  cases isLetter

/-- A colon is neither a digit nor blank, so no lead holds one. -/
theorem colon_not_mem_lead (lead : Lead) : ':' ∉ lead.text := by
  intro member
  cases lead with
  | address digits occupied hexadecimal =>
    simp only [Lead.text, List.mem_append, List.mem_singleton, Char.reduceEq, or_false] at member
    have digit := List.all_eq_true.mp hexadecimal ':' member
    revert digit
    decide
  | blanks filling blank =>
    have isBlank_colon := List.all_eq_true.mp blank ':' member
    revert isBlank_colon
    decide

theorem lineFeed_not_mem_lead (lead : Lead) : '\n' ∉ lead.text := by
  intro member
  cases lead with
  | address digits occupied hexadecimal =>
    simp only [Lead.text, List.mem_append, List.mem_singleton, Char.reduceEq, or_false] at member
    have digit := List.all_eq_true.mp hexadecimal '\n' member
    revert digit
    decide
  | blanks filling blank sameLine => exact sameLine member

theorem not_mem_of_isBlank (text : List Char) (c : Char) (solid : hasBlank text = false)
    (blank : Text.isBlank c = true) : c ∉ text := by
  intro member
  rw [(hasBlank_eq_false_iff text).mp solid c member] at blank
  cases blank

/-! ### Fields of a row -/

theorem words_lead_append (lead : Lead) (text : List Char) :
    Text.words (lead.text ++ text) = lead.fields ++ Text.words text := by
  cases lead with
  | address digits occupied hexadecimal =>
    have word : Text.words digits = [digits] := Text.words_eq_singleton digits occupied
      fun c member => isBlank_of_isHexDigit c (List.all_eq_true.mp hexadecimal c member)
    rw [Lead.text, Lead.fields, List.append_assoc, List.singleton_append,
      Text.words_append digits ' ' text Text.isBlank_space, word]
  | blanks filling blank =>
    exact Text.words_blank_append filling text (List.all_eq_true.mp blank)

theorem Row.words_text (row : Row) :
    Text.words row.text = row.lead.fields ++ [[row.letter], row.name.toList] := by
  have letter : Text.words [row.letter] = [[row.letter]] :=
    Text.words_eq_singleton [row.letter] (by simp)
      (by simpa using isBlank_of_isAlpha _ row.isLetter)
  have name : Text.words row.name.toList = [row.name.toList] :=
    Text.words_eq_singleton row.name.toList row.occupied
      ((hasBlank_eq_false_iff row.name.toList).mp row.solid)
  have split : Text.words (row.letter :: ' ' :: row.name.toList)
      = Text.words [row.letter] ++ Text.words row.name.toList :=
    Text.words_append [row.letter] ' ' row.name.toList Text.isBlank_space
  rw [Row.text, words_lead_append, split, letter, name, List.singleton_append]

theorem Row.symbolOfFields?_words (row : Row) :
    symbolOfFields? (Text.words row.text) = some (row.linkage, row.name.toList) := by
  have letter : linkageOfField? [row.letter] = some row.linkage := row.ofLetter?_letter
  rw [row.words_text]
  cases shape : row.lead with
  | address digits occupied hexadecimal =>
    simp [Lead.fields, symbolOfFields?, hexadecimal, letter]
  | blanks filling blank => simp [Lead.fields, symbolOfFields?, letter]

/-! ### Marks and headers -/

theorem splitAtMark_of_no_space (text : List Char) (clear : ' ' ∉ text) :
    splitAtMark text = none := by
  induction text with
  | nil => rfl
  | cons c rest ih =>
    rw [List.mem_cons, not_or] at clear
    cases rest with
    | nil => simp [splitAtMark]
    | cons d others =>
      -- a colon here would need a space behind it
      have other : d ≠ ' ' := fun same => clear.2 (same ▸ List.mem_cons_self)
      unfold splitAtMark
      rw [ih clear.2]
      simp [other]

/-- A mark begins with a colon, so text without colons adds none. -/
theorem splitAtMark_append_of_no_colon (first second : List Char) (clear : ':' ∉ first)
    (unmarked : splitAtMark second = none) : splitAtMark (first ++ second) = none := by
  induction first with
  | nil => exact unmarked
  | cons c rest ih =>
    rw [List.mem_cons, not_or] at clear
    have other : c ≠ ':' := fun same => clear.1 same.symm
    simp [splitAtMark, ih clear.2, other]

/-- The last mark is found behind any text before it. -/
theorem splitAtMark_append (label rest : List Char) (unmarked : splitAtMark rest = none) :
    splitAtMark (label ++ ':' :: ' ' :: rest) = some (label, rest) := by
  induction label with
  | nil =>
    have space : splitAtMark (' ' :: rest) = none :=
      splitAtMark_append_of_no_colon [' '] rest (by simp) unmarked
    rw [List.nil_append, splitAtMark, space]
  | cons c others ih =>
    rw [List.cons_append]
    unfold splitAtMark
    rw [ih]

theorem Row.splitAtMark_text (row : Row) : splitAtMark row.text = none := by
  have name : splitAtMark row.name.toList = none := splitAtMark_of_no_space row.name.toList
    (not_mem_of_isBlank row.name.toList ' ' row.solid Text.isBlank_space)
  have letter := row.letter_ne ':' (by decide)
  have clear : ':' ∉ row.lead.text ++ [row.letter, ' '] := by
    simp [colon_not_mem_lead, letter.symm]
  -- the name may hold colons, but no space, so no mark begins in it
  have whole : row.text = row.lead.text ++ [row.letter, ' '] ++ row.name.toList := by
    simp [Row.text]
  rw [whole]
  exact splitAtMark_append_of_no_colon _ row.name.toList clear name

/-- A header has no blank, so a line with a space before its last character is none. -/
theorem headerOf?_of_space (first second : List Char) (occupied : second ≠ []) :
    headerOf? (first ++ ' ' :: second) = none := by
  have blank : hasBlank (first ++ ' ' :: second).dropLast = true := by
    rw [List.dropLast_append_of_ne_nil (List.cons_ne_nil ' ' second),
      List.dropLast_cons_of_ne_nil occupied]
    simp [hasBlank, Text.isBlank_space]
  rw [headerOf?, if_neg]
  rintro ⟨-, clear⟩
  rw [blank] at clear
  cases clear

/-! ### Lines that are read back -/

theorem Row.endsSolid_append_text (row : Row) (first : List Char) :
    Text.EndsSolid (first ++ row.text) := by
  have name : Text.EndsSolid row.name.toList := Text.endsSolid_of_forall row.name.toList
    ((hasBlank_eq_false_iff row.name.toList).mp row.solid)
  have whole : first ++ row.text
      = first ++ row.lead.text ++ [row.letter, ' '] ++ row.name.toList := by simp [Row.text]
  rw [whole]
  exact Text.endsSolid_append _ row.name.toList row.occupied name

theorem Row.readLine_text (row : Row) :
    readLine row.text = .symbol none row.linkage row.name.toList := by
  have trimmed : Text.trimEnd row.text = row.text :=
    Text.trimEnd_of_endsSolid row.text (row.endsSolid_append_text [])
  -- even a name that ends in a colon leaves a space in the line
  have notHeader : headerOf? row.text = none := by
    have whole : row.text = row.lead.text ++ [row.letter] ++ ' ' :: row.name.toList := by
      simp [Row.text]
    rw [whole]
    exact headerOf?_of_space _ row.name.toList row.occupied
  simp only [readLine, trimmed, notHeader, splitObject, row.splitAtMark_text,
    row.symbolOfFields?_words]

theorem Row.readLine_labelled (row : Row) (label : List Char) (solid : hasBlank label = false) :
    readLine (label ++ ':' :: ' ' :: row.text)
      = .symbol (some label) row.linkage row.name.toList := by
  have trimmed : Text.trimEnd (label ++ ':' :: ' ' :: row.text)
      = label ++ ':' :: ' ' :: row.text := by
    have whole : label ++ ':' :: ' ' :: row.text = label ++ [':', ' '] ++ row.text := by simp
    rw [whole]
    exact Text.trimEnd_of_endsSolid _ (row.endsSolid_append_text (label ++ [':', ' ']))
  have notHeader : headerOf? (label ++ ':' :: ' ' :: row.text) = none := by
    have whole : label ++ ':' :: ' ' :: row.text = label ++ [':'] ++ ' ' :: row.text := by simp
    rw [whole]
    exact headerOf?_of_space _ row.text (by simp [Row.text])
  simp only [readLine, trimmed, notHeader, splitObject, splitAtMark_append label row.text
    row.splitAtMark_text, solid, Bool.false_eq_true, if_false, row.symbolOfFields?_words]

theorem readLine_header (label : List Char) (solid : hasBlank label = false) :
    readLine (label ++ [':']) = .header label := by
  have colon : Text.EndsSolid [':'] := Text.endsSolid_singleton ':' (by decide)
  have trimmed : Text.trimEnd (label ++ [':']) = label ++ [':'] :=
    Text.trimEnd_of_endsSolid _ (Text.endsSolid_append label [':'] (by simp) colon)
  simp [readLine, trimmed, headerOf?, solid]

/-! ### Groups and listings -/

theorem Row.lineFeed_not_mem_text (row : Row) : '\n' ∉ row.text := by
  have letter := row.letter_ne '\n' (by decide)
  have name := not_mem_of_isBlank row.name.toList '\n' row.solid Text.isBlank_lineFeed
  simp [Row.text, lineFeed_not_mem_lead, letter.symm, name]

/-- The lines of a group stay whole when they are written one under the other. -/
theorem Group.lines_closed (group : Group) (line : List Char) (member : line ∈ group.lines) :
    '\n' ∉ line ∧ Text.EndsSolid line := by
  have label := not_mem_of_isBlank group.label.toList '\n' group.solid Text.isBlank_lineFeed
  cases shape : group.placement with
  | header =>
    simp only [Group.lines, shape, List.mem_cons, List.mem_map] at member
    rcases member with rfl | ⟨row, -, rfl⟩
    · have colon : Text.EndsSolid [':'] := Text.endsSolid_singleton ':' (by decide)
      exact ⟨by simp [label], Text.endsSolid_append group.label.toList [':'] (by simp) colon⟩
    · exact ⟨row.lineFeed_not_mem_text, row.endsSolid_append_text []⟩
  | everyLine =>
    simp only [Group.lines, shape, List.mem_map] at member
    obtain ⟨row, -, rfl⟩ := member
    have ends := row.endsSolid_append_text (group.label.toList ++ [':', ' '])
    rw [List.append_assoc] at ends
    exact ⟨by simp [label, row.lineFeed_not_mem_text], ends⟩

theorem collect_symbols (object : String) (label : Option (List Char)) (rows : List Row) :
    collect object (rows.map fun row => .symbol label row.linkage row.name.toList)
      = rows.map fun row => ⟨(label.map String.ofList).getD object, row.name, row.linkage⟩ := by
  induction rows with
  | nil => rfl
  | cons row rest ih => simp [collect, ih]

/-- What a group says does not depend on the object that held before it. -/
theorem Group.collect_lines (group : Group) (object : String) :
    collect object (group.lines.map readLine) = group.occurrences := by
  cases shape : group.placement with
  | header =>
    -- the header sets the object, and the lines below it have no label of their own
    have read : group.lines.map readLine = .header group.label.toList ::
        group.rows.map fun row => .symbol none row.linkage row.name.toList := by
      simp [Group.lines, shape, readLine_header _ group.solid, Row.readLine_text]
    rw [read, collect, collect_symbols]
    simp [Group.occurrences]
  | everyLine =>
    have read : group.lines.map readLine = group.rows.map fun row =>
        .symbol (some group.label.toList) row.linkage row.name.toList := by
      simp [Group.lines, shape, Row.readLine_labelled _ _ group.solid]
    rw [read, collect_symbols]
    simp [Group.occurrences]

/-- Lines that stay whole are read one by one. -/
theorem read_terminated (lines : List (List Char))
    (closed : ∀ line ∈ lines, '\n' ∉ line ∧ Text.EndsSolid line) :
    read (String.ofList (Text.terminated lines)) = lines.map readLine := by
  rw [read, String.toList_ofList, Text.lines_terminated]
  · exact fun line member => (closed line member).1
  · exact fun line member => (closed line member).2.getLast?_ne_return

theorem read_render (groups : List Group) :
    read (render groups) = (groups.flatMap Group.lines).map readLine := by
  apply read_terminated
  intro line member
  obtain ⟨group, -, own⟩ := List.mem_flatMap.mp member
  exact group.lines_closed line own

theorem collect_lines_groups (object : String) (groups : List Group) :
    collect object ((groups.flatMap Group.lines).map readLine)
      = groups.flatMap Group.occurrences := by
  induction groups generalizing object with
  | nil => rfl
  | cons group rest ih =>
    -- whatever object the group leaves behind, the next one does not read it
    rw [List.flatMap_cons, List.map_append, collect_append, group.collect_lines, ih,
      List.flatMap_cons]

/-- Reading a written listing gives one occurrence for each row, in their order, under
the label of its group; the object that holds at the start does not matter. -/
theorem parse_render (object : String) (groups : List Group) :
    parse object (render groups) = groups.flatMap Group.occurrences := by
  rw [parse, read_render, collect_lines_groups]

/-- Every row is read back once and in its place, with the label of its group, its name
and the linkage that its letter stands for. -/
theorem listing_read_back (object : String) (groups : List Group) :
    (parse object (render groups)).map
        (fun occurrence => (occurrence.object, occurrence.name, some occurrence.linkage))
      = groups.flatMap fun group =>
          group.rows.map fun row => (group.label, row.name, Linkage.ofLetter? row.letter) := by
  rw [parse_render, List.map_flatMap]
  simp only [Group.occurrences, List.map_map, Function.comp_def, Row.ofLetter?_letter]

example : render [
      ⟨"a:", .header, [⟨.blanks [' '] rfl (by decide), 'U', "f:", rfl, by decide, by decide⟩],
        by decide⟩,
      ⟨"", .everyLine, [⟨.address ['0', 'f'] (by decide) rfl, 'T', "g", rfl, by decide, by decide⟩],
        by decide⟩]
    = "a::\n U f:\n: 0f T g\n" := by decide

end LinkContract.Listing
