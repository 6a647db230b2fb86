import LinkContract.Proofs.Listing.Cuts
import LinkContract.Proofs.Listing.Rendering
import LinkContract.Proofs.Text.Pieces

/-!
# Listings in normal form

Whatever a text holds, the lines that are accepted in it are sound: a label has no blank and a
name is a word. So what was read can be written down plainly, one line for each occurrence with
its object in front, and reading it again changes nothing.

Only the object given from outside may hold a blank. It is not read from a line, and with a blank
in it no line could carry it.
-/
namespace LinkContract.Listing

/-! ### Sound lines -/

/-- A label has no blank and a name is a word. -/
def Line.IsSound : Line → Prop
  | .skipped => True
  | .header label => hasBlank label = false
  | .symbol label _ name => (∀ own, label = some own → hasBlank own = false) ∧ Text.IsWord name

theorem mem_of_symbolOfFields? {fields : List (List Char)} {linkage : Linkage} {name : List Char}
    (found : symbolOfFields? fields = some (linkage, name)) : name ∈ fields := by
  -- two fields or three, the name is the last of them
  unfold symbolOfFields? at found
  split at found
  next letter last =>
    obtain ⟨_, _, same⟩ := Option.map_eq_some_iff.mp found
    cases same
    simp
  next address letter last =>
    split at found
    next =>
      obtain ⟨_, _, same⟩ := Option.map_eq_some_iff.mp found
      cases same
      simp
    next => cases found
  next => cases found

theorem solid_of_splitObject {line label body : List Char}
    (found : splitObject line = (some label, body)) : hasBlank label = false := by
  rw [splitObject] at found
  split at found
  next object rest _ =>
    -- a label with a blank is no label, and the line is taken as a whole
    by_cases blank : hasBlank object = true
    · rw [if_pos blank] at found
      cases found
    · rw [if_neg blank] at found
      cases found
      exact Bool.eq_false_iff.mpr blank
  next => cases found

/-- Every way to accept a line leads through the words of its body. -/
theorem isSound_readLine (raw : List Char) : (readLine raw).IsSound := by
  rw [readLine]
  split
  next label header => exact ((headerOf?_eq_some_iff _ label).mp header).2
  next =>
    split
    next label body parted =>
      -- what is no header is a symbol line, or it says nothing
      split
      next linkage name found =>
        refine ⟨?_, Text.isWord_of_mem_words (mem_of_symbolOfFields? found)⟩
        rintro own rfl
        exact solid_of_splitObject parted
      next => trivial

/-! ### Sound occurrences -/

/-- The name is a word, and the object was given or has no blank. -/
structure IsSoundUnder (object : String) (occurrence : Occurrence) : Prop where
  name : Text.IsWord occurrence.name.toList
  object : occurrence.object = object ∨ hasBlank occurrence.object.toList = false

/-- By induction on the lines: behind a header the object that holds is one without a blank. -/
theorem isSoundUnder_of_mem_collect (lines : List Line) (sound : ∀ line ∈ lines, line.IsSound)
    (object : String) : ∀ occurrence ∈ collect object lines, IsSoundUnder object occurrence := by
  induction lines generalizing object with
  | nil => exact List.forall_mem_nil _
  | cons line rest ih =>
    obtain ⟨first, others⟩ := List.forall_mem_cons.mp sound
    cases line with
    | skipped => exact ih others object
    | header label =>
      intro occurrence member
      have below := ih others (String.ofList label) occurrence member
      refine ⟨below.name, Or.inr ?_⟩
      rcases below.object with same | solid
      · -- the object that the header set is its label
        rw [same, String.toList_ofList]
        exact first
      · exact solid
    | symbol label linkage name =>
      rw [collect, List.forall_mem_cons]
      refine ⟨⟨by rw [String.toList_ofList]; exact first.2, ?_⟩, ih others object⟩
      cases label with
      | none => exact Or.inl rfl
      | some own =>
        right
        rw [Option.map_some, Option.getD_some, String.toList_ofList]
        exact first.1 own rfl

theorem isSoundUnder_of_mem_parse (object text : String) :
    ∀ occurrence ∈ parse object text, IsSoundUnder object occurrence := by
  apply isSoundUnder_of_mem_collect
  intro line member
  obtain ⟨raw, _, rfl⟩ := List.mem_map.mp member
  exact isSound_readLine raw

/-! ### Plain lines -/

theorem isAlpha_of_ofLetter? {letter : Char} {linkage : Linkage}
    (spelled : Linkage.ofLetter? letter = some linkage) : letter.isAlpha = true := by
  -- the letters with a meaning of their own come first, then all others by their case
  rw [Linkage.ofLetter?] at spelled
  split at spelled
  next same => rw [same]; rfl
  split at spelled
  next weak => rcases weak with same | same <;> rw [same] <;> rfl
  split at spelled
  next weak => rcases weak with same | same <;> rw [same] <;> rfl
  split at spelled
  next upper => exact Bool.or_eq_true_iff.mpr (Or.inl upper)
  split at spelled
  next lower => exact Bool.or_eq_true_iff.mpr (Or.inr lower)
  next => cases spelled

/-- The occurrence on a line of its own, at address zero, with a letter for its linkage. -/
def plainLine (entry : Occurrence × Char) : List Char :=
  entry.1.object.toList ++ [':', ' ', '0', ' ', entry.2, ' '] ++ entry.1.name.toList

/-- The text with a line for each occurrence. -/
def plain (entries : List (Occurrence × Char)) : String :=
  String.ofList (Text.terminated (entries.map plainLine))

/-- The letter says what the occurrence is, and no blank keeps the line from being read. -/
structure IsPlain (entry : Occurrence × Char) : Prop where
  letter : Linkage.ofLetter? entry.2 = some entry.1.linkage
  name : Text.IsWord entry.1.name.toList
  object : hasBlank entry.1.object.toList = false

section

variable {entry : Occurrence × Char} (shown : IsPlain entry)

/-- A plain line is a row with its label. -/
def IsPlain.row : Row where
  lead := .address ['0'] (by simp) (by decide)
  letter := entry.2
  name := entry.1.name
  isLetter := isAlpha_of_ofLetter? shown.letter
  occupied := shown.name.occupied
  solid := (hasBlank_eq_false_iff _).mpr shown.name.solid

include shown

theorem IsPlain.plainLine_eq :
    plainLine entry = entry.1.object.toList ++ ':' :: ' ' :: shown.row.text := by
  simp [plainLine, Row.text, Lead.text, IsPlain.row]

theorem IsPlain.linkage_row : shown.row.linkage = entry.1.linkage :=
  Option.some.inj (shown.row.ofLetter?_letter.symm.trans shown.letter)

theorem IsPlain.readLine_plainLine :
    readLine (plainLine entry)
      = .symbol (some entry.1.object.toList) entry.1.linkage entry.1.name.toList := by
  rw [shown.plainLine_eq, shown.row.readLine_labelled _ shown.object, shown.linkage_row]
  rfl

theorem IsPlain.plainLine_closed : '\n' ∉ plainLine entry ∧ Text.EndsSolid (plainLine entry) := by
  have label := not_mem_of_isBlank _ '\n' shown.object Text.isBlank_lineFeed
  have ends := shown.row.endsSolid_append_text (entry.1.object.toList ++ [':', ' '])
  rw [List.append_assoc] at ends
  rw [shown.plainLine_eq]
  exact ⟨by simp [label, shown.row.lineFeed_not_mem_text], ends⟩

end

theorem parse_plain (entries : List (Occurrence × Char)) (shown : ∀ entry ∈ entries, IsPlain entry)
    (object : String) : parse object (plain entries) = entries.map Prod.fst := by
  rw [parse, plain, read_terminated]
  · induction entries with
    | nil => rfl
    | cons entry rest ih =>
      rw [List.forall_mem_cons] at shown
      -- every line carries its own object, so the one that holds is never asked for
      simp only [List.map_cons, shown.1.readLine_plainLine, collect, ih shown.2, Option.map_some,
        Option.getD_some, String.ofList_toList]
  · intro line member
    obtain ⟨entry, inside, rfl⟩ := List.mem_map.mp member
    exact (shown entry inside).plainLine_closed

/-- Every name that is read is one word, and every object is the one given or has no blank. When
the one given has no blank either, the occurrences can be written with any letters that stand for
their linkages and are read again in their order, whatever object is given then. -/
theorem parsed_occurrences_are_plain (object text : String) :
    (∀ occurrence ∈ parse object text,
        occurrence.name ≠ "" ∧ hasBlank occurrence.name.toList = false
          ∧ (occurrence.object = object ∨ hasBlank occurrence.object.toList = false))
      ∧ (hasBlank object.toList = false → ∀ entries : List (Occurrence × Char),
          entries.map Prod.fst = parse object text →
          (∀ entry ∈ entries, Linkage.ofLetter? entry.2 = some entry.1.linkage) →
          ∀ other : String, parse other (plain entries) = parse object text) := by
  have sound := isSoundUnder_of_mem_parse object text
  constructor
  · intro occurrence member
    obtain ⟨name, place⟩ := sound occurrence member
    refine ⟨?_, (hasBlank_eq_false_iff _).mpr name.solid, place⟩
    intro empty
    exact name.occupied (by rw [empty]; rfl)
  · intro solid entries read letters other
    rw [← read]
    refine parse_plain entries (fun entry inside => ?_) other
    -- nothing is asked of the entries but their letters: the rest was read, so it is sound
    have member : entry.1 ∈ parse object text := read ▸ List.mem_map_of_mem inside
    obtain ⟨name, place⟩ := sound entry.1 member
    refine ⟨letters entry inside, name, ?_⟩
    rcases place with given | own
    · rw [given]
      exact solid
    · exact own

/-- A header behind which a blank stands, a label that is a colon, a name that ends in one, a line
with five words and one whose label has a blank. The letters need not be those that were read. -/
theorem plain_again_after_odd_lines :
    let text := "U a\nx.o:y:\u00a0\n0f W g:\r\n:: d b:\nz z: 0 T f\n\u20030 v h\n: 0 W"
    let entries : List (Occurrence × Char) :=
      [(⟨"d", "a", .undefined⟩, 'U'), (⟨"x.o:y", "g:", .weakDefined⟩, 'V'),
        (⟨":", "b:", .local⟩, 'z'), (⟨"x.o:y", "h", .weakUndefined⟩, 'w')]
    hasBlank "d".toList = false ∧ entries.map Prod.fst = parse "d" text
      ∧ (∀ entry ∈ entries, Linkage.ofLetter? entry.2 = some entry.1.linkage)
      ∧ plain entries = "d: 0 U a\nx.o:y: 0 V g:\n:: 0 z b:\nx.o:y: 0 w h\n"
      ∧ parse "other one" (plain entries) = parse "d" text := by
  intro text entries
  have solid : hasBlank "d".toList = false := by decide
  have read : entries.map Prod.fst = parse "d" text := by decide
  have letters : ∀ entry ∈ entries, Linkage.ofLetter? entry.2 = some entry.1.linkage := by decide
  exact ⟨solid, read, letters, by decide,
    (parsed_occurrences_are_plain "d" text).2 solid entries read letters "other one"⟩

/-- With a blank in the object given, the line is not read as it was meant. -/
example : parse "a b" "U f" = [⟨"a b", "f", .undefined⟩]
    ∧ parse "d" (plain [(⟨"a b", "f", .undefined⟩, 'U')]) = [] := by decide

end LinkContract.Listing
