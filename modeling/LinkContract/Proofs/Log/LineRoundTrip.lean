import LinkContract.Proofs.Log.Framing

/-!
# Lines that give back their records

The line of a record is read again in two ways. A reader of a log takes the record off its
line and asks nothing of it; `readBack_written` says that a text of lines gives back the
records they were made of. The validator asks for the rules of the log as well.

`validateLine_line_eq_ok_iff` says which records survive the validator when their details are
tidy: it hands them back unchanged just when the record itself obeys the rules, and its details
are not a null, which stands for no details.
-/
namespace LinkContract.Log

/-! ### Reading without validation -/

/-- The record on a line, whatever the rules of the log say of it. -/
def Record.ofLine? (line : List Char) : Option Record :=
  (Json.parse? Json.documentDepth (String.ofList line)).bind fun value =>
    (Record.decode value).toOption

theorem Record.ofLine?_line (record : Record) (back : record.DetailsReadBack) :
    Record.ofLine? record.line.toList = some record := by
  rw [ofLine?, String.ofList_toList, record.parse?_line back, Option.bind_some,
    record.decode_readMembers back]
  rfl

/-- The records on the lines of a text, in their order. -/
def readBack (text : String) : List (Option Record) :=
  (Text.lines text.toList).map Record.ofLine?

theorem readBack_written (records : List Record)
    (back : ∀ record ∈ records, record.DetailsReadBack) :
    readBack (String.ofList (written records)) = records.map some := by
  rw [readBack, String.toList_ofList, lines_written, List.map_map]
  exact List.map_congr_left fun record inside => record.ofLine?_line (back record inside)

/-! ### Reading with validation -/

/-- Nothing is decoded to a null: a null member stands for no details. -/
theorem Record.details_ne_null_of_decode (members : Json.Members) (record : Record)
    (decoded : Record.decode (.object members) = .ok record) : record.details ≠ some .null := by
  intro null
  have details := ((Record.decode_eq_ok_iff members record).mp decoded).2.details
  rw [null, Json.Members.optional] at details
  -- details that are read come from a member, which is not a null
  cases found : members.get? "details" with
  | none =>
    rw [found] at details
    cases details
  | some value =>
    rw [found] at details
    cases value <;> cases details

theorem fields_of_obeys (record : Record) (obeys : Obeys record.readMembers) :
    (doubleColonParts record.traceId.toList).length = 3
      ∧ (∀ category, record.category = some category → category ∈ categories)
      ∧ (record.category ≠ none → record.symbol ≠ none) := by
  -- the rules are about members, and the member under the key of a field holds that field
  have found := record.get?_readMembers
  refine ⟨?_, ?_, ?_⟩
  · have named := obeys.traceId record.traceId
      (found "trace_id" (some (.string record.traceId)) (by simp [Record.fields]))
    exact of_decide_eq_true named
  · intro category present
    apply obeys.category category
    rw [found "category" (record.category.map Json.string) (by simp [Record.fields]), present]
    rfl
  · intro present
    have there := obeys.symbol
    rw [record.has_readMembers "category" (record.category.map Json.string)
        (by simp [Record.fields]),
      record.has_readMembers "symbol" (record.symbol.map Json.string) (by simp [Record.fields]),
      Option.isSome_map, Option.isSome_map, Option.isSome_iff_ne_none,
      Option.isSome_iff_ne_none] at there
    exact there present

theorem mem_categories_iff (category : String) :
    category ∈ categories ↔ category = "trap" ∨ category = "allocation" := by
  simp [categories, EntryPoint.Category.name]

/-- A record with tidy details comes back from its own line just when its identifier has three
parts, its category is known and stands beside a symbol, and its details are not a null. -/
theorem validateLine_line_eq_ok_iff (record : Record) (number : Nat)
    (tidy : ∀ details, record.details = some details → Json.Tidy 126 details) :
    validateLine record.line number = .ok record
      ↔ (doubleColonParts record.traceId.toList).length = 3
        ∧ (∀ category, record.category = some category → category = "trap" ∨ category = "allocation")
        ∧ (record.category ≠ none → record.symbol ≠ none)
        ∧ record.details ≠ some .null := by
  have back (notNull : record.details ≠ some .null) : record.DetailsReadBack := by
    intro details present
    refine ⟨Json.isPlain_of_tidy 126 details (tidy details present), ?_⟩
    rintro rfl
    exact notNull present
  simp only [← mem_categories_iff]
  constructor
  · intro accepted
    obtain ⟨members, read, obeys, decoded⟩ := (validateLine_eq_ok_iff _ _ _).mp accepted
    have notNull := Record.details_ne_null_of_decode members record decoded
    -- the line holds the members of the record itself, so the rules speak of its own fields
    rw [record.parse?_line (back notNull)] at read
    cases read
    obtain ⟨named, category, symbol⟩ := fields_of_obeys record obeys
    exact ⟨named, category, symbol, notNull⟩
  · rintro ⟨named, category, symbol, notNull⟩
    exact validateLine_line record number ⟨back notNull, category, symbol⟩ (decide_eq_true named)

/-- Details as deep as they may be, integers at both ends of their range, characters that have
to be escaped, and an identifier with three colons in a row. -/
theorem deep_record_survives :
    let record : Record :=
      { timestamp := "", traceId := "a:::b::1", level := .fatal, event := "x\r\n\"\\\x00\x1f\u03c0"
        symbol := some "_Znwm", category := some "allocation", outcome := some .skip
        durationMs := some 18446744073709551615, artifactRefs := some []
        details := some (Json.nest (.object [("", .integer (-9223372036854775808)),
          ("\n", .integer 18446744073709551615), ("\u03c0", .null)]) 125) }
    (∀ details, record.details = some details → Json.Tidy 126 details)
      ∧ validateLine record.line 7 = .ok record := by
  intro record
  have tidy : ∀ details, record.details = some details → Json.Tidy 126 details := by
    rintro details ⟨⟩
    apply Json.tidy_nest 1 125
    refine Json.Tidy.object _ (by decide) ?_
    simp only [List.forall_mem_cons]
    exact ⟨.integer _ (by decide) (by decide), .integer _ (by decide) (by decide), .null,
      List.forall_mem_nil _⟩
  refine ⟨tidy, (validateLine_line_eq_ok_iff record 7 tidy).mpr ⟨by decide, ?_, ?_, ?_⟩⟩
  · rintro category ⟨⟩
    exact Or.inr rfl
  · exact fun _ => Option.some_ne_none _
  · rintro ⟨⟩

end LinkContract.Log
