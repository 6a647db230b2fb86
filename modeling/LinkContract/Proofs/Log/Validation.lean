import LinkContract.Log.Validation
import LinkContract.Proofs.Log.RecordRoundTrip

/-!
# What the validator accepts

A line passes when it holds an object whose members obey the rules of the log and decode to
a record. The rules look at members, but a record is what the members are decoded to, and a
null member is there for the rules and absent for the record. For the identifier and the
category the two views agree; for the symbol they do not.
-/
namespace LinkContract.Log

/-- The members obey the rules of the log. -/
structure Obeys (members : Json.Members) : Prop where
  required : ∀ field ∈ requiredFields, members.has field = true
  level : ∀ text, members.get? "level" = some (.string text) → text ∈ Level.choices.map (·.1)
  outcome : ∀ text, members.get? "outcome" = some (.string text) → text ∈ Outcome.choices.map (·.1)
  category : ∀ text, members.get? "category" = some (.string text) → text ∈ categories
  symbol : members.has "category" = true → members.has "symbol" = true
  traceId : ∀ text, members.get? "trace_id" = some (.string text) → isTraceId text = true

theorem checkString_eq_nil_iff (members : Json.Members) (key : String) (accepts : String → Bool)
    (fault : String → Fault) :
    checkString members key accepts fault = []
      ↔ ∀ text, members.get? key = some (.string text) → accepts text = true := by
  rw [checkString]
  split
  next text found =>
    constructor
    · intro clear other same
      rw [found] at same
      cases same
      split at clear
      next accepted => exact accepted
      next => cases clear
    · intro accepted
      rw [if_pos (accepted text found)]
  next notString => exact ⟨fun _ text found => absurd found (notString text), fun _ => rfl⟩

theorem faultsOf_eq_nil_iff (members : Json.Members) : faultsOf members = [] ↔ Obeys members := by
  simp only [faultsOf, List.append_eq_nil_iff, List.map_eq_nil_iff, List.filter_eq_nil_iff,
    checkString_eq_nil_iff, List.contains_iff_mem, Bool.not_eq_true', Bool.not_eq_false]
  constructor
  · rintro ⟨⟨⟨⟨⟨required, level⟩, outcome⟩, category⟩, symbol⟩, traceId⟩
    refine ⟨required, level, outcome, category, fun present => ?_, traceId⟩
    split at symbol
    next => cases symbol
    next found => simpa [present] using found
  · intro obeys
    refine ⟨⟨⟨⟨⟨obeys.required, obeys.level⟩, obeys.outcome⟩, obeys.category⟩, ?_⟩, obeys.traceId⟩
    rw [if_neg]
    intro alone
    simp only [Bool.and_eq_true, Bool.not_eq_true'] at alone
    rw [obeys.symbol alone.1] at alone
    cases alone.2

theorem readRecord_eq_ok_iff (line : String) (record : Record) :
    readRecord line = .ok record
      ↔ ∃ members, Json.parse? Json.documentDepth line = some (.object members) ∧ Obeys members
        ∧ Record.decode (.object members) = .ok record := by
  constructor
  · intro accepted
    rw [readRecord] at accepted
    split at accepted
    next => cases accepted
    next members read =>
      split at accepted
      next clear =>
        split at accepted
        next decoded found =>
          cases accepted
          exact ⟨members, read, (faultsOf_eq_nil_iff members).mp clear, found⟩
        next => cases accepted
      next => cases accepted
    next => cases accepted
  · rintro ⟨members, read, obeys, decoded⟩
    rw [readRecord, read]
    simp only [(faultsOf_eq_nil_iff members).mpr obeys, decoded]

theorem validateLine_eq_ok_iff (line : String) (number : Nat) (record : Record) :
    validateLine line number = .ok record
      ↔ ∃ members, Json.parse? Json.documentDepth line = some (.object members) ∧ Obeys members
        ∧ Record.decode (.object members) = .ok record := by
  rw [← readRecord_eq_ok_iff, validateLine]
  cases readRecord line <;> simp

/-! ### The fields of an accepted record -/

theorem required_string_eq_ok (members : Json.Members) (key text : String)
    (decoded : members.required key Json.decodeString = .ok text) :
    members.get? key = some (.string text) := by
  rw [Json.Members.required] at decoded
  split at decoded
  next value found =>
    cases value with
    | string other =>
      cases decoded
      exact found
    | _ => cases decoded
  next => cases decoded

theorem optional_string_eq_some_iff (members : Json.Members) (key text : String) :
    members.optional key Json.decodeString = .ok (some text)
      ↔ members.get? key = some (.string text) := by
  rw [Json.Members.optional]
  cases found : members.get? key with
  | none => simp
  | some value =>
    constructor
    · intro decoded
      cases value with
      | string other =>
        cases decoded
        rfl
      | _ => cases decoded
    · rintro ⟨⟩
      rfl

/-- A null reads as absence. -/
theorem optional_string_eq_none_iff (members : Json.Members) (key : String) :
    members.optional key Json.decodeString = .ok none
      ↔ members.get? key = none ∨ members.get? key = some .null := by
  rw [Json.Members.optional]
  cases found : members.get? key with
  | none => simp
  | some value =>
    constructor
    · intro decoded
      cases value with
      | null => exact Or.inr rfl
      | _ => cases decoded
    · rintro (absent | null)
      · cases absent
      · cases null
        rfl

/-- An accepted record has an identifier of three parts and a known category or none. It has
a category but no symbol just when the line gives it a null for its symbol. -/
theorem category_without_symbol_iff_null (line : String) (number : Nat) (record : Record)
    (accepted : validateLine line number = .ok record) :
    (doubleColonParts record.traceId.toList).length = 3
      ∧ (∀ category, record.category = some category → category = "trap" ∨ category = "allocation")
      ∧ (record.category ≠ none ∧ record.symbol = none ↔
          ∃ (members : Json.Members) (category : String),
            Json.parse? Json.documentDepth line = some (.object members)
            ∧ members.get? "category" = some (.string category)
            ∧ members.get? "symbol" = some .null) := by
  obtain ⟨members, read, obeys, decoded⟩ := (validateLine_eq_ok_iff line number record).mp accepted
  obtain ⟨_, fields⟩ := (Record.decode_eq_ok_iff members record).mp decoded
  have category_iff := optional_string_eq_some_iff members "category"
  have symbol_iff := optional_string_eq_none_iff members "symbol"
  rw [fields.category] at category_iff
  rw [fields.symbol, Except.ok.injEq] at symbol_iff
  refine ⟨?_, ?_, ?_⟩
  · have named := obeys.traceId _ (required_string_eq_ok members _ _ fields.traceId)
    exact of_decide_eq_true named
  · intro category present
    have known := obeys.category category ((category_iff category).mp (congrArg _ present))
    simpa [categories, EntryPoint.Category.name] using known
  constructor
  · rintro ⟨present, absent⟩
    obtain ⟨category, same⟩ := Option.ne_none_iff_exists'.mp present
    have found := (category_iff category).mp (congrArg _ same)
    refine ⟨members, category, read, found, ?_⟩
    rcases symbol_iff.mp absent with missing | null
    · -- the rule asks for the member, so it cannot be missing
      have there := obeys.symbol (by simp [Json.Members.has, found])
      simp [Json.Members.has, missing] at there
    · exact null
  · -- a line holds one value, so these are the members that were decoded
    rintro ⟨other, category, readOther, found, null⟩
    rw [read] at readOther
    cases readOther
    have present := Except.ok.inj ((category_iff category).mpr found)
    exact ⟨Option.ne_none_iff_exists'.mpr ⟨category, present⟩, symbol_iff.mpr (Or.inr null)⟩

def nullSymbolLine : String :=
  "\x7b\"timestamp\":\"t\",\"trace_id\":\"a::b::1\",\"level\":\"info\",\"event\":\"e\","
    ++ "\"symbol\":null,\"category\":\"trap\"\x7d"

theorem null_symbol_accepted :
    ∃ record, validateLine nullSymbolLine 1 = .ok record
      ∧ record.category = some "trap" ∧ record.symbol = none
      ∧ ∃ (members : Json.Members) (category : String),
        Json.parse? Json.documentDepth nullSymbolLine = some (.object members)
          ∧ members.get? "category" = some (.string category)
          ∧ members.get? "symbol" = some .null := by
  have seen : (validateLine nullSymbolLine 1).toOption.map
      (fun record => (record.category, record.symbol)) = some (some "trap", none) := by
    decide +kernel
  cases accepted : validateLine nullSymbolLine 1 with
  | error defects =>
    rw [accepted] at seen
    cases seen
  | ok record =>
    rw [accepted] at seen
    obtain ⟨category, symbol⟩ := Prod.mk.inj (Option.some.inj seen)
    have exact := (category_without_symbol_iff_null nullSymbolLine 1 record accepted).2.2
    refine ⟨record, rfl, category, symbol, exact.mp ⟨?_, symbol⟩⟩
    rw [category]
    exact Option.some_ne_none _

/-! ### The line of a record -/

/-- A record that obeys the rules and reads back, if only its identifier is well formed. -/
structure Record.IsRegular (record : Record) : Prop where
  details : record.DetailsReadBack
  category : ∀ category, record.category = some category → category ∈ categories
  symbol : record.category ≠ none → record.symbol ≠ none

theorem Record.has_readMembers (record : Record) (key : String) (value : Option Json)
    (inside : (key, value) ∈ record.fields) : record.readMembers.has key = value.isSome := by
  rw [Json.Members.has, record.get?_readMembers key value inside]

theorem Level.name_mem_choices (level : Level) : level.name ∈ Level.choices.map (·.1) := by
  cases level <;> decide

theorem Outcome.name_mem_choices (outcome : Outcome) :
    outcome.name ∈ Outcome.choices.map (·.1) := by
  cases outcome <;> decide

theorem obeys_readMembers (record : Record) (regular : record.IsRegular)
    (named : isTraceId record.traceId = true) : Obeys record.readMembers where
  required := by
    have there (key text : String) (inside : (key, some (.string text)) ∈ record.fields) :
        record.readMembers.has key = true := record.has_readMembers key _ inside
    simp only [requiredFields, List.forall_mem_cons]
    refine ⟨there _ record.timestamp (by simp [Record.fields]),
      there _ record.traceId (by simp [Record.fields]),
      there _ record.level.name (by simp [Record.fields]),
      there _ record.event (by simp [Record.fields]), List.forall_mem_nil _⟩
  level text found := by
    rw [record.get?_readMembers "level" (some (.string record.level.name))
      (by simp [Record.fields])] at found
    cases found
    exact record.level.name_mem_choices
  outcome text found := by
    rw [record.get?_readMembers "outcome" (record.outcome.map fun outcome => .string outcome.name)
      (by simp [Record.fields]), Option.map_eq_some_iff] at found
    obtain ⟨outcome, _, same⟩ := found
    cases same
    exact outcome.name_mem_choices
  category text found := by
    rw [record.get?_readMembers "category" (record.category.map Json.string)
      (by simp [Record.fields]), Option.map_eq_some_iff] at found
    obtain ⟨category, present, same⟩ := found
    cases same
    exact regular.category _ present
  symbol present := by
    rw [record.has_readMembers "category" (record.category.map Json.string)
      (by simp [Record.fields]), Option.isSome_map, Option.isSome_iff_ne_none] at present
    rw [record.has_readMembers "symbol" (record.symbol.map Json.string) (by simp [Record.fields]),
      Option.isSome_map, Option.isSome_iff_ne_none]
    exact regular.symbol present
  traceId text found := by
    rw [record.get?_readMembers "trace_id" (some (.string record.traceId))
      (by simp [Record.fields])] at found
    cases found
    exact named

theorem validateLine_line (record : Record) (number : Nat) (regular : record.IsRegular)
    (named : isTraceId record.traceId = true) : validateLine record.line number = .ok record :=
  (validateLine_eq_ok_iff record.line number record).mpr ⟨record.readMembers,
    record.parse?_line regular.details, obeys_readMembers record regular named,
    record.decode_readMembers regular.details⟩

/-- A refused line has at least one fault. -/
theorem readRecord_ne_error_nil (line : String) : readRecord line ≠ .error [] := by
  intro refused
  rw [readRecord] at refused
  split at refused
  next => cases refused
  next =>
    split at refused
    next => split at refused <;> cases refused
    next faulty => exact faulty (Except.error.inj refused)
  next => cases refused

theorem defectsOf_eq_nil_iff (line : String) (number : Nat) :
    defectsOf line number = [] ↔ ∃ record, validateLine line number = .ok record := by
  have faulty := readRecord_ne_error_nil line
  rw [defectsOf, validateLine]
  cases shape : readRecord line with
  | ok record => simp
  | error faults =>
    rw [shape] at faulty
    have occupied : faults ≠ [] := fun empty => faulty (by rw [empty])
    simp [occupied]

theorem defectsOf_line_eq_nil_iff (record : Record) (number : Nat) (regular : record.IsRegular) :
    defectsOf record.line number = [] ↔ isTraceId record.traceId = true := by
  rw [defectsOf_eq_nil_iff]
  constructor
  · -- whatever record was accepted, the rule for identifiers held of this line
    rintro ⟨found, accepted⟩
    obtain ⟨members, read, obeys, _⟩ := (validateLine_eq_ok_iff _ _ _).mp accepted
    rw [record.parse?_line regular.details] at read
    cases read
    exact obeys.traceId _
      (record.get?_readMembers "trace_id" (some (.string record.traceId)) (by simp [Record.fields]))
  · exact fun named => ⟨record, validateLine_line record number regular named⟩

end LinkContract.Log
