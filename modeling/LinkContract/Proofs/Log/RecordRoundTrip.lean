import LinkContract.Log.Record
import LinkContract.Proofs.Json.Decoding
import LinkContract.Proofs.Json.RoundTrip

/-!
# Records that read back

A record is written as an object that has a member for every field that is there, and read
again by looking the members up. The keys differ, so putting the members in the order of
their keys changes no look-up, and every field is decoded from what it was encoded to.

Only the details may fail to come back: they hold any value. `ReadsBack` says when they do.
-/
namespace LinkContract.Log

/-- A value that is read as it was written, and not as nothing. The object around it takes
one level of what a document may have. -/
structure ReadsBack (details : Json) : Prop extends
    Json.IsPlain (Json.documentDepth - 1) details where
  notNull : details ≠ .null

/-- The details come back, if there are any. -/
def Record.DetailsReadBack (record : Record) : Prop :=
  ∀ details, record.details = some details → ReadsBack details

/-- The members that are there. -/
def present (fields : List (String × Option Json)) : Json.Members :=
  fields.flatMap fun field => Record.member field.1 id field.2

theorem keys_present_sublist (fields : List (String × Option Json)) :
    ((present fields).map Prod.fst).Sublist (fields.map Prod.fst) := by
  induction fields with
  | nil => exact List.Sublist.slnil
  | cons field rest ih =>
    obtain ⟨key, value⟩ := field
    cases value with
    | none => exact ih.cons key
    | some value => exact ih.cons_cons key

theorem mem_present_iff (fields : List (String × Option Json)) (member : String × Json) :
    member ∈ present fields ↔ (member.1, some member.2) ∈ fields := by
  induction fields with
  | nil => simp [present]
  | cons field rest ih =>
    obtain ⟨key, value⟩ := field
    have split : present ((key, value) :: rest) = Record.member key id value ++ present rest := rfl
    rw [split, List.mem_append, ih, List.mem_cons]
    cases value <;> simp [Record.member, Prod.ext_iff]

theorem get?_present (fields : List (String × Option Json)) (key : String) (value : Option Json)
    (distinct : (fields.map Prod.fst).Nodup) (inside : (key, value) ∈ fields) :
    (present fields).get? key = value := by
  induction fields with
  | nil => cases inside
  | cons field rest ih =>
    obtain ⟨absent, others⟩ := List.nodup_cons.mp distinct
    have split : present (field :: rest) = Record.member field.1 id field.2 ++ present rest := rfl
    rw [split, Json.Members.get?_append]
    rcases List.mem_cons.mp inside with rfl | later
    · -- the field may be absent, and then no later one stands in for it
      have nowhere : (present rest).get? key = none := Json.Members.get?_eq_none _ key
        fun found => absent ((keys_present_sublist rest).subset found)
      rw [nowhere, Option.or_none]
      cases value with
      | none => rfl
      | some value => simp [Record.member, Json.Members.get?_cons]
    · have different : key ≠ field.1 := by
        rintro rfl
        exact absent (List.mem_map.mpr ⟨_, later, rfl⟩)
      have notHere : (Record.member field.1 id field.2).get? key = none := by
        cases field.2 with
        | none => rfl
        | some value => rw [Record.member, Json.Members.get?_cons, if_neg different]; rfl
      rw [notHere, Option.none_or, ih others later]

namespace Record

/-- The fields under their keys, with nothing for the absent ones. -/
def fields (record : Record) : List (String × Option Json) :=
  [("timestamp", some (.string record.timestamp)), ("trace_id", some (.string record.traceId)),
    ("level", some (.string record.level.name)), ("event", some (.string record.event)),
    ("variant", record.variant.map Json.string), ("symbol", record.symbol.map Json.string),
    ("category", record.category.map Json.string), ("object", record.object.map Json.string),
    ("outcome", record.outcome.map fun outcome => .string outcome.name),
    ("duration_ms", record.durationMs.map fun duration => .natural duration.toNat),
    ("artifact_refs", record.artifactRefs.map Json.strings), ("details", record.details)]

theorem member_map {α : Type} (key : String) (encode : α → Json) (value : Option α) :
    member key id (value.map encode) = member key encode value := by
  cases value <;> rfl

theorem members_eq_present (record : Record) : record.members = present record.fields := by
  simp only [members, present, fields, List.flatMap_cons, List.flatMap_nil, member_map,
    List.append_assoc, List.append_nil]
  rfl

theorem keys_fields_nodup (record : Record) : (record.fields.map Prod.fst).Nodup := by
  simp only [fields, List.map_cons, List.map_nil]
  decide

theorem keys_members_nodup (record : Record) : (record.members.map Prod.fst).Nodup := by
  rw [members_eq_present]
  exact record.keys_fields_nodup.sublist (keys_present_sublist record.fields)

/-- The members as they are read: in the order of their keys. -/
def readMembers (record : Record) : Json.Members := Json.Members.ofList record.members

theorem get?_readMembers (record : Record) (key : String) (value : Option Json)
    (inside : (key, value) ∈ record.fields) : record.readMembers.get? key = value := by
  rw [readMembers, Json.Members.get?_ofList _ _ record.keys_members_nodup, members_eq_present]
  exact get?_present _ key value record.keys_fields_nodup inside

/-! ### The text of a record -/

/-- Every member of a record has to be plain one level below the record. -/
abbrev IsPlain : Json → Prop := Json.IsPlain (Json.documentDepth - 1)

theorem isPlain_of_map {α : Type} (encode : α → Json) (each : ∀ value, IsPlain (encode value))
    (value : Option α) : ∀ encoded, value.map encode = some encoded → IsPlain encoded := by
  intro encoded same
  obtain ⟨inner, _, rfl⟩ := Option.map_eq_some_iff.mp same
  exact each inner

/-- A field that is always there needs to be looked at once. -/
theorem forall_of_some (holds : Json → Prop) (value : Json) (here : holds value) :
    ∀ encoded, some value = some encoded → holds encoded := by
  rintro encoded ⟨⟩
  exact here

theorem isPlain_fields (record : Record)
    (back : record.DetailsReadBack) :
    ∀ field ∈ record.fields, ∀ value, field.2 = some value → IsPlain value := by
  simp only [fields, List.forall_mem_cons]
  have text (text : String) : IsPlain (.string text) := Json.isPlain_string _ text
  refine ⟨forall_of_some _ _ (text _), forall_of_some _ _ (text _), forall_of_some _ _ (text _),
    forall_of_some _ _ (text _), isPlain_of_map _ text _, isPlain_of_map _ text _,
    isPlain_of_map _ text _, isPlain_of_map _ text _,
    isPlain_of_map _ (fun outcome : Outcome => text outcome.name) _,
    isPlain_of_map _ (fun duration : UInt64 => Json.isPlain_natural _ _ duration.toNat_lt_size) _,
    isPlain_of_map _ (Json.isPlain_strings _) _, fun value same => (back value same).toIsPlain,
    List.forall_mem_nil _⟩

theorem isPlain_members (record : Record)
    (back : record.DetailsReadBack) :
    ∀ member ∈ record.members, IsPlain member.2 := by
  intro member inside
  rw [members_eq_present, mem_present_iff] at inside
  exact record.isPlain_fields back _ inside member.2 rfl

theorem parse?_line (record : Record)
    (back : record.DetailsReadBack) :
    Json.parse? Json.documentDepth record.line = some (.object record.readMembers) := by
  have plain := record.isPlain_members back
  have readable : Json.Readable Json.documentDepth record.toJson :=
    Json.Readable.object _ fun member inside => (plain member inside).readable
  rw [line, Json.compact, Json.parse?_render _ Json.Layout.isSpaced_compact _ _ readable, toJson,
    Json.normal, Json.map_normal_members _ _ plain, readMembers]

/-! ### Decoding -/

theorem decodeLevel_name (level : Level) : decodeLevel (.string level.name) = .ok level := by
  cases level <;> rfl

theorem decodeOutcome_name (outcome : Outcome) :
    decodeOutcome (.string outcome.name) = .ok outcome := by
  cases outcome <;> rfl

theorem decodeWord64_natural (number : UInt64) :
    Json.decodeWord64 (.natural number.toNat) = .ok number := by
  rw [Json.decodeWord64, Json.decodeNatural_natural _ _ _ number.toNat_lt_size]
  simp [Except.map]

theorem decodeStrings_strings (texts : List String) :
    decodeStrings (Json.strings texts) = .ok texts := by
  rw [decodeStrings, Json.strings, Json.decodeList]
  induction texts with
  | nil => rfl
  | cons text rest ih =>
    rw [List.map_cons, List.mapM_cons, ih]
    rfl

/-- Each member passes the check of the field it was encoded from. -/
theorem checkMember_fields (record : Record)
    (back : record.DetailsReadBack) :
    ∀ field ∈ record.fields, ∀ value, field.2 = some value →
      schema.checkMember field.1 value = .ok () := by
  have text (key : String) (value : Option String)
      (declared : schema.fields.find? (fun field => field.key == key)
        = some (.of key (Json.decodeOptional Json.decodeString))) :=
    schema.checkMember_of_optional key Json.decodeString Json.string value declared
      (fun _ _ => rfl) (fun _ _ => Json.noConfusion)
  -- details pass any check; they only must not be taken for nothing
  have details := schema.checkMember_of_optional "details" Except.ok id record.details rfl
    (fun _ _ => rfl) (fun details same => (back details same).notNull)
  rw [Option.map_id_fun, id] at details
  simp only [fields, List.forall_mem_cons]
  refine ⟨forall_of_some _ _ rfl, forall_of_some _ _ rfl,
    forall_of_some _ _ (schema.checkMember_of_decode _ _ _ _ rfl (decodeLevel_name _)),
    forall_of_some _ _ rfl, text _ _ rfl, text _ _ rfl, text _ _ rfl, text _ _ rfl, ?_, ?_, ?_,
    details, List.forall_mem_nil _⟩
  · exact schema.checkMember_of_optional _ decodeOutcome _ _ rfl
      (fun outcome _ => decodeOutcome_name outcome) (fun _ _ => Json.noConfusion)
  · exact schema.checkMember_of_optional _ Json.decodeWord64 _ _ rfl
      (fun duration _ => decodeWord64_natural duration) (fun _ _ => Json.noConfusion)
  · exact schema.checkMember_of_optional _ decodeStrings _ _ rfl
      (fun texts _ => decodeStrings_strings texts) (fun _ _ => Json.noConfusion)

/-- Every field of the record is what the members say. -/
structure IsReadFrom (record : Record) (members : Json.Members) : Prop where
  timestamp : members.required "timestamp" Json.decodeString = .ok record.timestamp
  traceId : members.required "trace_id" Json.decodeString = .ok record.traceId
  level : members.required "level" decodeLevel = .ok record.level
  event : members.required "event" Json.decodeString = .ok record.event
  variant : members.optional "variant" Json.decodeString = .ok record.variant
  symbol : members.optional "symbol" Json.decodeString = .ok record.symbol
  category : members.optional "category" Json.decodeString = .ok record.category
  object : members.optional "object" Json.decodeString = .ok record.object
  outcome : members.optional "outcome" decodeOutcome = .ok record.outcome
  durationMs : members.optional "duration_ms" Json.decodeWord64 = .ok record.durationMs
  artifactRefs : members.optional "artifact_refs" decodeStrings = .ok record.artifactRefs
  details : members.optional "details" Except.ok = .ok record.details

theorem decode_eq_ok_iff (members : Json.Members) (record : Record) :
    decode (.object members) = .ok record
      ↔ schema.members (.object members) = .ok members ∧ record.IsReadFrom members := by
  constructor
  · intro decoded
    simp only [decode, Json.bind_eq_ok_iff] at decoded
    obtain ⟨accepted, checked, _, timestamp, _, traceId, _, level, _, event, _, variant, _, symbol,
      _, category, _, object, _, outcome, _, durationMs, _, artifactRefs, _, details, same⟩ :=
        decoded
    obtain rfl : members = accepted := schema.members_object_eq_ok members accepted checked
    cases same
    exact ⟨checked, ⟨timestamp, traceId, level, event, variant, symbol, category, object, outcome,
      durationMs, artifactRefs, details⟩⟩
  · rintro ⟨checked, read⟩
    rw [decode, checked]
    simp only [Json.ok_bind, read.timestamp, read.traceId, read.level, read.event, read.variant,
      read.symbol, read.category, read.object, read.outcome, read.durationMs, read.artifactRefs,
      read.details]

theorem isReadFrom_readMembers (record : Record)
    (back : record.DetailsReadBack) :
    record.IsReadFrom record.readMembers := by
  have found := record.get?_readMembers
  have text (key : String) (value : Option String)
      (inside : (key, value.map Json.string) ∈ record.fields) :
      record.readMembers.optional key Json.decodeString = .ok value :=
    Json.Members.optional_of_get? _ _ _ Json.string value (found _ _ inside)
      (fun _ _ => rfl) (fun _ _ => Json.noConfusion)
  exact {
    timestamp := Json.Members.required_of_get? _ _ _ (.string record.timestamp) _
      (found _ _ (by simp [fields])) rfl
    traceId := Json.Members.required_of_get? _ _ _ (.string record.traceId) _
      (found _ _ (by simp [fields])) rfl
    level := Json.Members.required_of_get? _ _ _ (.string record.level.name) _
      (found _ _ (by simp [fields])) (decodeLevel_name _)
    event := Json.Members.required_of_get? _ _ _ (.string record.event) _
      (found _ _ (by simp [fields])) rfl
    variant := text _ _ (by simp [fields])
    symbol := text _ _ (by simp [fields])
    category := text _ _ (by simp [fields])
    object := text _ _ (by simp [fields])
    outcome := Json.Members.optional_of_get? _ _ _ (fun outcome => .string outcome.name) _
      (found _ _ (by simp [fields])) (fun outcome _ => decodeOutcome_name outcome)
      (fun _ _ => Json.noConfusion)
    durationMs := Json.Members.optional_of_get? _ _ Json.decodeWord64
      (fun duration => .natural duration.toNat) record.durationMs (found _ _ (by simp [fields]))
      (fun duration _ => decodeWord64_natural duration) (fun _ _ => Json.noConfusion)
    artifactRefs := Json.Members.optional_of_get? _ _ _ Json.strings _
      (found _ _ (by simp [fields])) (fun texts _ => decodeStrings_strings texts)
      (fun _ _ => Json.noConfusion)
    details := Json.Members.optional_of_get? _ _ _ id _
      (by rw [Option.map_id_fun]; exact found _ _ (by simp [fields])) (fun _ _ => rfl)
      (fun value same => (back value same).notNull) }

/-- Every field is found under its key and decoded from what it was encoded to. -/
theorem decode_readMembers (record : Record)
    (back : record.DetailsReadBack) :
    decode (.object record.readMembers) = .ok record := by
  refine (decode_eq_ok_iff _ record).mpr ⟨?_, record.isReadFrom_readMembers back⟩
  refine schema.members_of_forall _ fun member inside => ?_
  -- what is read was written, so it comes from a field
  have written := Json.Members.mem_of_mem_ofList _ _ inside
  rw [members_eq_present, mem_present_iff] at written
  exact record.checkMember_fields back _ written member.2 rfl

end Record

end LinkContract.Log
