import LinkContract.Proofs.Audit.Clashes
import LinkContract.Proofs.Audit.Log
import LinkContract.Proofs.Log.LineRoundTrip
import Mathlib.Data.List.Forall2

/-!
# What the log of an audit tells

The log of a successful audit is read back line by line. It has one record for every finding
of the summary, in a fixed order of kinds, and a last one with the verdict and the counts.

A record of a finding names objects. Which objects a finding involves is said here by what the
listings hold (`Finding.Involves`), and `Reports` says that a record names the first of them
and lists all of them when there are several. The main step is that the list from which a
record is made holds exactly the objects involved, in the order of their bytes, and that only
a missing name involves none.
-/
namespace LinkContract.Audit

open EntryPoint Text

/-! ### Findings and their objects -/

/-- One finding, which is one record of the log. -/
inductive Finding where
  | unresolved (name : String)
  | duplicate (clash : Clash)
  | unsupported (name : String)
  | missing (name : String)
  | stray (name : String)

namespace Finding

def event : Finding → String
  | .unresolved _ => "unresolved_symbol"
  | .duplicate _ => "duplicate_symbol"
  | .unsupported _ => "unsupported_runtime_symbol"
  | .missing _ => "missing_required_symbol"
  | .stray _ => "stray_symbol"

def name : Finding → String
  | .unresolved name | .unsupported name | .missing name | .stray name => name
  | .duplicate clash => clash.name

def level : Finding → Log.Level
  | .stray _ => .warn
  | _ => .error

def outcome : Finding → Log.Outcome
  | .stray _ => .warn
  | _ => .fail

/-- The finding is about something in the object with this label. -/
def Involves (application library : List Occurrence) : Finding → String → Prop
  | .unresolved name, label | .unsupported name, label =>
    ∃ occurrence ∈ application, occurrence.name = name ∧ occurrence.linkage = .undefined
      ∧ occurrence.object = label
  | .duplicate clash, label => label ∈ clash.objects
  | .missing _, _ => False
  | .stray name, label =>
    ∃ occurrence ∈ library, occurrence.name = name
      ∧ (occurrence.linkage = .defined ∨ occurrence.linkage = .weakDefined)
      ∧ occurrence.object = label

/-- The labels from which the record of a finding is made. -/
def objects (application library : List Occurrence) : Finding → List String
  | .unresolved name | .unsupported name => referencing application name
  | .duplicate clash => clash.objects
  | .missing _ => []
  | .stray name => defining library name

end Finding

/-- All findings in the order of the log. -/
def Findings.inOrder (findings : Findings) : List Finding :=
  findings.unresolved.map .unresolved ++ findings.clashes.map .duplicate
    ++ findings.unsupported.map .unsupported ++ findings.missing.map .missing
    ++ findings.stray.map .stray

/-- The finding is one of those in its list. -/
def Findings.Has (findings : Findings) : Finding → Prop
  | .unresolved name => name ∈ findings.unresolved
  | .duplicate clash => clash ∈ findings.clashes
  | .unsupported name => name ∈ findings.unsupported
  | .missing name => name ∈ findings.missing
  | .stray name => name ∈ findings.stray

theorem mem_inOrder_iff (findings : Findings) (finding : Finding) :
    finding ∈ findings.inOrder ↔ findings.Has finding := by
  cases finding <;> simp [Findings.inOrder, Findings.Has]

def Finding.draft (variant : Variant) (application library : List Occurrence) (finding : Finding) :
    Draft :=
  findingRecord variant finding.level finding.event finding.name
    (finding.objects application library) finding.outcome

theorem findingDrafts_eq (variant : Variant) (application library : List Occurrence)
    (findings : Findings) :
    findingDrafts variant application library findings
      = findings.inOrder.map (Finding.draft variant application library) := by
  simp only [findingDrafts, Findings.inOrder, List.map_append, List.map_map]
  rfl

theorem mem_stray (application library : List Occurrence) (variant : Variant) (name : String)
    (inside : name ∈ (findings application library variant).stray) : Defined library name := by
  simp only [findings, catalogNames, Names.mem_sorted, List.mem_map, List.mem_filter,
    Bool.and_eq_true] at inside
  obtain ⟨entry, ⟨_, _, provided⟩, rfl⟩ := inside
  exact (defines_iff _ _).mp provided

theorem mem_objects_iff (application library : List Occurrence) (finding : Finding)
    (label : String) :
    label ∈ finding.objects application library ↔ finding.Involves application library label := by
  cases finding with
  | unresolved name | unsupported name =>
    simp only [Finding.objects, Finding.Involves, referencing, mem_objectsListing_iff,
      decide_eq_true_eq]
  | duplicate clash => rfl
  | missing name => simp only [Finding.objects, Finding.Involves, List.not_mem_nil]
  | stray name =>
    simp only [Finding.objects, Finding.Involves, defining, mem_objectsListing_iff, isDefinition_iff]

theorem increasing_objects (application library : List Occurrence) (variant : Variant)
    (finding : Finding) (inside : finding ∈ (findings application library variant).inOrder) :
    (finding.objects application library).Pairwise (· < ·) := by
  cases finding with
  | unresolved name | unsupported name | stray name => exact Names.pairwise_sorted _
  | missing name => exact List.Pairwise.nil
  | duplicate clash =>
    exact increasing_objects_of_clash ((mem_inOrder_iff _ _).mp inside)

/-- Only a missing name is about something that no object holds. -/
theorem exists_involved (application library : List Occurrence) (variant : Variant)
    (finding : Finding) (inside : finding ∈ (findings application library variant).inOrder)
    (held : ∀ name, finding ≠ .missing name) :
    ∃ label, finding.Involves application library label := by
  have among := (mem_inOrder_iff _ finding).mp inside
  cases finding with
  | unresolved name =>
    -- the reference that makes the name a finding stands in some object
    obtain ⟨⟨⟨occurrence, member, same, refers⟩, _⟩, _⟩ :=
      (mem_unresolved_iff application library variant name).mp among
    exact ⟨occurrence.object, occurrence, member, same, refers, rfl⟩
  | unsupported name =>
    obtain ⟨⟨⟨occurrence, member, same, refers⟩, _⟩, _⟩ :=
      (mem_unsupported_iff application library variant name).mp among
    exact ⟨occurrence.object, occurrence, member, same, refers, rfl⟩
  | stray name =>
    obtain ⟨occurrence, member, same, defined⟩ := mem_stray application library variant name among
    exact ⟨occurrence.object, occurrence, member, same, defined, rfl⟩
  | duplicate clash => exact exists_object_of_clash among
  | missing name => exact absurd rfl (held name)

theorem objects_eq_nil_iff (application library : List Occurrence) (variant : Variant)
    (finding : Finding) (inside : finding ∈ (findings application library variant).inOrder) :
    finding.objects application library = [] ↔ ∃ name, finding = .missing name := by
  constructor
  · intro empty
    by_contra held
    obtain ⟨label, involved⟩ := exists_involved application library variant finding inside
      fun name same => held ⟨name, same⟩
    have listed := (mem_objects_iff application library finding label).mpr involved
    rw [empty] at listed
    cases listed
  · rintro ⟨name, rfl⟩
    rfl

/-! ### What a record says -/

/-- The record stands under the first label that has a property, if any has it. When several
have it, the details are the list of all of them, and otherwise there are no details. -/
structure NamesObjects (involved : String → Prop) (record : Log.Record) : Prop where
  first : ∀ label, record.object = some label
    ↔ involved label ∧ ∀ other, involved other → other = label ∨ BytesBefore label other
  several : record.details ≠ none
    ↔ ∃ label other, involved label ∧ involved other ∧ label ≠ other
  listed : ∀ details, record.details = some details →
    ∃ labels, details = .object [("objects", Json.strings labels)]
      ∧ labels.Pairwise BytesBefore ∧ ∀ label, label ∈ labels ↔ involved label

theorem head?_eq_some_iff_first (labels : List String) (increasing : labels.Pairwise (· < ·))
    (label : String) :
    labels.head? = some label
      ↔ label ∈ labels ∧ ∀ other ∈ labels, other = label ∨ BytesBefore label other := by
  cases labels with
  | nil => simp
  | cons least rest =>
    obtain ⟨before, _⟩ := List.pairwise_cons.mp increasing
    rw [List.head?_cons, Option.some.injEq]
    constructor
    · rintro rfl
      refine ⟨List.mem_cons_self, fun other inside => ?_⟩
      rcases List.mem_cons.mp inside with same | later
      · exact Or.inl same
      · exact Or.inr (bytesBefore_of_lt _ _ (before other later))
    · rintro ⟨inside, first⟩
      rcases first least List.mem_cons_self with same | smaller
      · exact same
      · -- then the label would stand before the first one of the list
        rcases List.mem_cons.mp inside with same | later
        · exact same.symm
        · have order := (bytesBefore_iff label least).mp smaller
          exact absurd (before label later) (String.lt_asymm order)

theorem one_lt_length_iff (labels : List String) (increasing : labels.Pairwise (· < ·)) :
    1 < labels.length ↔ ∃ label other, label ∈ labels ∧ other ∈ labels ∧ label ≠ other := by
  cases labels with
  | nil => simp
  | cons first rest =>
    cases rest with
    | nil =>
      simp only [List.length_singleton, Nat.lt_irrefl, List.mem_singleton, false_iff]
      rintro ⟨label, other, rfl, rfl, different⟩
      exact different rfl
    | cons second others =>
      -- the first two of an increasing list differ, so there are two members in any case
      have before : first < second :=
        (List.pairwise_cons.mp increasing).1 second List.mem_cons_self
      refine ⟨fun _ => ⟨first, second, List.mem_cons_self, ?_, ?_⟩, fun _ => ?_⟩
      · exact List.mem_cons_of_mem _ List.mem_cons_self
      · rintro rfl
        exact String.lt_irrefl _ before
      · simp only [List.length_cons]
        omega

theorem namesObjects_of_list (involved : String → Prop) (labels : List String)
    (record : Log.Record) (increasing : labels.Pairwise (· < ·))
    (holds : ∀ label, label ∈ labels ↔ involved label) (object : record.object = labels.head?)
    (details : record.details = if 1 < labels.length
      then some (.object [("objects", Json.strings labels)]) else none) :
    NamesObjects involved record where
  first label := by
    rw [object, head?_eq_some_iff_first labels increasing]
    simp only [holds]
  several := by
    -- both sides say that the list has more than one member
    simp only [← holds]
    rw [← one_lt_length_iff labels increasing, details]
    split
    next many => exact ⟨fun _ => many, fun _ => Option.some_ne_none _⟩
    next few => exact ⟨fun there => absurd rfl there, fun many => absurd many few⟩
  listed found present := by
    rw [details] at present
    split at present
    next =>
      cases present
      exact ⟨labels, rfl, increasing.imp fun {_ _} before => bytesBefore_of_lt _ _ before, holds⟩
    next => cases present

/-- The record is about the finding, and says of it what the listings say. -/
structure Reports (variant : Variant) (application library : List Occurrence) (finding : Finding)
    (record : Log.Record) : Prop where
  event : record.event = finding.event
  symbol : record.symbol = some finding.name
  level : record.level = finding.level
  outcome : record.outcome = some finding.outcome
  title : record.variant = some variant.title
  category : record.category ≠ none ↔ IsLinkName variant.size finding.name
  objects : NamesObjects (finding.Involves application library) record
  unplaced : record.object = none ↔ ∃ name, finding = .missing name
  firstCopy : ∀ clash, finding = .duplicate clash → record.object = clash.objects.head?

theorem reports_draft (variant : Variant) (application library : List Occurrence)
    (finding : Finding) (inside : finding ∈ (findings application library variant).inOrder)
    (now : Time.Instant) (traceId : String) :
    Reports variant application library finding
      { finding.draft variant application library now with traceId } where
  event := rfl
  symbol := rfl
  level := rfl
  outcome := rfl
  title := rfl
  category := by
    rw [← ofLinkName?_isSome_iff_isLinkName, ← Option.isSome_iff_ne_none, Finding.draft,
      findingRecord, Option.isSome_map]
  objects := namesObjects_of_list _ (finding.objects application library) _
    (increasing_objects application library variant finding inside)
    (mem_objects_iff application library finding) rfl rfl
  unplaced := by
    rw [← objects_eq_nil_iff application library variant finding inside]
    exact List.head?_eq_none_iff
  firstCopy := by
    rintro clash rfl
    rfl

/-- How many findings there are of each kind, under the names of the kinds. -/
def Findings.counts (findings : Findings) : List (String × Nat) :=
  [("unresolved", findings.unresolved.length), ("duplicates", findings.clashes.length),
    ("unsupported", findings.unsupported.length), ("stray", findings.stray.length),
    ("missing_required", findings.missing.length)]

/-- The record gives the verdict and the counts, which are words of 64 bits. -/
structure Concludes (summary : Summary) (record : Log.Record) : Prop where
  event : record.event = "audit_complete"
  symbol : record.symbol = none
  category : record.category = none
  object : record.object = none
  outcome : record.outcome = some (if summary.clean then .pass else .fail)
  counts : ∃ members : Json.Members, record.details = some (.object members) ∧ members.length = 5
    ∧ ∀ kind ∈ summary.findings.counts, members.get? kind.1 = some (.count kind.2)
      ∧ (kind.2 < UInt64.size → members.get? kind.1 = some (.integer kind.2))

theorem count_of_lt (number : Nat) (fits : number < UInt64.size) :
    Json.count number = .integer number := by
  rw [Json.count, UInt64.toNat_ofNat', Nat.mod_eq_of_lt fits, Json.natural]

theorem get?_countMembers (findings : Findings) :
    ∀ kind ∈ findings.counts, (countMembers findings).get? kind.1 = some (.count kind.2) := by
  simp only [Findings.counts, List.forall_mem_cons]
  exact ⟨rfl, rfl, rfl, rfl, rfl, List.forall_mem_nil _⟩

theorem concludes_finalRecord (variant : Variant) (durationMs : UInt64) (paths : List String)
    (application library : List Occurrence) (now : Time.Instant) (traceId : String) :
    let summary := Summary.ofOccurrences application library variant
    Concludes summary
      { finalRecord variant durationMs paths summary.findings now with traceId } where
  event := rfl
  symbol := rfl
  category := rfl
  object := rfl
  outcome := rfl
  counts := by
    refine ⟨_, rfl, rfl, fun kind inside => ?_⟩
    have found := get?_countMembers _ kind inside
    exact ⟨found, fun fits => by rw [found, count_of_lt _ fits]⟩

/-! ### The log as a whole -/

theorem readBack_lines (journal : Log.Journal) (records : List Log.Record)
    (unnamed : ∀ record ∈ records, IsUnnamed record) :
    Log.readBack (String.ofList (Text.terminated (journal.lines records)))
      = (journal.numbered records).map some := by
  apply Log.readBack_written
  intro named inside
  obtain ⟨⟨record, number⟩, placed, rfl⟩ := List.mem_map.mp inside
  exact (unnamed record (List.fst_mem_of_mem_zipIdx placed)).2.details

theorem numbered_concat (journal : Log.Journal) (records : List Log.Record) (last : Log.Record) :
    journal.numbered (records ++ [last]) = journal.numbered records
      ++ [{ last with traceId := journal.traceId (journal.issued + 1 + records.length) }] := by
  simp [Log.Journal.numbered, List.zipIdx_append]

theorem traceIds_numbered (journal : Log.Journal) (records : List Log.Record) :
    (journal.numbered records).map (·.traceId)
      = (List.range' (journal.issued + 1) records.length).map journal.traceId := by
  rw [Log.Journal.numbered, List.map_map, ← List.zipIdx_map_snd, List.map_map]
  rfl

theorem timestamps_numbered (journal : Log.Journal) (records : List Log.Record) :
    (journal.numbered records).map (·.timestamp) = records.map (·.timestamp) := by
  conv_rhs => rw [← List.zipIdx_map_fst (journal.issued + 1) records]
  rw [Log.Journal.numbered, List.map_map, List.map_map]
  rfl

theorem stamped_concat (clock : Nat → Time.Instant) (drafts : List Draft) (last : Draft) :
    stamped clock (drafts ++ [last]) = stamped clock drafts ++ [last (clock drafts.length)] := by
  simp [stamped, List.zipIdx_append]

/-- Each record is about its own finding, whatever instant and number it gets. -/
theorem forall₂_reports (journal : Log.Journal) (clock : Nat → Time.Instant) (variant : Variant)
    (application library : List Occurrence) (found : List Finding)
    (among : ∀ finding ∈ found, finding ∈ (findings application library variant).inOrder) :
    List.Forall₂ (Reports variant application library) found
      (journal.numbered <| stamped clock <|
        found.map (Finding.draft variant application library)) := by
  rw [Log.Journal.numbered, stamped]
  generalize journal.issued + 1 = first
  generalize 0 = reading
  induction found generalizing first reading with
  | nil => exact List.Forall₂.nil
  | cons finding rest ih =>
    -- the others are stamped and numbered from one later, in which the hypothesis is general
    rw [List.forall_mem_cons] at among
    simp only [List.map_cons, List.zipIdx_cons]
    exact List.Forall₂.cons (reports_draft variant application library finding among.1 _ _)
      (ih among.2 (first + 1) (reading + 1))

/-- The log of a successful audit, read back: one record for each finding of the summary and a
last one with the verdict, under the numbers from 1 and with the readings of the clock in their
order. -/
theorem log_tells_findings (read : Reader) (variant : Variant)
    (applicationPaths libraryPaths : List String) (occasion : Occasion) (scope runId : String)
    (hasApplication : applicationPaths ≠ []) (hasLibrary : libraryPaths ≠ [])
    (readable : ∀ path ∈ applicationPaths ++ libraryPaths, ∃ text, read path = .ok text) :
    let journal : Log.Journal := { scope, runId }
    ∃ application library summary after reports conclusion,
      loadSides read applicationPaths libraryPaths = .ok (application, library)
        ∧ summary = Summary.ofOccurrences application library variant
        ∧ run read variant applicationPaths libraryPaths occasion (some journal)
          = (.ok summary, some after)
        ∧ Log.readBack after.text = (reports ++ [conclusion]).map some
        ∧ List.Forall₂ (Reports variant application library) summary.findings.inOrder reports
        ∧ Concludes summary conclusion
        ∧ (reports ++ [conclusion]).map (·.traceId)
          = (List.range' 1 (summary.findings.count + 1)).map journal.traceId
        ∧ (reports ++ [conclusion]).map (·.timestamp)
          = (List.range (summary.findings.count + 1)).map fun reading =>
            (occasion.clock reading).stamp := by
  intro journal
  obtain ⟨application, library, loaded⟩ :=
    loadSides_of_readable read applicationPaths libraryPaths hasApplication hasLibrary readable
  let summary := Summary.ofOccurrences application library variant
  let all := records occasion variant (applicationPaths ++ libraryPaths) application library
    summary.findings
  let drafts := summary.findings.inOrder.map (Finding.draft variant application library)
  let found := stamped occasion.clock drafts
  let final := finalRecord variant occasion.durationMs (applicationPaths ++ libraryPaths)
    summary.findings (occasion.clock drafts.length)
  let conclusion := { final with traceId := journal.traceId (1 + found.length) }
  have unnamed : ∀ record ∈ all, IsUnnamed record := isUnnamed_records _ _ _ _ _ _
  have logged := run_of_sound read variant applicationPaths libraryPaths occasion journal
    application library loaded rfl
  have text := journal.text_appendEach_of_blank all rfl fun record inside =>
    (unnamed record inside).1
  -- the findings come first, and all records are numbered together
  have together : all = found ++ [final] := by
    simp only [all, records, findingDrafts_eq, stamped_concat]
    rfl
  have split : journal.numbered all = journal.numbered found ++ [conclusion] := by
    rw [together, numbered_concat]
  refine ⟨application, library, summary, _, journal.numbered found, conclusion, loaded, rfl, logged,
    ?_, ?_, ?_, ?_, ?_⟩
  · rw [← split, ← readBack_lines journal all unnamed, ← String.empty_append (s := String.ofList _)]
    exact congrArg Log.readBack text
  · exact forall₂_reports journal occasion.clock variant application library _
      fun _ inside => inside
  · exact concludes_finalRecord variant occasion.durationMs _ application library _ _
  · rw [← split, traceIds_numbered, length_records]
  · rw [← split, timestamps_numbered, timestamps_records]

/-- Two objects of one listing refer to a name that nothing defines; the second of them comes
first in byte order. -/
theorem log_tells_first_referrer :
    let read : Reader := fun path =>
      .ok (if path = "app.nm" then "b.o:\n U _Znwm\na.o:\n U _Znwm\n" else "")
    let occasion : Occasion := ⟨fun reading => ⟨reading, 0⟩, 0⟩
    ∃ summary after report rest,
      run read {} ["app.nm"] ["shim.nm"] occasion (some { scope := "link", runId := "a::b" })
          = (.ok summary, some after)
        ∧ Log.readBack after.text = some report :: rest
        ∧ report.symbol = some "_Znwm" ∧ report.object = some "a.o" ∧ report.details ≠ none := by
  intro read occasion
  obtain ⟨application, library, summary, after, reports, conclusion, loaded, rfl, done, back, told,
    _⟩ := log_tells_findings read {} ["app.nm"] ["shim.nm"] occasion "link" "a::b" (by decide)
      (by decide) fun _ _ => ⟨_, rfl⟩
  -- only what the listings hold and what is unresolved in them is computed
  have listed : (loadSides read ["app.nm"] ["shim.nm"]).toOption
      = some ([⟨"b.o", "_Znwm", .undefined⟩, ⟨"a.o", "_Znwm", .undefined⟩], []) := by
    decide +kernel
  rw [loaded] at listed
  cases listed
  have unresolved : (Summary.ofOccurrences [⟨"b.o", "_Znwm", .undefined⟩, ⟨"a.o", "_Znwm", .undefined⟩]
      [] {}).findings.unresolved = ["_Znwm"] := by
    decide +kernel
  rw [Findings.inOrder, unresolved] at told
  simp only [List.map_cons, List.map_nil, List.cons_append, List.nil_append] at told
  cases told with
  | cons first others =>
    have least : ∀ other, Finding.Involves [⟨"b.o", "_Znwm", .undefined⟩,
        ⟨"a.o", "_Znwm", .undefined⟩] [] (.unresolved "_Znwm") other →
          other = "a.o" ∨ BytesBefore "a.o" other := by
      rintro other ⟨occurrence, member, _, _, rfl⟩
      simp only [List.mem_cons, List.not_mem_nil, or_false] at member
      rcases member with rfl | rfl
      · exact Or.inr (bytesBefore_of_lt _ _ (by decide))
      · exact Or.inl rfl
    refine ⟨_, after, _, _, done, back, first.symbol, (first.objects.first "a.o").mpr ⟨?_, least⟩,
      first.objects.several.mpr ⟨"a.o", "b.o", ?_, ?_, by decide⟩⟩
    · exact ⟨_, List.mem_cons_of_mem _ List.mem_cons_self, rfl, rfl, rfl⟩
    · exact ⟨_, List.mem_cons_of_mem _ List.mem_cons_self, rfl, rfl, rfl⟩
    · exact ⟨_, List.mem_cons_self, rfl, rfl, rfl⟩

end LinkContract.Audit
