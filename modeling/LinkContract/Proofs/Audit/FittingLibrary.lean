import LinkContract.Proofs.Audit.Clashes
import LinkContract.Proofs.Exports.Agreement
import LinkContract.Proofs.Listing.Rendering

/-!
# Libraries that fit

An export set that fits a variant is written out as a library: a listing with one definition for
each entry point, strong or weak, and any number of weak copies under other labels. An
application that refers to the runtime only through these names then links cleanly against it.

The listings are read first. After that the five kinds of findings are ruled out one by one, each
by a condition on the definitions: every reference has one, no name has two strong ones, and the
names of the library are those of the export set.
-/
namespace LinkContract

/-! ### Rows of a library -/

namespace Listing

/-- A listing whose first rows stand before any label. -/
def renderBelow (rows : List Row) (groups : List Group) : String :=
  String.ofList (Text.terminated (rows.map Row.text ++ groups.flatMap Group.lines))

theorem parse_renderBelow (object : String) (rows : List Row) (groups : List Group) :
    parse object (renderBelow rows groups)
      = rows.map (fun row => ⟨object, row.name, row.linkage⟩)
        ++ groups.flatMap Group.occurrences := by
  have readRows : (rows.map Row.text).map readLine
      = rows.map fun row => .symbol none row.linkage row.name.toList := by
    simp only [List.map_map, Function.comp_def, Row.readLine_text]
  rw [parse, renderBelow, read_terminated]
  · -- no header stands in the loose rows, so the given object is still the current one behind them
    rw [List.map_append, collect_append, collect_lines_groups, readRows, collect_symbols]
    rfl
  · intro line member
    rcases List.mem_append.mp member with loose | grouped
    · obtain ⟨row, -, rfl⟩ := List.mem_map.mp loose
      exact ⟨row.lineFeed_not_mem_text, row.endsSolid_append_text []⟩
    · obtain ⟨group, -, own⟩ := List.mem_flatMap.mp grouped
      exact group.lines_closed line own

theorem solid_linkName (size : SizeSpelling) (entry : EntryPoint) :
    (entry.linkName size).toList ≠ [] ∧ hasBlank (entry.linkName size).toList = false := by
  cases size <;> cases entry with
  | trap point => cases point <;> decide
  | new array aligned => cases array <;> cases aligned <;> decide
  | delete array sized aligned => cases array <;> cases sized <;> cases aligned <;> decide

/-- The row that defines an entry point at address zero. -/
def definitionRow (size : SizeSpelling) (weak : Bool) (entry : EntryPoint) : Row where
  lead := .address "00000000".toList (by decide) (by decide)
  letter := if weak then 'W' else 'T'
  name := entry.linkName size
  isLetter := by cases weak <;> rfl
  occupied := (solid_linkName size entry).1
  solid := (solid_linkName size entry).2

theorem Row.linkage_eq (row : Row) {letter : Char} {linkage : Linkage}
    (spelled : row.letter = letter) (meaning : Linkage.ofLetter? letter = some linkage) :
    row.linkage = linkage := by
  rw [← spelled, row.ofLetter?_letter] at meaning
  exact Option.some.inj meaning

theorem linkage_definitionRow (size : SizeSpelling) (weak : Bool) (entry : EntryPoint) :
    (definitionRow size weak entry).linkage = if weak then .weakDefined else .defined := by
  cases weak
  · exact Row.linkage_eq _ rfl rfl
  · exact Row.linkage_eq _ rfl rfl

end Listing

/-! ### When a kind of finding is absent -/

namespace ExportReport

theorem namesWhere_eq_nil_iff (size : SizeSpelling) (accepts : EntryPoint → Bool) :
    namesWhere size accepts = [] ↔ ∀ entry, accepts entry = false := by
  simp [namesWhere, List.filter_eq_nil_iff, EntryPoint.mem_catalog]

theorem isOk_check_iff (exported : List EntryPoint) (variant : Variant) :
    (check exported variant).isOk = true
      ↔ (∀ entry, variant.requirement entry = .required → entry ∈ exported)
        ∧ ∀ entry, variant.requirement entry = .excluded → entry ∉ exported := by
  simp [isOk, check, namesWhere_eq_nil_iff]

end ExportReport

namespace Audit

open EntryPoint

theorem catalogNames_eq_nil_iff (size : SizeSpelling) (accepts : EntryPoint → Bool) :
    catalogNames size accepts = [] ↔ ∀ entry, accepts entry = false := by
  simp only [List.eq_nil_iff_forall_not_mem, catalogNames, Names.mem_sorted]
  rw [← List.eq_nil_iff_forall_not_mem]
  exact ExportReport.namesWhere_eq_nil_iff size accepts

theorem missing_eq_nil_iff (application library : List Occurrence) (variant : Variant) :
    (findings application library variant).missing = []
      ↔ ∀ entry, variant.requirement entry = .required →
        Defined library (entry.linkName variant.size) := by
  simp [findings, catalogNames_eq_nil_iff, defines_iff]

theorem stray_eq_nil_iff (application library : List Occurrence) (variant : Variant) :
    (findings application library variant).stray = []
      ↔ ∀ entry, variant.requirement entry = .excluded →
        ¬ Defined library (entry.linkName variant.size) := by
  simp [findings, catalogNames_eq_nil_iff, ← defines_iff]

/-! ### Occurrences of a fitting library -/

section

variable {variant : Variant} {exported : List EntryPoint} {weak : EntryPoint → Bool}

/-- The name belongs to an entry point of the export set. -/
def IsExported (variant : Variant) (exported : List EntryPoint) (name : String) : Prop :=
  ∃ entry ∈ exported, name = entry.linkName variant.size

/-- The one definition of each entry point, in one object. -/
def ownDefinitions (variant : Variant) (weak : EntryPoint → Bool) (object : String)
    (exported : List EntryPoint) : List Occurrence :=
  exported.map fun entry =>
    ⟨object, entry.linkName variant.size, if weak entry then .weakDefined else .defined⟩

theorem defined_iff_isExported (weak : EntryPoint → Bool) (object : String)
    (copies : List Occurrence)
    (copied : ∀ occurrence ∈ copies, occurrence.linkage = .weakDefined
      ∧ IsExported variant exported occurrence.name) (name : String) :
    Defined (ownDefinitions variant weak object exported ++ copies) name
      ↔ IsExported variant exported name := by
  rw [defined_append]
  constructor
  · rintro (⟨occurrence, member, rfl, _⟩ | ⟨occurrence, member, rfl, _⟩)
    · obtain ⟨entry, inside, rfl⟩ := List.mem_map.mp member
      exact ⟨entry, inside, rfl⟩
    · exact (copied occurrence member).2
  · rintro ⟨entry, inside, rfl⟩
    refine Or.inl ⟨_, List.mem_map_of_mem inside, rfl, ?_⟩
    cases weak entry
    · exact Or.inl rfl
    · exact Or.inr rfl

/-- No two entry points share a name, so the definitions of a name are one or none. -/
theorem length_strongDefinitions_own (variant : Variant) (weak : EntryPoint → Bool)
    (object : String) (distinct : exported.Nodup) (name : String) :
    (strongDefinitions (ownDefinitions variant weak object exported) name).length ≤ 1 := by
  have names : ((ownDefinitions variant weak object exported).map (·.name)).Nodup := by
    rw [ownDefinitions, List.map_map]
    exact distinct.map fun first second same => eq_of_linkName_eq variant.size first second same
  have once := List.nodup_iff_count_le_one.mp names name
  rw [List.count_eq_countP, List.countP_map] at once
  -- the strong definitions of the name are among the definitions of the name
  rw [strongDefinitions, ← List.countP_eq_length_filter]
  apply Nat.le_trans _ once
  apply List.countP_mono_left
  intro occurrence _ accepted
  exact (Bool.and_eq_true_iff.mp accepted).2

theorem strongDefinitions_eq_nil (occurrences : List Occurrence) (name : String)
    (soft : ∀ occurrence ∈ occurrences, occurrence.linkage.isStrongDefinition = false) :
    strongDefinitions occurrences name = [] := by
  rw [strongDefinitions, List.filter_eq_nil_iff]
  intro occurrence member
  simp [soft occurrence member]

/-- References and weak copies are no strong definitions. -/
theorem clashes_eq_nil (application copies : List Occurrence) (object : String)
    (distinct : exported.Nodup)
    (copied : ∀ occurrence ∈ copies, occurrence.linkage = .weakDefined)
    (refers : ∀ occurrence ∈ application, occurrence.linkage = .undefined) :
    clashes (application ++ (ownDefinitions variant weak object exported ++ copies)) = [] := by
  apply (clashes_eq_nil_iff _).mpr
  intro name
  have referring := strongDefinitions_eq_nil application name fun occurrence member => by
    rw [refers occurrence member]
    rfl
  have copying := strongDefinitions_eq_nil copies name fun occurrence member => by
    rw [copied occurrence member]
    rfl
  have own := length_strongDefinitions_own variant weak object distinct name
  rw [strongDefinitions] at referring copying own
  simp only [strongDefinitions, List.filter_append, referring, copying, List.nil_append,
    List.append_nil]
  exact own

theorem isClean_of_fits (application copies : List Occurrence) (object : String)
    (distinct : exported.Nodup) (fits : (ExportReport.check exported variant).isOk = true)
    (copied : ∀ occurrence ∈ copies, occurrence.linkage = .weakDefined
      ∧ IsExported variant exported occurrence.name)
    (refers : ∀ occurrence ∈ application, occurrence.linkage = .undefined
      ∧ (IsExported variant exported occurrence.name ∨ isReservedName occurrence.name = false)) :
    let found :=
      findings application (ownDefinitions variant weak object exported ++ copies) variant
    found.isClean = true ∧ found.hasWarnings = false := by
  intro found
  let library := ownDefinitions variant weak object exported ++ copies
  obtain ⟨complete, permitted⟩ := (ExportReport.isOk_check_iff exported variant).mp fits
  have provided := defined_iff_isExported weak object copies copied
  -- what the application leaves open is not reserved for the runtime
  have unreserved (name : String) (isOpen : IsOpen application library name) :
      isReservedName name = false := by
    obtain ⟨⟨occurrence, member, rfl, _⟩, _, undefined⟩ := isOpen
    rcases (refers occurrence member).2 with own | foreign
    · exact absurd ((provided _).mpr own) undefined
    · exact foreign
  have unresolved : found.unresolved = [] := by
    apply List.eq_nil_iff_forall_not_mem.mpr
    intro name inside
    obtain ⟨isOpen, known⟩ := (mem_unresolved_iff application library variant name).mp inside
    have reserved := isReservedName_of_isLinkName variant.size name known
    rw [unreserved name isOpen] at reserved
    cases reserved
  have unsupported : found.unsupported = [] := by
    apply List.eq_nil_iff_forall_not_mem.mpr
    intro name inside
    obtain ⟨isOpen, _, reserved⟩ := (mem_unsupported_iff application library variant name).mp inside
    rw [unreserved name isOpen] at reserved
    cases reserved
  have missing : found.missing = [] := by
    apply (missing_eq_nil_iff application library variant).mpr
    intro entry required
    exact (provided _).mpr ⟨entry, complete entry required, rfl⟩
  have stray : found.stray = [] := by
    apply (stray_eq_nil_iff application library variant).mpr
    intro entry excluded defined
    obtain ⟨other, inside, same⟩ := (provided _).mp defined
    -- what is defined is exported, and an export set that fits has nothing excluded
    rw [eq_of_linkName_eq variant.size entry other same] at excluded
    exact permitted other excluded inside
  have clashes : found.clashes = [] :=
    clashes_eq_nil application copies object distinct (fun occurrence member =>
      (copied occurrence member).1) fun occurrence member => (refers occurrence member).1
  constructor
  · rw [Findings.isClean, unresolved, clashes, unsupported, missing]
    rfl
  · rw [Findings.hasWarnings, stray]
    rfl

/-! ### Listings of a fitting library -/

/-- The row is a weak definition of an exported entry point. -/
def IsWeakCopy (variant : Variant) (exported : List EntryPoint) (row : Listing.Row) : Prop :=
  row.letter = 'W' ∧ IsExported variant exported row.name

/-- The row is a reference to an exported entry point or to something outside the runtime. -/
def IsServed (variant : Variant) (exported : List EntryPoint) (row : Listing.Row) : Prop :=
  row.letter = 'U' ∧ (IsExported variant exported row.name ∨ isReservedName row.name = false)

/-- A library listing that defines each entry point of a fitting export set once, strongly or
weakly, and goes on with weak copies under any labels, so that copies may also stand in further
listings, links cleanly with every application that it serves. -/
theorem fitting_library_links_cleanly (variant : Variant) (exported : List EntryPoint)
    (distinct : exported.Nodup) (fits : (ExportReport.check exported variant).isOk = true)
    (weak : EntryPoint → Bool) (copies : List Listing.Group)
    (further : List (String × List Listing.Row)) (references : List Listing.Row)
    (copied : ∀ group ∈ copies, ∀ row ∈ group.rows, IsWeakCopy variant exported row)
    (copiedFurther : ∀ listing ∈ further, ∀ row ∈ listing.2, IsWeakCopy variant exported row)
    (served : ∀ row ∈ references, IsServed variant exported row)
    (applicationLabel libraryLabel : String) :
    let application := Listing.parse applicationLabel (Listing.renderBelow references [])
    let definitions := exported.map fun entry =>
      Listing.definitionRow variant.size (weak entry) entry
    let library := Listing.parse libraryLabel (Listing.renderBelow definitions copies)
      ++ further.flatMap fun listing =>
        Listing.parse listing.1 (Listing.renderBelow listing.2 [])
    let found := findings application library variant
    found.isClean = true ∧ found.hasWarnings = false := by
  intro application definitions library
  let others := copies.flatMap Listing.Group.occurrences ++ further.flatMap fun listing =>
    listing.2.map fun row => ⟨listing.1, row.name, row.linkage⟩
  have readLibrary : library = ownDefinitions variant weak libraryLabel exported ++ others := by
    simp only [library, definitions, others, Listing.parse_renderBelow, List.map_map,
      Function.comp_def, Listing.linkage_definitionRow, List.flatMap_nil, List.append_nil,
      List.append_assoc]
    rfl
  have readApplication : application
      = references.map fun row => ⟨applicationLabel, row.name, row.linkage⟩ := by
    simp only [application, Listing.parse_renderBelow, List.flatMap_nil, List.append_nil]
  -- what is left is about occurrences, whatever text they were read from
  rw [readLibrary]
  apply isClean_of_fits application others libraryLabel distinct fits
  · intro occurrence member
    rcases List.mem_append.mp member with grouped | loose
    · obtain ⟨group, inside, own⟩ := List.mem_flatMap.mp grouped
      obtain ⟨row, among, rfl⟩ := List.mem_map.mp own
      have copy := copied group inside row among
      exact ⟨row.linkage_eq copy.1 rfl, copy.2⟩
    · obtain ⟨listing, inside, own⟩ := List.mem_flatMap.mp loose
      obtain ⟨row, among, rfl⟩ := List.mem_map.mp own
      have copy := copiedFurther listing inside row among
      exact ⟨row.linkage_eq copy.1 rfl, copy.2⟩
  · intro occurrence member
    rw [readApplication] at member
    obtain ⟨row, among, rfl⟩ := List.mem_map.mp member
    have serving := served row among
    exact ⟨row.linkage_eq serving.1 rfl, serving.2⟩

/-- What the variant requires and one name more, half of it weak; copies stand in an archive, in
an object named on every line and in an object whose name has a blank. One referenced name ends
like a header. -/
theorem fitting_library_serves_two_references :
    let variant : Variant := {}
    let exported := variant.required ++ [.new true true]
    let weak : EntryPoint → Bool := fun entry => entry matches .delete ..
    let copy := Listing.definitionRow variant.size true
    let copies : List Listing.Group :=
      [⟨"shim.o", .header, [copy (.new false false), copy (.new false false)], by decide⟩,
        ⟨"lib.a:x.o", .everyLine, [copy (.new true true)], by decide⟩]
    let further := [("my lib.o", [copy (.delete false false false)])]
    let references : List Listing.Row :=
      [⟨.blanks (List.replicate 9 ' ') (by decide) (by decide), 'U', "_Znwm", by decide,
          by decide, by decide⟩,
        ⟨.blanks (List.replicate 9 ' ') (by decide) (by decide), 'U', "memcpy:", by decide,
          by decide, by decide⟩]
    Listing.renderBelow references [] = "         U _Znwm\n         U memcpy:\n"
      ∧ let found := findings (Listing.parse "app.nm" (Listing.renderBelow references []))
          (Listing.parse "shim.nm" (Listing.renderBelow
              (exported.map fun entry => Listing.definitionRow variant.size (weak entry) entry)
              copies)
            ++ further.flatMap fun listing =>
              Listing.parse listing.1 (Listing.renderBelow listing.2 []))
          variant
        found.isClean = true ∧ found.hasWarnings = false := by
  intro variant exported weak copy copies further references
  have own (entry : EntryPoint) (inside : entry ∈ exported) :
      IsWeakCopy variant exported (copy entry) := ⟨rfl, entry, inside, rfl⟩
  refine ⟨by decide +kernel, ?_⟩
  apply fitting_library_links_cleanly variant exported (by decide +kernel) (by decide +kernel) weak
    copies further references _ _ _ "app.nm" "shim.nm"
  · simp only [copies, List.forall_mem_cons, List.not_mem_nil, false_implies, implies_true,
      and_true]
    exact ⟨⟨own _ (by decide +kernel), own _ (by decide +kernel)⟩, own _ (by decide +kernel)⟩
  · simp only [further, List.forall_mem_cons, List.not_mem_nil, false_implies, implies_true,
      and_true]
    exact own _ (by decide +kernel)
  · simp only [references, List.forall_mem_cons, List.not_mem_nil, false_implies, implies_true,
      and_true]
    exact ⟨⟨rfl, .inl ⟨.new false false, by decide +kernel, rfl⟩⟩, rfl, .inr (by decide +kernel)⟩

end

end Audit

end LinkContract
