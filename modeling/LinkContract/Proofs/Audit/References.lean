import LinkContract.Audit.Findings
import LinkContract.Proofs.Text.ByteOrder

/-!
# Open references

A reference is open when neither the application nor the library defines its name. The
audit reports an open reference as unresolved if its name is in the catalog, as
unsupported if the name is only reserved for the runtime, and not at all otherwise.

`references_classified` says that the two lists hold exactly these names. Since catalog
names are reserved names, the lists split the open references to the runtime.
-/
namespace LinkContract

namespace EntryPoint

/-- Some entry of the catalog has this name. -/
def IsLinkName (size : SizeSpelling) (name : String) : Prop :=
  ∃ entry ∈ catalog, entry.linkName size = name

theorem ofLinkName?_isSome_iff_isLinkName (size : SizeSpelling) (name : String) :
    (ofLinkName? size name).isSome = true ↔ IsLinkName size name := by
  rw [ofLinkName?_isSome_iff]
  constructor
  · rintro ⟨entry, same⟩
    exact ⟨entry, mem_catalog entry, same⟩
  · rintro ⟨entry, _, same⟩
    exact ⟨entry, same⟩

theorem isReservedName_linkName (size : SizeSpelling) (entry : EntryPoint) :
    isReservedName (entry.linkName size) = true := by
  cases size <;> cases entry with
  | trap point => cases point <;> decide
  | new array aligned => cases array <;> cases aligned <;> decide
  | delete array sized aligned => cases array <;> cases sized <;> cases aligned <;> decide

theorem isReservedName_of_isLinkName (size : SizeSpelling) (name : String)
    (known : IsLinkName size name) : isReservedName name = true := by
  obtain ⟨entry, _, rfl⟩ := known
  exact isReservedName_linkName size entry

end EntryPoint

namespace Audit

open EntryPoint Text

/-- Some object needs the name; an object that refers to it weakly does not. -/
def Refers (occurrences : List Occurrence) (name : String) : Prop :=
  ∃ occurrence ∈ occurrences, occurrence.name = name ∧ occurrence.linkage = .undefined

/-- Some object defines the name, strongly or weakly. -/
def Defined (occurrences : List Occurrence) (name : String) : Prop :=
  ∃ occurrence ∈ occurrences, occurrence.name = name ∧
    (occurrence.linkage = .defined ∨ occurrence.linkage = .weakDefined)

/-- The application refers to the name and no object of either side defines it. -/
def IsOpen (application library : List Occurrence) (name : String) : Prop :=
  Refers application name ∧ ¬ Defined application name ∧ ¬ Defined library name

theorem isDefinition_iff (linkage : Linkage) :
    linkage.isDefinition = true ↔ linkage = .defined ∨ linkage = .weakDefined := by
  cases linkage <;> simp [Linkage.isDefinition]

theorem defines_iff (occurrences : List Occurrence) (name : String) :
    defines occurrences name = true ↔ Defined occurrences name := by
  simp only [defines, Defined, List.any_eq_true, Bool.and_eq_true, beq_iff_eq, isDefinition_iff]
  constructor
  · rintro ⟨occurrence, member, defined, same⟩
    exact ⟨occurrence, member, same, defined⟩
  · rintro ⟨occurrence, member, same, defined⟩
    exact ⟨occurrence, member, defined, same⟩

theorem defined_append (first second : List Occurrence) (name : String) :
    Defined (first ++ second) name ↔ Defined first name ∨ Defined second name := by
  simp only [Defined, List.mem_append, or_and_right, exists_or]

theorem mem_openReferences_iff (application library : List Occurrence) (name : String) :
    name ∈ openReferences application (application ++ library) ↔
      IsOpen application library name := by
  have undefined_iff : defines (application ++ library) name = false ↔
      ¬ Defined application name ∧ ¬ Defined library name := by
    rw [← Bool.not_eq_true, defines_iff, defined_append, not_or]
  simp only [openReferences, List.mem_map, List.mem_filter, Bool.and_eq_true, decide_eq_true_eq,
    Bool.not_eq_true', IsOpen, Refers]
  constructor
  · rintro ⟨occurrence, ⟨member, refers, missing⟩, rfl⟩
    exact ⟨⟨occurrence, member, rfl, refers⟩, undefined_iff.mp missing⟩
  · rintro ⟨⟨occurrence, member, rfl, refers⟩, missing⟩
    exact ⟨occurrence, ⟨member, refers, undefined_iff.mpr missing⟩, rfl⟩

theorem mem_unresolved_iff (application library : List Occurrence) (variant : Variant)
    (name : String) :
    name ∈ (findings application library variant).unresolved ↔
      IsOpen application library name ∧ IsLinkName variant.size name := by
  simp only [findings, Names.mem_sorted, List.mem_filter, mem_openReferences_iff,
    ofLinkName?_isSome_iff_isLinkName]

theorem mem_unsupported_iff (application library : List Occurrence) (variant : Variant)
    (name : String) :
    name ∈ (findings application library variant).unsupported ↔
      IsOpen application library name ∧ ¬ IsLinkName variant.size name ∧
        isReservedName name = true := by
  simp only [findings, Names.mem_sorted, List.mem_filter, mem_openReferences_iff, Bool.and_eq_true,
    Bool.not_eq_true', ← Bool.not_eq_true, ofLinkName?_isSome_iff_isLinkName]

/-- Sorted lists are strictly increasing in their bytes as well. -/
theorem pairwise_bytesBefore_sorted (names : List String) :
    (Names.sorted names).Pairwise BytesBefore :=
  (Names.pairwise_sorted names).imp fun {_ _} before => bytesBefore_of_lt _ _ before

/-- The two lists of open references, name by name, their order, and how they share out
the open references to the runtime. -/
theorem references_classified (application library : List Occurrence) (variant : Variant) :
    (∀ name, name ∈ (findings application library variant).unresolved ↔
      IsOpen application library name ∧ IsLinkName variant.size name) ∧
    (∀ name, name ∈ (findings application library variant).unsupported ↔
      IsOpen application library name ∧ ¬ IsLinkName variant.size name ∧
        isReservedName name = true) ∧
    (findings application library variant).unresolved.Pairwise BytesBefore ∧
    (findings application library variant).unsupported.Pairwise BytesBefore ∧
    (∀ name ∈ (findings application library variant).unresolved,
      name ∉ (findings application library variant).unsupported) ∧
    (∀ name, (name ∈ (findings application library variant).unresolved ∨
        name ∈ (findings application library variant).unsupported) ↔
      IsOpen application library name ∧ isReservedName name = true) := by
  refine ⟨mem_unresolved_iff application library variant,
    mem_unsupported_iff application library variant, pairwise_bytesBefore_sorted _,
    pairwise_bytesBefore_sorted _, ?_, ?_⟩
  · intro name unresolved unsupported
    have known := ((mem_unresolved_iff application library variant name).mp unresolved).2
    exact ((mem_unsupported_iff application library variant name).mp unsupported).2.1 known
  · intro name
    rw [mem_unresolved_iff, mem_unsupported_iff]
    constructor
    · rintro (⟨isOpen, known⟩ | ⟨isOpen, _, reserved⟩)
      · exact ⟨isOpen, isReservedName_of_isLinkName _ _ known⟩
      · exact ⟨isOpen, reserved⟩
    · -- every reserved name is in the catalog or not
      rintro ⟨isOpen, reserved⟩
      by_cases known : IsLinkName variant.size name
      · exact Or.inl ⟨isOpen, known⟩
      · exact Or.inr ⟨isOpen, known, reserved⟩

end Audit

end LinkContract
