import LinkContract.Proofs.Audit.Clashes
import LinkContract.Proofs.Audit.Order
import Mathlib.Data.List.Perm.Subperm

/-!
# Growing libraries

An audit learns two things from a library: which names it defines, and which of its occurrences
define a name strongly. What comes into a library is visible in the findings only through these.

References, local names and weak copies of what is defined anyway leave both as they are, so the
findings stay the same. Any other addition has effects in one direction: references and
requirements are met and never lost, while stray names and clashes are found and never taken back.
-/
namespace LinkContract

namespace Names

/-- Among increasing lists, one that holds the names of another holds them in their order. -/
theorem sublist_of_increasing {first second : List String} (firstOrder : first.Pairwise (· < ·))
    (secondOrder : second.Pairwise (· < ·)) (inside : first ⊆ second) : first.Sublist second := by
  have distinct : first.Nodup := firstOrder.imp fun {_ _} before => Std.ne_of_lt before
  obtain ⟨selected, perm, part⟩ := distinct.subperm inside
  -- the selection has the order of `second`, and only one order of its names is increasing
  have same : selected = first := by
    apply perm.eq_of_pairwise _ (secondOrder.sublist part) firstOrder
    intro name other _ _ before after
    exact absurd after (String.lt_asymm before)
  exact same ▸ part

theorem sorted_sublist_of_subset {first second : List String} (inside : first ⊆ second) :
    (sorted first).Sublist (sorted second) := by
  apply sublist_of_increasing (pairwise_sorted first) (pairwise_sorted second)
  intro name
  simp only [mem_sorted]
  exact fun listed => inside listed

end Names

namespace Audit

theorem defines_append (first second : List Occurrence) (name : String) :
    defines (first ++ second) name = (defines first name || defines second name) :=
  List.any_append

/-- Libraries that define the same names, and have the same strong definitions, fare alike. -/
theorem findings_of_same_definitions (application library other : List Occurrence)
    (variant : Variant) (defined : ∀ name, Defined library name ↔ Defined other name)
    (strong : library.filter (fun occurrence => occurrence.linkage.isStrongDefinition)
      = other.filter fun occurrence => occurrence.linkage.isStrongDefinition) :
    findings application library variant = findings application other variant := by
  have provided (name : String) : defines library name = defines other name := by
    apply Bool.eq_iff_iff.mpr
    simp only [defines_iff, defined]
  have references : openReferences application (application ++ library)
      = openReferences application (application ++ other) := by
    simp only [openReferences, defines_append, provided]
  -- clashes are the same before and after everything but strong definitions is left out
  have clashing : clashes (application ++ library) = clashes (application ++ other) := by
    rw [← clashes_filter, List.filter_append, strong, ← List.filter_append, clashes_filter]
  simp only [findings, references, clashing, provided]

/-! ### Additions that do not show -/

/-- Beside the library, the occurrence defines nothing new. -/
def IsIdle (library : List Occurrence) (occurrence : Occurrence) : Prop :=
  match occurrence.linkage with
  | .undefined | .weakUndefined | .local => True
  | .weakDefined => Defined library occurrence.name
  | .defined => False

section

variable {library : List Occurrence} {occurrence : Occurrence}

theorem IsIdle.defined (idle : IsIdle library occurrence)
    (defines : occurrence.linkage = .defined ∨ occurrence.linkage = .weakDefined) :
    Defined library occurrence.name := by
  unfold IsIdle at idle
  rcases defines with strong | weak
  · simp only [strong] at idle
  · simpa only [weak] using idle

theorem IsIdle.isStrongDefinition_eq (idle : IsIdle library occurrence) :
    occurrence.linkage.isStrongDefinition = false := by
  apply Bool.eq_false_iff.mpr
  intro strong
  simp only [IsIdle, (isStrongDefinition_iff _).mp strong] at idle

end

theorem defined_append_idle (library idle : List Occurrence)
    (silent : ∀ occurrence ∈ idle, IsIdle library occurrence) (name : String) :
    Defined (library ++ idle) name ↔ Defined library name := by
  rw [defined_append]
  constructor
  · rintro (own | ⟨occurrence, among, rfl, defines⟩)
    · exact own
    · -- a definition among the additions repeats one of the library
      exact (silent occurrence among).defined defines
  · exact Or.inl

/-- Wherever idle occurrences are put into a library, and however many of them, every audit finds
what it finds without them. -/
theorem findings_of_idle_additions (application library idle widened : List Occurrence)
    (variant : Variant) (silent : ∀ occurrence ∈ idle, IsIdle library occurrence)
    (inserted : widened.Perm (library ++ idle)) :
    findings application widened variant = findings application library variant := by
  -- the places do not matter, so the additions may as well stand at the end
  rw [findings_of_perm (.refl application) inserted]
  apply findings_of_same_definitions
  · exact defined_append_idle library idle silent
  · have none : idle.filter (fun occurrence => occurrence.linkage.isStrongDefinition) = [] := by
      apply List.filter_eq_nil_iff.mpr
      intro occurrence among
      simp [(silent occurrence among).isStrongDefinition_eq]
    rw [List.filter_append, none, List.append_nil]

/-- A copy in front, a reference in the middle and a local name at the end of a library that has a
clash, a stray definition and missing ones. -/
theorem findings_of_interleaved_copies :
    let application : List Occurrence :=
      [⟨"main.o", "_Znwm", .undefined⟩, ⟨"main.o", "_ZdaPv", .undefined⟩]
    let library : List Occurrence :=
      [⟨"new.o", "_Znwm", .defined⟩, ⟨"cast.o", "__dynamic_cast", .weakDefined⟩,
        ⟨"old.o", "_Znwm", .defined⟩]
    let idle : List Occurrence :=
      [⟨"copy.o", "__dynamic_cast", .weakDefined⟩, ⟨"copy.o", "_ZdaPv", .undefined⟩,
        ⟨"new.o", "_Znwm", .weakDefined⟩, ⟨"cast.o", "_ZdaPv", .local⟩]
    let widened : List Occurrence :=
      [⟨"copy.o", "__dynamic_cast", .weakDefined⟩, ⟨"new.o", "_Znwm", .defined⟩,
        ⟨"copy.o", "_ZdaPv", .undefined⟩, ⟨"cast.o", "__dynamic_cast", .weakDefined⟩,
        ⟨"new.o", "_Znwm", .weakDefined⟩, ⟨"old.o", "_Znwm", .defined⟩,
        ⟨"cast.o", "_ZdaPv", .local⟩]
    (∀ occurrence ∈ idle, IsIdle library occurrence) ∧ widened.Perm (library ++ idle)
      ∧ findings application widened {} = findings application library {}
      ∧ (findings application widened {}).unresolved = ["_ZdaPv"]
      ∧ (findings application widened {}).clashes = [⟨"_Znwm", ["new.o", "old.o"]⟩]
      ∧ (findings application widened {}).stray = ["__dynamic_cast"] := by
  intro application library idle widened
  have silent : ∀ occurrence ∈ idle, IsIdle library occurrence := by
    simp [idle, library, IsIdle, Defined]
  have inserted : widened.Perm (library ++ idle) := by decide
  refine ⟨silent, inserted, ?_, ?_, ?_, ?_⟩
  · exact findings_of_idle_additions application library idle widened {} silent inserted
  all_goals decide +kernel

/-! ### Additions of any kind -/

/-- How findings change when a library grows: what is missing anywhere can only become less, what
is too much can only become more. -/
structure Findings.GrowsInto (before after : Findings) : Prop where
  unresolved : after.unresolved.Sublist before.unresolved
  unsupported : after.unsupported.Sublist before.unsupported
  missing : after.missing.Sublist before.missing
  stray : before.stray.Sublist after.stray
  clashes : (before.clashes.map (·.name)).Sublist (after.clashes.map (·.name))
  objects : ∀ clash ∈ before.clashes, ∀ wider ∈ after.clashes, wider.name = clash.name →
    clash.objects.Sublist wider.objects

section

variable {application library more : List Occurrence}

theorem IsOpen.of_append {name : String} (isOpen : IsOpen application (library ++ more) name) :
    IsOpen application library name := by
  obtain ⟨refers, own, other⟩ := isOpen
  rw [defined_append, not_or] at other
  exact ⟨refers, own, other.1⟩

theorem openReferences_append_subset :
    openReferences application (application ++ (library ++ more))
      ⊆ openReferences application (application ++ library) := by
  intro name listed
  rw [mem_openReferences_iff] at listed ⊢
  exact listed.of_append

theorem catalogNames_sublist (size : SizeSpelling) {accepts permits : EntryPoint → Bool}
    (weaker : ∀ entry, accepts entry = true → permits entry = true) :
    (catalogNames size accepts).Sublist (catalogNames size permits) := by
  apply Names.sorted_sublist_of_subset
  exact List.map_subset _ (List.monotone_filter_right _ weaker).subset

theorem length_strongDefinitions_le_append (name : String) :
    (strongDefinitions (application ++ library) name).length
      ≤ (strongDefinitions (application ++ (library ++ more)) name).length := by
  rw [← List.append_assoc]
  exact ((List.sublist_append_left _ _).filter _).length_le

theorem names_clashes_append_sublist :
    ((clashes (application ++ library)).map (·.name)).Sublist
      ((clashes (application ++ (library ++ more))).map (·.name)) := by
  apply Names.sublist_of_increasing (increasing_map_name_clashes _) (increasing_map_name_clashes _)
  intro name
  simp only [List.mem_map, exists_clash_iff]
  -- the definitions that made the name clash are still there
  intro several
  exact Nat.lt_of_lt_of_le several (length_strongDefinitions_le_append name)

theorem objects_append_sublist {clash wider : Clash}
    (inside : clash ∈ clashes (application ++ library))
    (also : wider ∈ clashes (application ++ (library ++ more))) (same : wider.name = clash.name) :
    clash.objects.Sublist wider.objects := by
  apply Names.sublist_of_increasing (increasing_objects_of_clash inside)
    (increasing_objects_of_clash also)
  intro label
  rw [mem_objects_of_clash inside, mem_objects_of_clash also, same]
  rintro ⟨occurrence, among, holds⟩
  refine ⟨occurrence, ?_, holds⟩
  rw [← List.append_assoc]
  exact List.mem_append_left _ among

end

/-- Further objects of a library have effects in one direction only, on each of the five lists and
on the objects of every clash. -/
theorem findings_growsInto_append (application library more : List Occurrence)
    (variant : Variant) :
    (findings application library variant).GrowsInto
      (findings application (library ++ more) variant) := by
  -- unresolved and unsupported are two selections of the same references
  have fewer (accepts : String → Bool) :
      ((openReferences application (application ++ (library ++ more))).filter accepts)
        ⊆ (openReferences application (application ++ library)).filter accepts :=
    List.filter_subset _ openReferences_append_subset
  refine ⟨?_, ?_, ?_, ?_, ?_, ?_⟩
  · exact Names.sorted_sublist_of_subset (fewer _)
  · exact Names.sorted_sublist_of_subset (fewer _)
  · -- an entry point that is missing in the end was missing before
    apply catalogNames_sublist
    intro entry
    simp only [defines_append, Bool.not_or, Bool.and_eq_true]
    exact fun ⟨required, absent, _⟩ => ⟨required, absent⟩
  · apply catalogNames_sublist
    intro entry
    simp only [defines_append, Bool.and_eq_true, Bool.or_eq_true]
    exact fun ⟨excluded, provided⟩ => ⟨excluded, Or.inl provided⟩
  · exact names_clashes_append_sublist
  · intro clash inside wider also same
    exact objects_append_sublist inside also same

/-- Two definitions of one name can end a reference, be stray and clash, all at once. -/
example :
    let application : List Occurrence := [⟨"main.o", "__dynamic_cast", .undefined⟩]
    let more : List Occurrence :=
      [⟨"b.o", "__dynamic_cast", .defined⟩, ⟨"a.o", "__dynamic_cast", .defined⟩]
    let before := findings application [] {}
    let after := findings application more {}
    (before.unresolved, before.stray, before.clashes) = (["__dynamic_cast"], [], [])
      ∧ (after.unresolved, after.stray, after.clashes)
        = ([], ["__dynamic_cast"], [⟨"__dynamic_cast", ["a.o", "b.o"]⟩]) := by
  decide +kernel

end Audit

end LinkContract
