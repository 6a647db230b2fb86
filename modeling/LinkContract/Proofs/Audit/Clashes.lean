import LinkContract.Proofs.Audit.References

/-!
# Names with several strong definitions

A name clashes when at least two lines of the two sides together define it strongly, in two
objects or twice in one. The clash then lists the objects of just these lines. So a clash counts
lines, its objects are a set of labels, and lines of other kinds have no part in either.
-/
namespace LinkContract.Audit

open Text

theorem isStrongDefinition_iff (linkage : Linkage) :
    linkage.isStrongDefinition = true ↔ linkage = .defined := by
  cases linkage <;> simp [Linkage.isStrongDefinition]

theorem mem_objectsListing_iff (occurrences : List Occurrence) (name label : String)
    (accepts : Linkage → Bool) :
    label ∈ objectsListing occurrences name accepts
      ↔ ∃ occurrence ∈ occurrences, occurrence.name = name ∧ accepts occurrence.linkage = true
        ∧ occurrence.object = label := by
  simp only [objectsListing, Names.mem_sorted, List.mem_map, List.mem_filter, Bool.and_eq_true,
    beq_iff_eq, and_assoc]

/-! ### Which names clash -/

theorem length_strongDefinitions (occurrences : List Occurrence) (name : String) :
    (strongDefinitions occurrences name).length = occurrences.countP fun occurrence =>
      occurrence.name = name ∧ occurrence.linkage = .defined := by
  rw [strongDefinitions, ← List.countP_eq_length_filter]
  refine List.countP_congr fun occurrence _ => ?_
  simp only [Bool.and_eq_true, beq_iff_eq, isStrongDefinition_iff, decide_eq_true_eq]
  exact and_comm

/-- A name with several strong definitions is among the names of strong definitions, so it is
enough to look at those. -/
theorem mem_clashes_iff (all : List Occurrence) (clash : Clash) :
    clash ∈ clashes all
      ↔ 1 < (strongDefinitions all clash.name).length
        ∧ clash.objects = objectsListing all clash.name Linkage.isStrongDefinition := by
  simp only [clashes, List.mem_map, List.mem_filter, Names.mem_sorted, decide_eq_true_eq]
  constructor
  · rintro ⟨name, ⟨_, several⟩, rfl⟩
    exact ⟨several, rfl⟩
  · rintro ⟨several, objects⟩
    obtain ⟨occurrence, member⟩ := List.exists_mem_of_length_pos (Nat.lt_of_succ_lt several)
    simp only [strongDefinitions, List.mem_filter, Bool.and_eq_true, beq_iff_eq] at member
    obtain ⟨inside, strong, same⟩ := member
    exact ⟨clash.name, ⟨⟨occurrence, ⟨inside, strong⟩, same⟩, several⟩, by rw [← objects]⟩

theorem exists_clash_iff (all : List Occurrence) (name : String) :
    (∃ clash ∈ clashes all, clash.name = name) ↔ 1 < (strongDefinitions all name).length := by
  simp only [mem_clashes_iff]
  constructor
  · rintro ⟨clash, ⟨several, _⟩, rfl⟩
    exact several
  · intro several
    exact ⟨⟨name, objectsListing all name Linkage.isStrongDefinition⟩, ⟨several, rfl⟩, rfl⟩

theorem clashes_eq_nil_iff (all : List Occurrence) :
    clashes all = [] ↔ ∀ name, (strongDefinitions all name).length ≤ 1 := by
  simp only [← Nat.not_lt, ← exists_clash_iff, List.eq_nil_iff_forall_not_mem]
  constructor
  · rintro none name ⟨clash, inside, _⟩
    exact none clash inside
  · exact fun none clash inside => none clash.name ⟨clash, inside, rfl⟩

theorem increasing_map_name_clashes (all : List Occurrence) :
    ((clashes all).map (·.name)).Pairwise (· < ·) := by
  rw [clashes, List.map_map]
  simp only [Function.comp_def, List.map_id']
  exact (Names.pairwise_sorted _).filter _

/-! ### The objects of a clash -/

section

variable {all : List Occurrence} {clash : Clash}

theorem mem_objects_of_clash (inside : clash ∈ clashes all) (label : String) :
    label ∈ clash.objects ↔ ∃ occurrence ∈ all,
      occurrence.name = clash.name ∧ occurrence.linkage = .defined ∧ occurrence.object = label := by
  obtain ⟨_, objects⟩ := (mem_clashes_iff all clash).mp inside
  rw [objects, mem_objectsListing_iff]
  simp only [isStrongDefinition_iff]

theorem exists_object_of_clash (inside : clash ∈ clashes all) :
    ∃ label, label ∈ clash.objects := by
  obtain ⟨several, _⟩ := (mem_clashes_iff all clash).mp inside
  -- one of the two definitions is enough
  rw [length_strongDefinitions] at several
  obtain ⟨occurrence, member, strong⟩ := List.countP_pos_iff.mp (Nat.lt_of_succ_lt several)
  obtain ⟨same, defined⟩ := of_decide_eq_true strong
  exact ⟨occurrence.object, (mem_objects_of_clash inside _).mpr
    ⟨occurrence, member, same, defined, rfl⟩⟩

theorem increasing_objects_of_clash (inside : clash ∈ clashes all) :
    clash.objects.Pairwise (· < ·) := by
  rw [((mem_clashes_iff all clash).mp inside).2]
  exact Names.pairwise_sorted _

end

/-! ### What other lines do not change -/

/-- Only the strong definitions count, whatever else stands between them. -/
theorem clashes_filter (all : List Occurrence) :
    clashes (all.filter fun occurrence => occurrence.linkage.isStrongDefinition)
      = clashes all := by
  -- each of the three lists that clashes are made of asks for strong definitions itself
  have kept (accepts : Occurrence → Bool)
      (strong : ∀ occurrence, accepts occurrence = true →
        occurrence.linkage.isStrongDefinition = true) :
      (all.filter fun occurrence => occurrence.linkage.isStrongDefinition).filter accepts
        = all.filter accepts := by
    rw [List.filter_filter]
    refine List.filter_congr fun occurrence _ => Bool.and_eq_left_iff_imp.mpr (strong occurrence)
  have definitions (name : String) :
      strongDefinitions (all.filter fun occurrence => occurrence.linkage.isStrongDefinition) name
        = strongDefinitions all name :=
    kept _ fun _ accepted => (Bool.and_eq_true_iff.mp accepted).1
  have objects (name : String) :
      objectsListing (all.filter fun occurrence => occurrence.linkage.isStrongDefinition) name
          Linkage.isStrongDefinition
        = objectsListing all name Linkage.isStrongDefinition := by
    rw [objectsListing, kept _ fun _ accepted => (Bool.and_eq_true_iff.mp accepted).2]
    rfl
  simp only [clashes, kept _ fun _ strong => strong, definitions, objects]

/-! ### The clashes of an audit -/

/-- All clashes, name by name: which names clash, that each of them is listed once and
in the order of bytes, which objects it is listed with, and that only strong definitions of the
two sides matter. -/
theorem clashes_exact (application library : List Occurrence) (variant : Variant) :
    let all := application ++ library
    let found := (findings application library variant).clashes
    (∀ name, (∃ clash ∈ found, clash.name = name)
        ↔ 2 ≤ all.countP fun occurrence =>
          occurrence.name = name ∧ occurrence.linkage = .defined)
      ∧ (∀ name, (found.map (·.name)).count name ≤ 1)
      ∧ (found.map (·.name)).Pairwise BytesBefore
      ∧ (∀ clash ∈ found, clash.objects ≠ [] ∧ clash.objects.Pairwise BytesBefore
        ∧ ∀ label, label ∈ clash.objects ↔ ∃ occurrence ∈ all,
          occurrence.name = clash.name ∧ occurrence.linkage = .defined
            ∧ occurrence.object = label)
      ∧ (findings (application.filter fun occurrence => occurrence.linkage = .defined)
          (library.filter fun occurrence => occurrence.linkage = .defined) variant).clashes
        = found := by
  intro all found
  have increasing := increasing_map_name_clashes all
  refine ⟨?_, ?_, ?_, ?_, ?_⟩
  · intro name
    rw [← length_strongDefinitions]
    exact exists_clash_iff all name
  · intro name
    exact List.nodup_iff_count.mp (increasing.imp fun {_ _} before => Std.ne_of_lt before) name
  · exact increasing.imp fun {_ _} before => bytesBefore_of_lt _ _ before
  · intro clash inside
    refine ⟨?_, ?_, mem_objects_of_clash inside⟩
    · obtain ⟨label, listed⟩ := exists_object_of_clash inside
      exact List.ne_nil_of_mem listed
    · exact (increasing_objects_of_clash inside).imp fun {_ _} before =>
        bytesBefore_of_lt _ _ before
  · have strong : (fun occurrence : Occurrence => decide (occurrence.linkage = .defined))
        = fun occurrence => occurrence.linkage.isStrongDefinition := by
      funext occurrence
      exact Bool.eq_iff_iff.mpr
        (decide_eq_true_iff.trans (isStrongDefinition_iff occurrence.linkage).symm)
    rw [strong]
    exact (congrArg clashes (List.filter_append ..).symm).trans (clashes_filter all)

end LinkContract.Audit
