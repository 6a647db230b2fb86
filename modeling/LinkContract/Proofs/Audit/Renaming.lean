import LinkContract.Proofs.Audit.Loading
import Mathlib.Data.List.Forall2

/-!
# Listings under other names

The path of a listing gives it a label, which stands for its object until a header replaces it.
A label is never compared with anything when a listing is read, and the audit looks at names and
linkages only; labels are collected at the end, in the objects of clashes.

Two runs on the same texts are therefore compared by what their occurrences say without their
objects. Reading preserves it line by line, and every list of an audit but the objects of the
clashes is a function of it.
-/
namespace LinkContract

/-- What an occurrence says, whatever its object. -/
def Occurrence.said (occurrence : Occurrence) : String × Linkage :=
  (occurrence.name, occurrence.linkage)

theorem Listing.map_said_collect (object other : String) (lines : List Listing.Line) :
    (Listing.collect object lines).map Occurrence.said
      = (Listing.collect other lines).map Occurrence.said := by
  induction lines generalizing object other with
  | nil => rfl
  | cons line rest ih =>
    cases line with
    | skipped => exact ih object other
    | header label => rfl
    | symbol label linkage name =>
      -- the labels may differ, and they are the only difference
      simp only [Listing.collect, List.map_cons]
      rw [ih object other]
      rfl

theorem Listing.map_said_parse (object other text : String) :
    (Listing.parse object text).map Occurrence.said
      = (Listing.parse other text).map Occurrence.said :=
  Listing.map_said_collect object other (Listing.read text)

namespace Audit

/-- Both lists say the same, occurrence by occurrence. -/
def SayAlike (first second : List Occurrence) : Prop :=
  first.map Occurrence.said = second.map Occurrence.said

section

variable {first second : List Occurrence}

theorem SayAlike.append {others more : List Occurrence} (alike : SayAlike first second)
    (also : SayAlike others more) : SayAlike (first ++ others) (second ++ more) := by
  rw [SayAlike, List.map_append, List.map_append, alike, also]

theorem SayAlike.length_eq (alike : SayAlike first second) : first.length = second.length := by
  rw [← List.length_map Occurrence.said, alike, List.length_map]

/-- A selection by names and linkages has the same names in both lists. -/
theorem SayAlike.map_name_filter (alike : SayAlike first second)
    (accepts : String × Linkage → Bool) :
    (first.filter fun occurrence => accepts occurrence.said).map (·.name)
      = (second.filter fun occurrence => accepts occurrence.said).map (·.name) := by
  have selected (occurrences : List Occurrence) :
      (occurrences.filter fun occurrence => accepts occurrence.said).map (·.name)
        = ((occurrences.map Occurrence.said).filter accepts).map Prod.fst := by
    rw [List.filter_map, List.map_map]
    rfl
  rw [selected, selected, alike]

theorem SayAlike.defines_eq (alike : SayAlike first second) (name : String) :
    defines first name = defines second name := by
  have factored (occurrences : List Occurrence) : defines occurrences name
      = (occurrences.map Occurrence.said).any fun said =>
        said.2.isDefinition && said.1 == name := by
    rw [List.any_map]
    rfl
  rw [factored, factored, alike]

theorem SayAlike.length_strongDefinitions_eq (alike : SayAlike first second) (name : String) :
    (strongDefinitions first name).length = (strongDefinitions second name).length := by
  have names := alike.map_name_filter fun said => said.2.isStrongDefinition && said.1 == name
  have lengths := congrArg List.length names
  rwa [List.length_map, List.length_map] at lengths

theorem SayAlike.openReferences_eq {all others : List Occurrence} (alike : SayAlike first second)
    (allAlike : SayAlike all others) : openReferences first all = openReferences second others := by
  simp only [openReferences, allAlike.defines_eq]
  exact alike.map_name_filter fun said => decide (said.2 = .undefined) && !defines others said.1

theorem SayAlike.map_name_clashes (alike : SayAlike first second) :
    (clashes first).map (·.name) = (clashes second).map (·.name) := by
  have strong := alike.map_name_filter fun said => said.2.isStrongDefinition
  simp only [Occurrence.said] at strong
  simp only [clashes, List.map_map, Function.comp_def, strong, alike.length_strongDefinitions_eq]

end

/-- The findings are the same but for the objects of the clashes. -/
structure DifferInObjects (first second : Findings) : Prop where
  unresolved : first.unresolved = second.unresolved
  unsupported : first.unsupported = second.unsupported
  stray : first.stray = second.stray
  missing : first.missing = second.missing
  clashes : first.clashes.map (·.name) = second.clashes.map (·.name)

theorem DifferInObjects.isClean_eq {first second : Findings}
    (same : DifferInObjects first second) : first.isClean = second.isClean := by
  have clashes : first.clashes.isEmpty = second.clashes.isEmpty := by
    rw [← List.isEmpty_map (f := Clash.name), same.clashes, List.isEmpty_map]
  rw [Findings.isClean, Findings.isClean, same.unresolved, same.unsupported, same.missing, clashes]

theorem findings_of_sayAlike {application otherApplication library otherLibrary : List Occurrence}
    (applications : SayAlike application otherApplication)
    (libraries : SayAlike library otherLibrary) (variant : Variant) :
    DifferInObjects (findings application library variant)
      (findings otherApplication otherLibrary variant) := by
  have all := applications.append libraries
  have references := applications.openReferences_eq all
  exact {
    unresolved := by simp only [findings, references]
    unsupported := by simp only [findings, references]
    stray := by simp only [findings, libraries.defines_eq]
    missing := by simp only [findings, libraries.defines_eq]
    clashes := all.map_name_clashes }

/-! ### Two runs -/

/-- Both paths lead to one text. -/
def SameText (read other : Reader) (path renamed : String) : Prop :=
  ∃ text, read path = .ok text ∧ other renamed = .ok text

theorem sayAlike_flatMap_listing (read other : Reader) (all renamedAll : List String)
    (paths renamed : List String) (same : List.Forall₂ (SameText read other) paths renamed) :
    SayAlike (paths.flatMap (listing read all)) (renamed.flatMap (listing other renamedAll)) := by
  induction same with
  | nil => rfl
  | cons alike rest ih =>
    obtain ⟨text, found, also⟩ := alike
    rw [List.flatMap_cons, List.flatMap_cons]
    refine SayAlike.append ?_ ih
    rw [listing, listing, content_of_ok read _ text found, content_of_ok other _ text also]
    exact Listing.map_said_parse _ _ text

theorem readable_of_sameText (read other : Reader) (paths renamed : List String)
    (same : List.Forall₂ (SameText read other) paths renamed) :
    (∀ path ∈ paths, ∃ text, read path = .ok text)
      ∧ ∀ path ∈ renamed, ∃ text, other path = .ok text := by
  induction same with
  | nil => exact ⟨List.forall_mem_nil _, List.forall_mem_nil _⟩
  | cons alike rest ih =>
    obtain ⟨text, found, also⟩ := alike
    exact ⟨List.forall_mem_cons.mpr ⟨⟨text, found⟩, ih.1⟩,
      List.forall_mem_cons.mpr ⟨⟨text, also⟩, ih.2⟩⟩

theorem ne_nil_of_sameText (read other : Reader) (paths renamed : List String)
    (same : List.Forall₂ (SameText read other) paths renamed) (occupied : paths ≠ []) :
    renamed ≠ [] := by
  cases same with
  | nil => exact absurd rfl occupied
  | cons => exact List.cons_ne_nil _ _

/-- Where listings lie and what their files are called shows in a summary only as the objects of
clashes. -/
theorem summary_of_renamed_listings (read other : Reader) (variant : Variant)
    (applicationPaths libraryPaths applicationRenamed libraryRenamed : List String)
    (hasApplication : applicationPaths ≠ []) (hasLibrary : libraryPaths ≠ [])
    (applications : List.Forall₂ (SameText read other) applicationPaths applicationRenamed)
    (libraries : List.Forall₂ (SameText read other) libraryPaths libraryRenamed) :
    ∃ first second, Gives read variant applicationPaths libraryPaths first
      ∧ Gives other variant applicationRenamed libraryRenamed second
      ∧ first.variant = second.variant ∧ first.clean = second.clean
      ∧ first.applicationCount = second.applicationCount
      ∧ first.libraryCount = second.libraryCount
      ∧ DifferInObjects first.findings second.findings := by
  obtain ⟨applicationRead, applicationAlso⟩ := readable_of_sameText _ _ _ _ applications
  obtain ⟨libraryRead, libraryAlso⟩ := readable_of_sameText _ _ _ _ libraries
  have gives := gives_of_readable read variant applicationPaths libraryPaths hasApplication
    hasLibrary (List.forall_mem_append.mpr ⟨applicationRead, libraryRead⟩)
  have also := gives_of_readable other variant applicationRenamed libraryRenamed
    (ne_nil_of_sameText _ _ _ _ applications hasApplication)
    (ne_nil_of_sameText _ _ _ _ libraries hasLibrary)
    (List.forall_mem_append.mpr ⟨applicationAlso, libraryAlso⟩)
  -- the labels of either side come from the paths of both sides
  have applicationAlike := sayAlike_flatMap_listing read other (applicationPaths ++ libraryPaths)
    (applicationRenamed ++ libraryRenamed) _ _ applications
  have libraryAlike := sayAlike_flatMap_listing read other (applicationPaths ++ libraryPaths)
    (applicationRenamed ++ libraryRenamed) _ _ libraries
  have found := findings_of_sayAlike applicationAlike libraryAlike variant
  exact ⟨_, _, gives, also, rfl, found.isClean_eq, applicationAlike.length_eq,
    libraryAlike.length_eq, found⟩

/-- Two listings that clash: under other paths they get one label between them. -/
theorem summary_of_listings_of_one_label :
    let text := "00000000 T main\nT.o:\n00000000 W _Znwm\n"
    let read : Reader := fun _ => .ok text
    ∃ first second, Gives read {} ["a.nm", "b.nm"] ["shim.nm"] first
      ∧ Gives read {} ["x//a.nm", "x/./a.nm"] ["x/a.nm"] second
      ∧ first.clean = second.clean
      ∧ first.findings.clashes = [⟨"main", ["a.nm", "b.nm", "shim.nm"]⟩]
      ∧ second.findings.clashes = [⟨"main", ["a.nm"]⟩] := by
  intro text read
  have same (path renamed : String) : SameText read read path renamed := ⟨text, rfl, rfl⟩
  obtain ⟨first, second, gives, also, _, clean, _⟩ := summary_of_renamed_listings read read {}
    ["a.nm", "b.nm"] ["shim.nm"] ["x//a.nm", "x/./a.nm"] ["x/a.nm"] (by decide) (by decide)
    (.cons (same _ _) (.cons (same _ _) .nil)) (.cons (same _ _) .nil)
  have given : ((run read {} ["a.nm", "b.nm"] ["shim.nm"] (.still .epoch 0) none).1.toOption.map
      fun summary => summary.findings.clashes) = some [⟨"main", ["a.nm", "b.nm", "shim.nm"]⟩] := by
    decide +kernel
  have renamed : ((run read {} ["x//a.nm", "x/./a.nm"] ["x/a.nm"] (.still .epoch 0)
      none).1.toOption.map fun summary => summary.findings.clashes)
      = some [⟨"main", ["a.nm"]⟩] := by
    decide +kernel
  rw [gives.unlogged] at given
  rw [also.unlogged] at renamed
  exact ⟨first, second, gives, also, clean, Option.some.inj given, Option.some.inj renamed⟩

end Audit

end LinkContract
