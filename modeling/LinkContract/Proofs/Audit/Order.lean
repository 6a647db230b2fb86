import LinkContract.Proofs.Audit.Loading
import LinkContract.Proofs.Exports.Agreement

/-!
# The order of listings

A summary holds sorted lists and counts. Each list is determined by which occurrences there are
and, for clashes, by how many of them are strong definitions of a name, so neither the order of
occurrences nor the order of listings shows in it. Labels do not depend on the order of the paths
because the shared directory does not.
-/
namespace LinkContract.Audit

variable {first second : List Occurrence}

theorem defines_of_perm (perm : first.Perm second) (name : String) :
    defines first name = defines second name := perm.any_eq

theorem length_strongDefinitions_of_perm (perm : first.Perm second) (name : String) :
    (strongDefinitions first name).length = (strongDefinitions second name).length :=
  (perm.filter _).length_eq

theorem objectsListing_of_perm (perm : first.Perm second) (name : String)
    (accepts : Linkage → Bool) :
    objectsListing first name accepts = objectsListing second name accepts :=
  Names.sorted_eq_of_mem_iff _ _ fun _ => ((perm.filter _).map _).mem_iff

theorem clashes_of_perm (perm : first.Perm second) : clashes first = clashes second := by
  have strong : Names.sorted
        ((first.filter fun occurrence => occurrence.linkage.isStrongDefinition).map (·.name))
      = Names.sorted
        ((second.filter fun occurrence => occurrence.linkage.isStrongDefinition).map (·.name)) :=
    Names.sorted_eq_of_mem_iff _ _ fun _ => ((perm.filter _).map _).mem_iff
  simp only [clashes, strong, length_strongDefinitions_of_perm perm, objectsListing_of_perm perm]

theorem openReferences_of_perm {all others : List Occurrence} (perm : first.Perm second)
    (allPerm : all.Perm others) :
    (openReferences first all).Perm (openReferences second others) := by
  simp only [openReferences, defines_of_perm allPerm]
  exact (perm.filter _).map _

/-- What an audit finds does not depend on the order in which either side is listed. -/
theorem findings_of_perm {application applicationOrder library libraryOrder : List Occurrence}
    (applicationPerm : applicationOrder.Perm application)
    (libraryPerm : libraryOrder.Perm library) (variant : Variant) :
    findings applicationOrder libraryOrder variant = findings application library variant := by
  -- clashes and open references look at both sides together
  have all := applicationPerm.append libraryPerm
  have references := openReferences_of_perm applicationPerm all
  have kept (accepts : String → Bool) :
      Names.sorted ((openReferences applicationOrder (applicationOrder ++ libraryOrder)).filter
          accepts)
        = Names.sorted ((openReferences application (application ++ library)).filter accepts) :=
    Names.sorted_eq_of_mem_iff _ _ fun _ => (references.filter accepts).mem_iff
  simp only [findings, kept, clashes_of_perm all, defines_of_perm libraryPerm]

theorem ofOccurrences_of_perm
    {application applicationOrder library libraryOrder : List Occurrence}
    (applicationPerm : applicationOrder.Perm application)
    (libraryPerm : libraryOrder.Perm library) (variant : Variant) :
    Summary.ofOccurrences applicationOrder libraryOrder variant
      = Summary.ofOccurrences application library variant := by
  simp only [Summary.ofOccurrences, findings_of_perm applicationPerm libraryPerm,
    applicationPerm.length_eq, libraryPerm.length_eq]

/-- The summary is the same for every order in which the paths of either side are given. -/
theorem summary_of_any_order (read : Reader) (variant : Variant)
    (applicationPaths libraryPaths : List String)
    (hasApplication : applicationPaths ≠ []) (hasLibrary : libraryPaths ≠ [])
    (readable : ∀ path ∈ applicationPaths ++ libraryPaths, ∃ text, read path = .ok text) :
    ∃ summary, ∀ applicationOrder libraryOrder : List String,
      applicationOrder.Perm applicationPaths → libraryOrder.Perm libraryPaths →
      Gives read variant applicationOrder libraryOrder summary := by
  refine ⟨Summary.ofOccurrences
    (applicationPaths.flatMap (listing read (applicationPaths ++ libraryPaths)))
    (libraryPaths.flatMap (listing read (applicationPaths ++ libraryPaths))) variant, ?_⟩
  intro applicationOrder libraryOrder applicationPerm libraryPerm
  have all := applicationPerm.append libraryPerm
  have applicationOccupied : applicationOrder ≠ [] := by
    rintro rfl
    exact hasApplication applicationPerm.symm.eq_nil
  have libraryOccupied : libraryOrder ≠ [] := by
    rintro rfl
    exact hasLibrary libraryPerm.symm.eq_nil
  have gives := gives_of_readable read variant applicationOrder libraryOrder applicationOccupied
    libraryOccupied fun path inside => readable path (all.mem_iff.mp inside)
  -- every path has the label that it has in the other order
  have labels : Path.labelAmong (applicationOrder ++ libraryOrder)
      = Path.labelAmong (applicationPaths ++ libraryPaths) :=
    Path.labelAmong_eq_of_mem_iff _ _ (by simp [applicationOccupied]) fun _ => all.mem_iff
  have listings : listing read (applicationOrder ++ libraryOrder)
      = listing read (applicationPaths ++ libraryPaths) := by
    funext path
    rw [listing, listing, labels]
  rw [listings] at gives
  rwa [ofOccurrences_of_perm (applicationPerm.flatMap_right _)
    (libraryPerm.flatMap_right _)] at gives

/-- Two listings of an application, one of them an absolute path, that define the same name. -/
theorem summary_of_swapped_listings :
    let read : Reader := fun path =>
      .ok (if path = "shim.nm" then "" else "00000000 T main\n         U _Znwm\n")
    ∃ summary, Gives read {} ["sub/b.nm", "/a.nm"] ["shim.nm"] summary
      ∧ Gives read {} ["/a.nm", "sub/b.nm"] ["shim.nm"] summary
      ∧ summary.findings.clashes = [⟨"main", ["/a.nm", "sub/b.nm"]⟩] := by
  intro read
  obtain ⟨summary, gives⟩ := summary_of_any_order read {} ["sub/b.nm", "/a.nm"] ["shim.nm"]
    (by decide) (by decide) fun _ _ => ⟨_, rfl⟩
  have given := gives ["sub/b.nm", "/a.nm"] ["shim.nm"] (.refl _) (.refl _)
  have swapped := gives ["/a.nm", "sub/b.nm"] ["shim.nm"] (.swap _ _ _) (.refl _)
  have computed : ((run read {} ["sub/b.nm", "/a.nm"] ["shim.nm"] (.still .epoch 0)
      none).1.toOption.map fun summary => summary.findings.clashes)
      = some [⟨"main", ["/a.nm", "sub/b.nm"]⟩] := by
    decide +kernel
  rw [given.unlogged] at computed
  exact ⟨summary, given, swapped, Option.some.inj computed⟩

end LinkContract.Audit
