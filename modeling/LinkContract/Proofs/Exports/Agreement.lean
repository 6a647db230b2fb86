import LinkContract.Exports
import LinkContract.Proofs.Audit.References
import Mathlib.Data.List.Nodup

/-!
# Audited libraries and planned exports

A library is held against the requirements of a variant twice: an audit looks at the names
that its objects define, a check of an export set at the entry points that it is to export.
Since no two entry points share a link name, an export set that has the entry points whose
names are defined gives the same missing and the same stray names. The audit sorts them.
-/
namespace LinkContract

namespace EntryPoint

theorem nodup_map_linkName (size : SizeSpelling) : (catalog.map (linkName size)).Nodup := by
  cases size <;> decide +kernel

/-- Under one spelling a link name belongs to one entry point. -/
theorem eq_of_linkName_eq (size : SizeSpelling) (first second : EntryPoint)
    (same : first.linkName size = second.linkName size) : first = second :=
  List.inj_on_of_nodup_map (nodup_map_linkName size) (mem_catalog first) (mem_catalog second) same

end EntryPoint

namespace Names

theorem nodup_sorted (names : List String) : (sorted names).Nodup := by
  apply (pairwise_sorted names).imp
  rintro name _ before rfl
  exact String.lt_irrefl name before

theorem sorted_perm (names : List String) (distinct : names.Nodup) :
    (sorted names).Perm names :=
  (List.perm_ext_iff_of_nodup (nodup_sorted names) distinct).mpr fun name => mem_sorted name names

/-- A sorted list depends on nothing but which names there are. -/
theorem sorted_eq_of_mem_iff (first second : List String)
    (same : ∀ name, name ∈ first ↔ name ∈ second) : sorted first = sorted second := by
  have perm : (sorted first).Perm (sorted second) := by
    apply (List.perm_ext_iff_of_nodup (nodup_sorted first) (nodup_sorted second)).mpr
    simp only [mem_sorted, same, implies_true]
  apply perm.eq_of_pairwise _ (pairwise_sorted first) (pairwise_sorted second)
  intro name other _ _ before after
  exact absurd after (String.lt_asymm before)

end Names

namespace ExportReport

theorem nodup_namesWhere (size : SizeSpelling) (accepts : EntryPoint → Bool) :
    (namesWhere size accepts).Nodup :=
  (EntryPoint.nodup_map_linkName size).sublist
    (List.filter_sublist.map (EntryPoint.linkName size))

end ExportReport

namespace Audit

open Text

/-- The same names, each as often, in strictly increasing order of their bytes. -/
structure ByteSorted (names sorted : List String) : Prop where
  perm : sorted.Perm names
  increasing : sorted.Pairwise BytesBefore

theorem byteSorted_catalogNames (size : SizeSpelling) (accepts : EntryPoint → Bool) :
    ByteSorted (ExportReport.namesWhere size accepts) (catalogNames size accepts) where
  perm := Names.sorted_perm _ (ExportReport.nodup_namesWhere size accepts)
  increasing := pairwise_bytesBefore_sorted _

/-- What an audit misses in a library and what it finds stray there are the sorted names that
the check of a matching export set gives, whatever the application refers to. -/
theorem exports_agree (application library : List Occurrence) (variant : Variant)
    (exported : List EntryPoint)
    (matching : ∀ entry, entry ∈ exported ↔ Defined library (entry.linkName variant.size)) :
    let found := findings application library variant
    let report := ExportReport.check exported variant
    ByteSorted report.missing found.missing ∧ ByteSorted report.stray found.stray
      ∧ report.missing.Nodup ∧ report.stray.Nodup
      ∧ ∀ other : List Occurrence, (findings other library variant).missing = found.missing
        ∧ (findings other library variant).stray = found.stray := by
  intro found report
  have provided (entry : EntryPoint) :
      exported.contains entry = defines library (entry.linkName variant.size) := by
    rw [Bool.eq_iff_iff, List.contains_iff_mem, matching, defines_iff]
  have missing : report.missing = ExportReport.namesWhere variant.size fun entry =>
      variant.requirement entry = .required && !defines library (entry.linkName variant.size) := by
    simp only [report, ExportReport.check, provided]
  have stray : report.stray = ExportReport.namesWhere variant.size fun entry =>
      variant.requirement entry = .excluded && defines library (entry.linkName variant.size) := by
    simp only [report, ExportReport.check, provided]
  rw [missing, stray]
  -- neither list of the audit looks at the application
  exact ⟨byteSorted_catalogNames _ _, byteSorted_catalogNames _ _,
    ExportReport.nodup_namesWhere _ _, ExportReport.nodup_namesWhere _ _,
    fun _ => ⟨rfl, rfl⟩⟩

/-- A library with copies of two entry points and an export set that repeats one of them. Local
names and references do not count; the cast is stray without run-time type information. -/
theorem exports_agree_with_copies :
    let library : List Occurrence :=
      [⟨"new.o", "_Znwm", .weakDefined⟩, ⟨"cast.o", "__dynamic_cast", .defined⟩,
        ⟨"cast.o", "_ZdlPv", .local⟩, ⟨"new.o", "_Znam", .undefined⟩,
        ⟨"copy.o", "__dynamic_cast", .weakDefined⟩]
    let exported : List EntryPoint :=
      [.trap .dynamicCast, .new false false, .trap .dynamicCast]
    (∀ entry, entry ∈ exported ↔ Defined library (entry.linkName .unsignedLong))
      ∧ ByteSorted (ExportReport.check exported {}).missing (findings [] library {}).missing
      ∧ ByteSorted (ExportReport.check exported {}).stray (findings [] library {}).stray
      ∧ (findings [] library {}).stray = ["__dynamic_cast"] := by
  intro library exported
  -- every entry point is in the catalog, so the whole of it is compared
  have each : ∀ entry ∈ EntryPoint.catalog,
      decide (entry ∈ exported) = defines library (entry.linkName .unsignedLong) := by
    decide +kernel
  have matching (entry : EntryPoint) :
      entry ∈ exported ↔ Defined library (entry.linkName .unsignedLong) := by
    rw [← defines_iff, ← each entry (EntryPoint.mem_catalog entry), decide_eq_true_iff]
  obtain ⟨missing, stray, _⟩ := exports_agree [] library {} exported matching
  exact ⟨matching, missing, stray, by decide +kernel⟩

end Audit

end LinkContract
