import LinkContract.Manifest
import LinkContract.Proofs.Json.Documents

/-!
# Manifests and indexes that read back

Both documents are records with a list of records in them. Of each record two things are shown:
its members pass the checks of their fields, and the decoder finds every field under its key. The
size of an artifact may be left out, and is then read as no size.

`documents_read_back` is about the written texts. The records inside are read at any depth, so
the depth of a document is the number of records and lists around its innermost text.
-/
namespace LinkContract

open Json

/-! ### Manifests -/

namespace Variant.Label

theorem roundTrips (depth : Nat) : RoundTrips (depth + 1) toJson decode := by
  have text := roundTrips_string depth
  have flag := roundTrips_bool depth
  have distinct : ["toolchain", "std_mode", "rtti", "size_type"].Nodup := by decide
  refine roundTrips_record schema _ (fun label => ?_) fun label read => ?_
  · simp only [List.forall_mem_cons]
    exact ⟨schema.stores_required text _ _ rfl, schema.stores_required text _ _ rfl,
      schema.stores_required flag _ _ rfl, schema.stores_required text _ _ rfl,
      List.forall_mem_nil _⟩
  · refine bind_eq_ok read ?_
    refine bind_eq_ok (required_asRead text distinct rfl) ?_
    refine bind_eq_ok (required_asRead text distinct rfl) ?_
    refine bind_eq_ok (required_asRead flag distinct rfl) ?_
    exact bind_eq_ok (required_asRead text distinct rfl) rfl

end Variant.Label

namespace Manifest

theorem Row.roundTrips (depth : Nat) : RoundTrips (depth + 1) Row.toJson Row.decode := by
  have text := roundTrips_string depth
  have distinct : ["link_name", "category", "requirement", "declaration"].Nodup := by decide
  refine roundTrips_record Row.schema _ (fun row => ?_) fun row read => ?_
  · simp only [List.forall_mem_cons]
    exact ⟨Row.schema.stores_required text _ _ rfl, Row.schema.stores_required text _ _ rfl,
      Row.schema.stores_required text _ _ rfl, Row.schema.stores_required text _ _ rfl,
      List.forall_mem_nil _⟩
  · refine bind_eq_ok read ?_
    refine bind_eq_ok (required_asRead text distinct rfl) ?_
    refine bind_eq_ok (required_asRead text distinct rfl) ?_
    refine bind_eq_ok (required_asRead text distinct rfl) ?_
    exact bind_eq_ok (required_asRead text distinct rfl) rfl

theorem roundTrips (depth : Nat) : RoundTrips (depth + 3) toJson decode := by
  have version := roundTrips_word32 (depth + 2)
  have label := Variant.Label.roundTrips (depth + 1)
  have rows := roundTrips_list (Row.roundTrips depth)
  have text := roundTrips_string (depth + 2)
  have distinct : ["manifest_version", "variant", "symbols", "required_digest"].Nodup := by decide
  refine roundTrips_record schema _ (fun manifest => ?_) fun manifest read => ?_
  · simp only [List.forall_mem_cons]
    exact ⟨schema.stores_required version _ _ rfl, schema.stores_required label _ _ rfl,
      schema.stores_required rows _ _ rfl, schema.stores_required text _ _ rfl,
      List.forall_mem_nil _⟩
  · refine bind_eq_ok read ?_
    refine bind_eq_ok (required_asRead version distinct rfl) ?_
    refine bind_eq_ok (required_asRead label distinct rfl) ?_
    refine bind_eq_ok (required_asRead rows distinct rfl) ?_
    exact bind_eq_ok (required_asRead text distinct rfl) rfl

end Manifest

/-! ### Indexes -/

theorem Json.normal_natural (number : Nat) : normal (.natural number) = .natural number := by
  simp [natural, normal]

namespace Artifact

theorem roundTrips (depth : Nat) : RoundTrips (depth + 1) toJson decode := by
  have text := roundTrips_string depth
  have size := roundTrips_word64 depth
  have notNull (word : UInt64) : normal (.natural word.toNat) ≠ .null := by
    rw [normal_natural]
    exact Json.noConfusion
  -- with the size or without it, no key is repeated
  have distinct (present : Option UInt64) :
      (["path", "kind", "sha256"] ++ (sizeMember present).map Prod.fst).Nodup := by
    cases present
    · decide
    · change ["path", "kind", "sha256", "size_bytes"].Nodup
      decide
  refine roundTrips_record schema _ (fun artifact => ?_) fun artifact read => ?_
  · simp only [List.cons_append, List.nil_append, List.forall_mem_cons]
    refine ⟨schema.stores_required text _ _ rfl, schema.stores_required text _ _ rfl,
      schema.stores_required text _ _ rfl, ?_⟩
    -- the member of the size is there only when the size is
    cases artifact.size with
    | none => exact List.forall_mem_nil _
    | some word =>
      exact List.forall_mem_singleton.mpr (schema.stores_optional size _ word (notNull word) rfl)
  · have keys := distinct artifact.size
    refine bind_eq_ok read ?_
    refine bind_eq_ok (required_asRead text keys rfl) ?_
    refine bind_eq_ok (required_asRead text keys rfl) ?_
    refine bind_eq_ok (required_asRead text keys rfl) ?_
    refine bind_eq_ok (optional_asRead size keys notNull ?_) rfl
    cases artifact.size <;> rfl

end Artifact

namespace ArtifactIndex

theorem roundTrips (depth : Nat) : RoundTrips (depth + 3) toJson decode := by
  have version := roundTrips_word32 (depth + 2)
  have text := roundTrips_string (depth + 2)
  have artifacts := roundTrips_list (Artifact.roundTrips depth)
  have distinct : ["index_version", "run_id", "generated_utc", "artifacts"].Nodup := by decide
  refine roundTrips_record schema _ (fun index => ?_) fun index read => ?_
  · simp only [List.forall_mem_cons]
    exact ⟨schema.stores_required version _ _ rfl, schema.stores_required text _ _ rfl,
      schema.stores_required text _ _ rfl, schema.stores_required artifacts _ _ rfl,
      List.forall_mem_nil _⟩
  · refine bind_eq_ok read ?_
    refine bind_eq_ok (required_asRead version distinct rfl) ?_
    refine bind_eq_ok (required_asRead text distinct rfl) ?_
    refine bind_eq_ok (required_asRead text distinct rfl) ?_
    exact bind_eq_ok (required_asRead artifacts distinct rfl) rfl

end ArtifactIndex

/-- The text of a manifest gives the same manifest back, and so does that of an index, whatever
they hold. -/
theorem documents_read_back :
    (∀ manifest : Manifest, readAs? Manifest.decode manifest.text = some manifest)
      ∧ ∀ index : ArtifactIndex, readAs? ArtifactIndex.decode index.text = some index := by
  constructor
  · intro manifest
    exact (Manifest.roundTrips 124).readAs?_pretty manifest
  · intro index
    exact (ArtifactIndex.roundTrips 124).readAs?_pretty index

end LinkContract
