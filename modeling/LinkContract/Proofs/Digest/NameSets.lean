import LinkContract.Manifest
import LinkContract.Proofs.Audit.FittingLibrary
import LinkContract.Proofs.Text.ByteOrder
import LinkContract.Proofs.Text.Pieces

/-!
# Digests of sets of names

What is hashed for a list of names is a normal form of the set of its names: sorted, without
repeats, and joined in such a way that the names are found again. So two lists give the same bytes
just when they have the same names, and what is left between equal digests and equal sets are the
collisions of SHA-256.

The digest of a manifest is one of these: it is taken of the names that the manifest requires.
-/
namespace LinkContract

/-! ### Bytes of a text -/

namespace Text

theorem toList_loop (contents : ByteArray) (start : Nat) (taken : List UInt8) :
    ByteArray.toList.loop contents start taken
      = taken.reverse ++ contents.data.toList.drop start := by
  fun_induction ByteArray.toList.loop contents start taken with
  | case1 start taken inside ih =>
    have here : start < contents.data.toList.length := inside
    -- the byte that is taken is the first of those that are left
    have byte : contents.get! start = contents.data.toList[start] := by
      rw [ByteArray.get!, Array.getElem_toList]
      exact getElem!_pos contents.data start inside
    rw [ih, List.drop_eq_getElem_cons here, byte, List.reverse_cons, List.append_assoc,
      List.singleton_append]
  | case2 start taken outside =>
    have past : contents.data.toList.length ≤ start := Nat.le_of_not_lt outside
    rw [List.drop_eq_nil_of_le past, List.append_nil]

theorem bytes_eq_toList (text : String) : text.toUTF8.toList = bytes text := by
  rw [ByteArray.toList, toList_loop, bytes, List.reverse_nil, List.nil_append, List.drop_zero]

theorem bytes_injective {first second : String} (same : bytes first = bytes second) :
    first = second := by
  apply String.toByteArray_inj.mp
  apply ByteArray.ext
  exact Array.toList_inj.mp same

end Text

/-! ### Collisions -/

namespace Sha256

/-- Different messages with the same digest. -/
def Collide (first second : List UInt8) : Prop := first ≠ second ∧ digest first = digest second

theorem digitChar_injective :
    ∀ digit < 16, ∀ other < 16, Nat.digitChar digit = Nat.digitChar other → digit = other := by
  decide

theorem hexOfByte_injective {byte other : UInt8} (same : hexOfByte byte = hexOfByte other) :
    byte = other := by
  have bound := byte.toNat_lt
  have bound' := other.toNat_lt
  simp only [hexOfByte, List.cons.injEq, and_true] at same
  -- the two digits are the quotient and the remainder by 16
  have high := digitChar_injective _ (by omega) _ (by omega) same.1
  have low := digitChar_injective _ (by omega) _ (by omega) same.2
  apply UInt8.toNat_inj.mp
  omega

/-- Every byte is written with two digits, so no text stands for two lists of bytes. -/
theorem flatMap_hexOfByte_injective {first second : List UInt8}
    (same : first.flatMap hexOfByte = second.flatMap hexOfByte) : first = second := by
  induction first generalizing second with
  | nil =>
    cases second with
    | nil => rfl
    | cons other others => simp [hexOfByte] at same
  | cons byte rest ih =>
    cases second with
    | nil => simp [hexOfByte] at same
    | cons other others =>
      rw [List.flatMap_cons, List.flatMap_cons] at same
      obtain ⟨front, back⟩ := List.append_inj same rfl
      rw [hexOfByte_injective front, ih back]

theorem hex_eq_iff (first second : List UInt8) :
    hex first = hex second ↔ digest first = digest second := by
  constructor
  · intro same
    exact flatMap_hexOfByte_injective (String.ofList_injective same)
  · intro same
    rw [hex, hex, same]

end Sha256

/-! ### Names that are found again -/

namespace Names

/-- A name that can stand on a line of its own. -/
def IsWhole (name : String) : Prop := name ≠ "" ∧ '\n' ∉ name.toList

theorem sorted_of_joined {first second : List String} (whole : ∀ name ∈ first, IsWhole name)
    (whole' : ∀ name ∈ second, IsWhole name) (same : joined first = joined second) :
    sorted first = sorted second := by
  -- the pieces between line feeds are the sorted names, but for the piece that no names leave
  have found (names : List String) (each : ∀ name ∈ names, IsWhole name) :
      (Text.pieces (· == '\n') (joined names).toList).filter (fun piece => !piece.isEmpty)
        = (sorted names).map String.toList := by
    rw [joined, String.toList_ofList, Text.filter_pieces_joinLines]
    intro part inside
    obtain ⟨name, member, rfl⟩ := List.mem_map.mp inside
    have own := each name ((mem_sorted name names).mp member)
    exact ⟨fun empty => own.1 (String.toList_inj.mp empty), own.2⟩
  have lists : (sorted first).map String.toList = (sorted second).map String.toList := by
    rw [← found first whole, ← found second whole', same]
  exact List.map_injective_iff.mpr (fun _ _ => String.toList_inj.mp) lists

theorem digestInput_eq (names : List String) : digestInput names = Text.bytes (joined names) :=
  Text.bytes_eq_toList (joined names)

theorem digestInput_eq_iff {first second : List String} (whole : ∀ name ∈ first, IsWhole name)
    (whole' : ∀ name ∈ second, IsWhole name) :
    digestInput first = digestInput second ↔ ∀ name, name ∈ first ↔ name ∈ second := by
  rw [digestInput_eq, digestInput_eq]
  constructor
  · intro same name
    have lists := sorted_of_joined whole whole' (Text.bytes_injective same)
    rw [← mem_sorted name first, lists, mem_sorted]
  · intro same
    rw [joined, joined, sorted_eq_of_mem_iff first second same]

theorem digest_eq_iff {first second : List String} (whole : ∀ name ∈ first, IsWhole name)
    (whole' : ∀ name ∈ second, IsWhole name) :
    digest first = digest second
      ↔ (∀ name, name ∈ first ↔ name ∈ second)
        ∨ Sha256.Collide (digestInput first) (digestInput second) := by
  have input := digestInput_eq_iff whole whole'
  rw [digest, digest, Sha256.hex_eq_iff]
  constructor
  · intro same
    -- equal digests come from equal messages, which are equal sets, or from different ones
    by_cases equal : digestInput first = digestInput second
    · exact Or.inl (input.mp equal)
    · exact Or.inr ⟨equal, same⟩
  · rintro (sets | ⟨_, same⟩)
    · rw [input.mpr sets]
    · exact same

end Names

/-! ### Manifests -/

theorem EntryPoint.isWhole_linkName (entry : EntryPoint) (size : SizeSpelling) :
    Names.IsWhole (entry.linkName size) := by
  obtain ⟨occupied, solid⟩ := Listing.solid_linkName size entry
  refine ⟨?_, Listing.not_mem_of_isBlank _ '\n' solid Text.isBlank_lineFeed⟩
  intro empty
  exact occupied (by rw [empty]; rfl)

namespace Manifest

open Names

theorem name_eq_required_iff (requirement : Requirement) :
    requirement.name = Requirement.required.name ↔ requirement = .required := by
  cases requirement <;> decide

theorem namesWith_required (variant : Variant) :
    (ofVariant variant).namesWith .required
      = variant.required.map (EntryPoint.linkName variant.size) := by
  -- rows are chosen by the text of their requirement, which belongs to one requirement only
  have kept : (fun row : Row => row.requirement == Requirement.required.name) ∘ Row.ofEntry variant
      = fun entry => decide (variant.requirement entry = .required) := by
    funext entry
    rw [Function.comp_apply, Bool.eq_iff_iff, beq_iff_eq, decide_eq_true_eq]
    exact name_eq_required_iff (variant.requirement entry)
  rw [namesWith, ofVariant, List.filter_map, List.map_map, kept]
  rfl

theorem isWhole_of_mem_namesWith_required (variant : Variant) :
    ∀ name ∈ (ofVariant variant).namesWith .required, IsWhole name := by
  rw [namesWith_required]
  intro name inside
  obtain ⟨entry, _, rfl⟩ := List.mem_map.mp inside
  exact entry.isWhole_linkName variant.size

theorem requiredDigest_ofVariant (variant : Variant) :
    (ofVariant variant).requiredDigest = digest ((ofVariant variant).namesWith .required) := by
  rw [namesWith_required]
  rfl

end Manifest

namespace Names

/-- For names that are not empty and hold no line feed, the bytes that are hashed are the same
just when the names are, so order and repeats do not matter; the digests are the same in no other
case than a collision. The same holds of the names that two variants require. -/
theorem digest_tells_name_sets :
    (∀ first second : List String,
        (∀ name ∈ first, name ≠ "" ∧ '\n' ∉ name.toList) →
        (∀ name ∈ second, name ≠ "" ∧ '\n' ∉ name.toList) →
        (digestInput first = digestInput second ↔ ∀ name, name ∈ first ↔ name ∈ second)
          ∧ (digest first = digest second
            ↔ (∀ name, name ∈ first ↔ name ∈ second)
              ∨ Sha256.Collide (digestInput first) (digestInput second)))
      ∧ ∀ variant other : Variant,
        let required := (Manifest.ofVariant variant).namesWith .required
        let needed := (Manifest.ofVariant other).namesWith .required
        (Manifest.ofVariant variant).requiredDigest = (Manifest.ofVariant other).requiredDigest
          ↔ (∀ name, name ∈ required ↔ name ∈ needed)
            ∨ Sha256.Collide (digestInput required) (digestInput needed) := by
  constructor
  · intro first second whole whole'
    exact ⟨digestInput_eq_iff whole whole', digest_eq_iff whole whole'⟩
  · intro variant other required needed
    rw [Manifest.requiredDigest_ofVariant, Manifest.requiredDigest_ofVariant]
    exact digest_eq_iff (Manifest.isWhole_of_mem_namesWith_required variant)
      (Manifest.isWhole_of_mem_namesWith_required other)

/-- Another order and a repeat give the same bytes and one name more gives others, also when it
begins like a name that is there. -/
theorem digest_of_repeated_names :
    let first := ["_Znwm", "_Znam"]
    let second := ["_Znam", "_Znwm", "_Znam"]
    let third := ["_Znam", "_Zna", "_Znwm"]
    (∀ name ∈ first, name ≠ "" ∧ '\n' ∉ name.toList)
      ∧ (∀ name ∈ second, name ≠ "" ∧ '\n' ∉ name.toList)
      ∧ (∀ name ∈ third, name ≠ "" ∧ '\n' ∉ name.toList)
      ∧ digestInput first = digestInput second ∧ digest first = digest second
      ∧ digestInput first ≠ digestInput third := by
  intro first second third
  have whole : ∀ name ∈ first, name ≠ "" ∧ '\n' ∉ name.toList := by decide
  have whole' : ∀ name ∈ second, name ≠ "" ∧ '\n' ∉ name.toList := by decide
  have longer : ∀ name ∈ third, name ≠ "" ∧ '\n' ∉ name.toList := by decide
  have same : ∀ name, name ∈ first ↔ name ∈ second := by
    intro name
    simp only [first, second, List.mem_cons, List.not_mem_nil, or_false]
    tauto
  have equal := digest_tells_name_sets.1 first second whole whole'
  have other := (digest_tells_name_sets.1 first third whole longer).1
  refine ⟨whole, whole', longer, equal.1.mpr same, equal.2.mpr (Or.inl same), ?_⟩
  intro bytes
  exact absurd ((other.mp bytes "_Zna").mpr (by decide)) (by decide)

/-- An empty name is not told from no name, and a line feed not from the end of a name. -/
example : joined [""] = joined [] ∧ joined ["a\nb"] = joined ["a", "b"] := by decide

end Names

end LinkContract
