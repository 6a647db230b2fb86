import LinkContract.Proofs.Json.Decoding
import LinkContract.Proofs.Json.RoundTrip

/-!
# Documents that read back

An encoder and a decoder belong together when every value comes back: what is encoded can be read
at a given depth, and what has been read is decoded to the value. `RoundTrips` says so. It is
shown for texts, words and lists once, and for a record from what is known of its fields, so a
document of records in lists of records needs no proof about its text as a whole.
-/
namespace LinkContract.Json

theorem Layout.isSpaced_indented : Layout.indented.IsSpaced where
  lineBreak depth c member := by
    rcases List.mem_cons.mp member with rfl | blank
    · rfl
    · rw [List.eq_of_mem_replicate blank]
      rfl
  afterColon c member := by
    rw [List.mem_singleton.mp member]
    rfl

/-- Reads a document that holds one value. -/
def readAs? {α : Type} (decode : Decoder α) (text : String) : Option α :=
  (parse? documentDepth text).bind fun value => (decode value).toOption

/-- Encoded values are read at a depth, and decoded to what they were. -/
structure RoundTrips {α : Type} (depth : Nat) (encode : α → Json) (decode : Decoder α) : Prop where
  readable : ∀ value, Readable depth (encode value)
  back : ∀ value, decode (normal (encode value)) = .ok value

theorem RoundTrips.readAs?_pretty {α : Type} {encode : α → Json} {decode : Decoder α}
    (trips : RoundTrips documentDepth encode decode) (value : α) :
    readAs? decode (encode value).pretty = some value := by
  rw [readAs?, pretty, parse?_render _ Layout.isSpaced_indented _ _ (trips.readable value),
    Option.bind_some, trips.back value]
  rfl

/-! ### Values without fields -/

theorem roundTrips_string (depth : Nat) : RoundTrips depth string decodeString where
  readable := Readable.string
  back text := by simp [normal, decodeString]

theorem roundTrips_bool (depth : Nat) : RoundTrips depth bool decodeBool where
  readable := Readable.bool
  back value := by simp [normal, decodeBool]

theorem isPlain_word32 (depth : Nat) (word : UInt32) : IsPlain depth (.natural word.toNat) :=
  isPlain_natural depth word.toNat (Nat.lt_trans word.toNat_lt_size (by decide))

theorem roundTrips_word32 (depth : Nat) :
    RoundTrips depth (fun word : UInt32 => .natural word.toNat) decodeWord32 where
  readable word := (isPlain_word32 depth word).readable
  back word := by
    rw [(isPlain_word32 depth word).inOrder, decodeWord32,
      decodeNatural_natural _ _ _ word.toNat_lt_size]
    simp [Except.map]

theorem roundTrips_word64 (depth : Nat) :
    RoundTrips depth (fun word : UInt64 => .natural word.toNat) decodeWord64 where
  readable word := (isPlain_natural depth word.toNat word.toNat_lt_size).readable
  back word := by
    rw [(isPlain_natural depth word.toNat word.toNat_lt_size).inOrder, decodeWord64,
      decodeNatural_natural _ _ _ word.toNat_lt_size]
    simp [Except.map]

theorem roundTrips_list {α : Type} {depth : Nat} {encode : α → Json} {decode : Decoder α}
    (item : RoundTrips depth encode decode) :
    RoundTrips (depth + 1) (fun values => .array (values.map encode)) (decodeList decode) where
  readable values := Readable.array _ (List.forall_mem_map.mpr fun value _ => item.readable value)
  back values := by
    -- the items are decoded one after the other, and none of them stops the list
    rw [normal, decodeList, List.map_map]
    induction values with
    | nil => rfl
    | cons value rest ih =>
      rw [List.map_cons, List.mapM_cons, ih, Function.comp_apply, item.back value]
      rfl

/-! ### Records -/

/-- The members of an object as they are read: each of them, in the order of their keys. -/
def Members.asRead (members : Members) : Members :=
  ofList (members.map fun member => (member.1, normal member.2))

theorem normal_object (members : Members) :
    normal (.object members) = .object members.asRead := by
  rw [normal, Members.asRead]

theorem Members.get?_asRead (members : Members) (key : String)
    (distinct : (members.map Prod.fst).Nodup) :
    members.asRead.get? key = (members.get? key).map normal := by
  have keys : (members.map fun member => (member.1, normal member.2)).map Prod.fst
      = members.map Prod.fst := by
    simp [Function.comp_def]
  rw [asRead, get?_ofList _ _ (keys ▸ distinct)]
  -- the order does not matter any more, and the keys are the same
  clear distinct keys
  induction members with
  | nil => rfl
  | cons member rest ih =>
    rw [List.map_cons, get?_cons, get?_cons, ih]
    split <;> rfl

/-- The member can be read, and what is read passes the check of the field. -/
structure Schema.Stores (schema : Schema) (depth : Nat) (member : String × Json) : Prop where
  readable : Readable depth member.2
  accepted : schema.checkMember member.1 (normal member.2) = .ok ()

section

variable {α : Type} {depth : Nat} {encode : α → Json} {decode : Decoder α}

theorem Schema.stores_required (schema : Schema) (field : RoundTrips depth encode decode)
    (key : String) (value : α)
    (declared : schema.fields.find? (fun field => field.key == key) = some (.of key decode)) :
    schema.Stores depth (key, encode value) where
  readable := field.readable value
  accepted := schema.checkMember_of_decode key decode _ value declared (field.back value)

theorem Schema.stores_optional (schema : Schema) (field : RoundTrips depth encode decode)
    (key : String) (value : α) (notNull : normal (encode value) ≠ .null)
    (declared : schema.fields.find? (fun field => field.key == key)
      = some (.of key (decodeOptional decode))) :
    schema.Stores depth (key, encode value) where
  readable := field.readable value
  accepted := by
    -- a null would pass as well, but as no value
    refine schema.checkMember_of_decode key (decodeOptional decode) _ (some value) declared ?_
    rw [decodeOptional_of_ne_null _ _ notNull, field.back value]
    rfl

theorem required_asRead {members : Members} {key : String} {value : α}
    (field : RoundTrips depth encode decode) (distinct : (members.map Prod.fst).Nodup)
    (found : members.get? key = some (encode value)) :
    members.asRead.required key decode = .ok value := by
  refine Members.required_of_get? _ key decode (normal (encode value)) value ?_ (field.back value)
  rw [Members.get?_asRead members key distinct, found, Option.map_some]

theorem optional_asRead {members : Members} {key : String} {value : Option α}
    (field : RoundTrips depth encode decode) (distinct : (members.map Prod.fst).Nodup)
    (notNull : ∀ inner, normal (encode inner) ≠ .null)
    (found : members.get? key = value.map encode) :
    members.asRead.optional key decode = .ok value := by
  refine Members.optional_of_get? _ key decode (fun inner => normal (encode inner)) value ?_
    (fun inner _ => field.back inner) (fun inner _ => notNull inner)
  rw [Members.get?_asRead members key distinct, found, Option.map_map]
  rfl

end

/-- A record comes back when its members are stored and every field is found among them. -/
theorem roundTrips_record {α : Type} {depth : Nat} {decode : Decoder α} (schema : Schema)
    (members : α → Members)
    (stored : ∀ value, ∀ member ∈ members value, schema.Stores depth member)
    (back : ∀ value, schema.members (.object (members value).asRead) = .ok (members value).asRead →
      decode (.object (members value).asRead) = .ok value) :
    RoundTrips (depth + 1) (fun value => .object (members value)) decode where
  readable value :=
    Readable.object (members value) fun member inside => (stored value member inside).readable
  back value := by
    rw [normal_object]
    -- every member that is read was written, so it was stored
    refine back value (schema.members_of_forall _ fun member inside => ?_)
    obtain ⟨written, place, rfl⟩ := List.mem_map.mp (Members.mem_of_mem_ofList _ _ inside)
    exact (stored value written place).accepted

end LinkContract.Json
