import LinkContract.Json.Decode

/-!
# Decoding what was encoded

A record is decoded when each of its members passes the check of its field and each field
is decoded from what is found under its key. Where a field may be absent, its encoding must
not be null, since a null is read as its absence.
-/
namespace LinkContract.Json

theorem ok_bind {ε α β : Type} (value : α) (next : α → Except ε β) :
    (Except.ok value >>= next) = next value := rfl

/-- What a decoder has got through when it succeeds. -/
theorem bind_eq_ok_iff {ε α β : Type} (first : Except ε α) (next : α → Except ε β) (result : β) :
    (first >>= next) = .ok result ↔ ∃ value, first = .ok value ∧ next value = .ok result := by
  constructor
  · intro done
    cases first with
    | error fault => cases done
    | ok value => exact ⟨value, rfl, done⟩
  · rintro ⟨value, rfl, done⟩
    exact done

theorem bind_eq_ok {ε α β : Type} {first : Except ε α} {next : α → Except ε β} {value : α}
    {result : β} (done : first = .ok value) (later : next value = .ok result) :
    (first >>= next) = .ok result :=
  (bind_eq_ok_iff first next result).mpr ⟨value, done, later⟩

theorem decodeOptional_of_ne_null {α : Type} (decode : Decoder α) (value : Json)
    (notNull : value ≠ .null) : decodeOptional decode value = (decode value).map some := by
  cases value with
  | null => exact absurd rfl notNull
  | _ => rfl

theorem decodeNatural_natural (limit : Nat) (expected : Expectation) (number : Nat)
    (fits : number < limit) : decodeNatural limit expected (.natural number) = .ok number := by
  have below : (number : Int) < limit := by exact_mod_cast fits
  rw [natural, decodeNatural, if_pos ⟨Int.natCast_nonneg number, below⟩, Int.toNat_natCast]

namespace Members

theorem required_of_get? {α : Type} (members : Members) (key : String) (decode : Decoder α)
    (encoded : Json) (value : α) (found : members.get? key = some encoded)
    (back : decode encoded = .ok value) : members.required key decode = .ok value := by
  rw [required, found]
  exact back

theorem optional_of_get? {α : Type} (members : Members) (key : String) (decode : Decoder α)
    (encode : α → Json) (value : Option α) (found : members.get? key = value.map encode)
    (back : ∀ inner, value = some inner → decode (encode inner) = .ok inner)
    (notNull : ∀ inner, value = some inner → encode inner ≠ .null) :
    members.optional key decode = .ok value := by
  rw [optional, found]
  cases value with
  | none => rfl
  | some inner =>
    -- a member that is there is decoded as such, since it is not a null
    rw [Option.map_some]
    show decodeOptional decode (encode inner) = .ok (some inner)
    rw [decodeOptional_of_ne_null _ _ (notNull inner rfl), back inner rfl]
    rfl

end Members

namespace Schema

theorem checkMember_of_decode {α : Type} (schema : Schema) (key : String) (decode : Decoder α)
    (encoded : Json) (value : α)
    (declared : schema.fields.find? (fun field => field.key == key) = some (.of key decode))
    (back : decode encoded = .ok value) : schema.checkMember key encoded = .ok () := by
  rw [checkMember, declared]
  simp only [Field.of, back]
  rfl

theorem checkMember_of_optional {α : Type} (schema : Schema) (key : String) (decode : Decoder α)
    (encode : α → Json) (value : Option α)
    (declared : schema.fields.find? (fun field => field.key == key)
      = some (.of key (decodeOptional decode)))
    (back : ∀ inner, value = some inner → decode (encode inner) = .ok inner)
    (notNull : ∀ inner, value = some inner → encode inner ≠ .null) :
    ∀ encoded, value.map encode = some encoded → schema.checkMember key encoded = .ok () := by
  intro encoded same
  obtain ⟨inner, present, rfl⟩ := Option.map_eq_some_iff.mp same
  refine schema.checkMember_of_decode key (decodeOptional decode) _ (some inner) declared ?_
  rw [decodeOptional_of_ne_null _ _ (notNull inner present), back inner present]
  rfl

theorem checkMembers_of_forall (schema : Schema) (members : Members)
    (fit : ∀ member ∈ members, schema.checkMember member.1 member.2 = .ok ()) :
    schema.checkMembers members = .ok () := by
  -- the members are visited in their order, and none of them stops the visit
  rw [checkMembers]
  induction members with
  | nil => rfl
  | cons member rest ih =>
    rw [List.forall_mem_cons] at fit
    rw [List.forM, fit.1, ok_bind]
    exact ih fit.2

theorem members_of_forall (schema : Schema) (members : Members)
    (fit : ∀ member ∈ members, schema.checkMember member.1 member.2 = .ok ()) :
    schema.members (.object members) = .ok members := by
  rw [Schema.members, checkMembers_of_forall schema members fit]
  rfl

theorem members_object_eq_ok (schema : Schema) (members accepted : Members)
    (done : schema.members (.object members) = .ok accepted) : members = accepted := by
  rw [Schema.members, bind_eq_ok_iff] at done
  obtain ⟨_, _, same⟩ := done
  exact Except.ok.inj same

end Schema

end LinkContract.Json
