import LinkContract.Json.Basic

/-!
# Members of objects

Members are put in the order of their keys. When no key is repeated, every key keeps its
value and no member is added; members that stand in order already stay as they are.
-/
namespace LinkContract.Json.Members

theorem get?_nil (key : String) : get? [] key = none := rfl

theorem get?_cons (key other : String) (value : Json) (rest : Members) :
    get? ((other, value) :: rest) key = if key = other then some value else get? rest key := by
  by_cases same : key = other
  · simp [get?, same]
  · have differs : (key == other) = false := beq_eq_false_iff_ne.mpr same
    simp [get?, List.lookup_cons, differs, same]

theorem get?_append (first second : Members) (key : String) :
    get? (first ++ second) key = (get? first key).or (get? second key) := by
  simp [get?, List.lookup_append]

theorem get?_eq_none (members : Members) (key : String) (absent : key ∉ members.map Prod.fst) :
    members.get? key = none := by
  induction members with
  | nil => rfl
  | cons member rest ih =>
    rw [List.map_cons, List.mem_cons, not_or] at absent
    rw [get?_cons, if_neg absent.1, ih absent.2]

/-! ### Placing members -/

theorem get?_insert (members : Members) (key other : String) (value : Json) :
    (members.insert other value).get? key
      = if key = other then some value else members.get? key := by
  induction members with
  | nil => rw [insert, get?_cons]
  | cons member rest ih =>
    obtain ⟨head, kept⟩ := member
    rw [insert]
    -- the member comes to stand here, takes the place of this one, or goes further on
    split
    next => rw [get?_cons]
    next =>
      split
      next same =>
        subst same
        rw [get?_cons, get?_cons]
        split <;> rfl
      next different =>
        rw [get?_cons, get?_cons, ih]
        split
        next atHead =>
          subst atHead
          rw [if_neg (Ne.symm different)]
        next => rfl

theorem mem_insert (members : Members) (key : String) (value : Json) (member : String × Json)
    (placed : member ∈ members.insert key value) : member = (key, value) ∨ member ∈ members := by
  induction members with
  | nil => exact Or.inl (List.mem_singleton.mp placed)
  | cons first rest ih =>
    rw [insert] at placed
    split at placed
    next => exact List.mem_cons.mp placed
    next =>
      split at placed
      next =>
        rcases List.mem_cons.mp placed with same | later
        · exact Or.inl same
        · exact Or.inr (List.mem_cons_of_mem _ later)
      next =>
        rcases List.mem_cons.mp placed with same | later
        · exact Or.inr (same ▸ List.mem_cons_self)
        · exact (ih later).imp_right (List.mem_cons_of_mem _)

/-- A member behind all others is placed at the end. -/
theorem insert_of_greatest (members : Members) (key : String) (value : Json)
    (greatest : ∀ member ∈ members, member.1 < key) :
    members.insert key value = members ++ [(key, value)] := by
  induction members with
  | nil => rfl
  | cons member rest ih =>
    rw [List.forall_mem_cons] at greatest
    have notSmaller : ¬ key < member.1 := String.lt_asymm greatest.1
    have different : key ≠ member.1 := by
      rintro rfl
      exact String.lt_irrefl _ greatest.1
    rw [insert, if_neg notSmaller, if_neg different, ih greatest.2, List.cons_append]

/-! ### All members -/

theorem get?_foldl_insert (members placed : Members) (key : String)
    (distinct : (members.map Prod.fst).Nodup) :
    (members.foldl (fun placed member => placed.insert member.1 member.2) placed).get? key
      = (members.get? key).or (placed.get? key) := by
  induction members generalizing placed with
  | nil => simp [get?_nil]
  | cons member rest ih =>
    obtain ⟨absent, others⟩ := List.nodup_cons.mp distinct
    rw [List.foldl_cons, ih _ others, get?_insert, get?_cons]
    by_cases same : key = member.1
    · rw [if_pos same, if_pos same, get?_eq_none rest key (same ▸ absent), Option.none_or,
        Option.some_or]
    · rw [if_neg same, if_neg same]

theorem get?_ofList (members : Members) (key : String) (distinct : (members.map Prod.fst).Nodup) :
    (ofList members).get? key = members.get? key := by
  rw [ofList, get?_foldl_insert members [] key distinct, get?_nil, Option.or_none]

theorem mem_foldl_insert (members placed : Members) (member : String × Json)
    (found : member ∈ members.foldl (fun placed member => placed.insert member.1 member.2) placed) :
    member ∈ members ∨ member ∈ placed := by
  induction members generalizing placed with
  | nil => exact Or.inr found
  | cons first rest ih =>
    rw [List.foldl_cons] at found
    rcases ih _ found with later | earlier
    · exact Or.inl (List.mem_cons_of_mem _ later)
    · rcases mem_insert placed first.1 first.2 member earlier with same | old
      · exact Or.inl (same ▸ List.mem_cons_self)
      · exact Or.inr old

theorem mem_of_mem_ofList (members : Members) (member : String × Json)
    (found : member ∈ ofList members) : member ∈ members := by
  rcases mem_foldl_insert members [] member found with inside | nowhere
  · exact inside
  · cases nowhere

theorem ofList_of_sorted (members : Members)
    (sorted : members.Pairwise fun first second => first.1 < second.1) :
    ofList members = members := by
  -- what is placed already stands before what is still to come
  have grow (rest placed : Members)
      (ordered : (placed ++ rest).Pairwise fun first second => first.1 < second.1) :
      rest.foldl (fun placed member => placed.insert member.1 member.2) placed
        = placed ++ rest := by
    induction rest generalizing placed with
    | nil => simp
    | cons member rest ih =>
      have greatest : ∀ earlier ∈ placed, earlier.1 < member.1 := fun earlier inside =>
        (List.pairwise_append.mp ordered).2.2 earlier inside member List.mem_cons_self
      have shifted : placed ++ member :: rest = placed ++ [member] ++ rest := by simp
      rw [List.foldl_cons, insert_of_greatest placed member.1 member.2 greatest, shifted]
      exact ih (placed ++ [member]) (shifted ▸ ordered)
  exact grow members [] sorted

end LinkContract.Json.Members
