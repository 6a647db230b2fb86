import LinkContract.Proofs.Json.Members
import LinkContract.Proofs.Json.Numbers
import LinkContract.Proofs.Json.Strings

/-!
# Values that read back

A value is written with white space of any amount between its parts and read again. What
comes back is the value with the members of every object put in order, provided that no
double is in it and that it nests no deeper than the reader goes.

`parse?_render` is proved by induction on the value. Each reader gets its part of the text
with something behind it, so the statement leaves the rest of the text open, and the
number of steps is bounded by the length of the part alone.
-/
namespace LinkContract.Json

/-- At most `depth` arrays and objects stand inside each other, and all numbers are
integers that stay integers when they are read. -/
inductive Readable : Nat → Json → Prop where
  | null {depth} : Readable depth .null
  | bool {depth} (value : Bool) : Readable depth (.bool value)
  | integer {depth} (number : Int) (fits : isInteger number = true) :
      Readable depth (.integer number)
  | string {depth} (text : String) : Readable depth (.string text)
  | array {depth} (items : List Json) (each : ∀ item ∈ items, Readable depth item) :
      Readable (depth + 1) (.array items)
  | object {depth} (members : Members) (each : ∀ member ∈ members, Readable depth member.2) :
      Readable (depth + 1) (.object members)

theorem sizeOf_snd_lt (members : Members) (member : String × Json) (inside : member ∈ members) :
    sizeOf member.2 < sizeOf members := by
  have whole := List.sizeOf_lt_of_mem inside
  obtain ⟨key, value⟩ := member
  simp only [Prod.mk.sizeOf_spec] at whole ⊢
  omega

/-- The value that is read: the members of every object stand in the order of their keys. -/
def normal : Json → Json
  | .array items => .array (items.map normal)
  | .object members =>
    .object (Members.ofList (members.map fun member => (member.1, normal member.2)))
  | other => other
decreasing_by
  · have smaller := List.sizeOf_lt_of_mem ‹_›
    simp only [array.sizeOf_spec]
    omega
  · have smaller := sizeOf_snd_lt _ _ ‹_›
    simp only [object.sizeOf_spec]
    omega

/-- Only white space is put between the parts of a value. -/
structure Layout.IsSpaced (layout : Layout) : Prop where
  lineBreak : ∀ depth, ∀ c ∈ layout.lineBreak depth, isSpace c = true
  afterColon : ∀ c ∈ layout.afterColon, isSpace c = true

theorem Layout.isSpaced_compact : Layout.compact.IsSpaced where
  lineBreak depth c member := by cases member
  afterColon c member := by cases member

/-! ### White space -/

theorem skipSpace_append (blanks text : List Char) (spaces : ∀ c ∈ blanks, isSpace c = true) :
    skipSpace (blanks ++ text) = skipSpace text :=
  List.dropWhile_append_of_pos spaces

theorem skipSpace_cons (c : Char) (text : List Char) (solid : isSpace c = false) :
    skipSpace (c :: text) = c :: text := by
  simp [skipSpace, solid]

theorem readValue_append (steps depth : Nat) (blanks text : List Char)
    (spaces : ∀ c ∈ blanks, isSpace c = true) :
    readValue steps depth (blanks ++ text) = readValue steps depth text := by
  cases steps with
  | zero => rw [readValue, readValue]
  | succ steps => rw [readValue, readValue, skipSpace_append blanks text spaces]

theorem endsNumber_append (blanks rest : List Char) (spaces : ∀ c ∈ blanks, isSpace c = true)
    (ends : EndsNumber rest) : EndsNumber (blanks ++ rest) := by
  cases blanks with
  | nil => exact ends
  | cons c others =>
    have space := spaces c List.mem_cons_self
    simp only [isSpace, Bool.or_eq_true, beq_iff_eq, or_assoc] at space
    rcases space with rfl | rfl | rfl | rfl <;> exact endsNumber_cons _ _ (by decide)

/-! ### Values that are no arrays and objects -/

/-- The value is read from its written form, whatever comes after it. -/
def Reads (layout : Layout) (depth : Nat) (value : Json) : Prop :=
  ∀ indent steps rest, 3 * (render layout indent value).length ≤ steps → EndsNumber rest →
    readValue steps depth (render layout indent value ++ rest) = some (normal value, rest)

theorem reads_null (layout : Layout) (depth : Nat) : Reads layout depth .null := by
  intro indent steps rest enough _
  obtain ⟨more, rfl⟩ : ∃ more, steps = more + 1 := ⟨steps - 1, by simp [render] at enough; omega⟩
  simp [render, readValue, skipSpace, isSpace, scanWord, normal]

theorem reads_bool (layout : Layout) (depth : Nat) (value : Bool) :
    Reads layout depth (.bool value) := by
  intro indent steps rest enough _
  cases value
  all_goals
    obtain ⟨more, rfl⟩ : ∃ more, steps = more + 1 := ⟨steps - 1, by simp [render] at enough; omega⟩
    simp [render, readValue, skipSpace, isSpace, scanWord, normal]

theorem reads_string (layout : Layout) (depth : Nat) (text : String) :
    Reads layout depth (.string text) := by
  intro indent steps rest enough _
  obtain ⟨more, rfl⟩ : ∃ more, steps = more + 1 :=
    ⟨steps - 1, by simp [render, quoted] at enough; omega⟩
  have scanned := scanString_escaped text.toList rest
  simp [render, quoted, readValue, skipSpace, isSpace, scanned, normal]

/-- A number can start with it. -/
def OpensNumber (c : Char) : Prop := c = '-' ∨ c.isDigit = true

theorem isSpace_of_opensNumber (c : Char) (opens : OpensNumber c) : isSpace c = false := by
  rcases opens with rfl | digit
  · decide
  · rw [Bool.eq_false_iff]
    intro space
    simp only [isSpace, Bool.or_eq_true, beq_iff_eq, or_assoc] at space
    rcases space with rfl | rfl | rfl | rfl <;> exact absurd digit (by decide)

theorem readValue_number (steps depth : Nat) (c : Char) (text : List Char)
    (opens : OpensNumber c) :
    readValue (steps + 1) depth (c :: text)
      = (scanNumber (c :: text)).bind fun (spelling, rest) =>
          spelling.value?.map fun value => (value, rest) := by
  rw [readValue, skipSpace_cons c text (isSpace_of_opensNumber c opens)]
  -- each of the characters that open something else is neither a sign nor a digit
  split
  case h_7 => rfl
  all_goals
    next same =>
      cases same
      rcases opens with sign | digit
      · exact absurd sign (by decide)
      · exact absurd digit (by decide)

theorem integerText_cons (number : Int) :
    ∃ c rest, integerText number = c :: rest ∧ OpensNumber c := by
  by_cases negative : number < 0
  · exact ⟨'-', Decimal.digits number.natAbs, by rw [integerText, if_pos negative], Or.inl rfl⟩
  · obtain ⟨c, rest, shape, digit⟩ := digits_cons number.natAbs
    exact ⟨c, rest, by rw [integerText, if_neg negative, shape], Or.inr digit⟩

theorem reads_integer (layout : Layout) (depth : Nat) (number : Int)
    (fits : isInteger number = true) : Reads layout depth (.integer number) := by
  intro indent steps rest enough ends
  have scanned := scanNumber_integerText number rest ends
  obtain ⟨c, others, shape, opens⟩ := integerText_cons number
  obtain ⟨more, rfl⟩ : ∃ more, steps = more + 1 :=
    ⟨steps - 1, by simp [render, shape] at enough; omega⟩
  -- the reader goes by the first character, the scanner takes the whole number
  have same : readValue (more + 1) depth (integerText number ++ rest)
      = (scanNumber (integerText number ++ rest)).bind fun (spelling, rest) =>
          spelling.value?.map fun value => (value, rest) := by
    rw [shape, List.cons_append]
    exact readValue_number more depth c (others ++ rest) opens
  rw [render, same, scanned, normal]
  · simp only [Option.bind_some, value?_integer number fits, Option.map_some]
  · exact fun _ other => Json.noConfusion other
  · exact fun _ other => Json.noConfusion other

/-! ### Arrays -/

/-- Every value starts with a character that closes nothing. -/
theorem render_cons (layout : Layout) (indent depth : Nat) (value : Json)
    (readable : Readable depth value) :
    ∃ c rest, render layout indent value = c :: rest ∧ isSpace c = false ∧ c ≠ ']' := by
  cases readable with
  | null => exact ⟨'n', _, by rw [render], by decide, by decide⟩
  | bool value =>
    cases value with
    | false => exact ⟨'f', _, by rw [render], by decide, by decide⟩
    | true => exact ⟨'t', _, by rw [render], by decide, by decide⟩
  | integer number fits =>
    obtain ⟨c, rest, shape, opens⟩ := integerText_cons number
    refine ⟨c, rest, by rw [render, shape], isSpace_of_opensNumber c opens, ?_⟩
    rintro rfl
    rcases opens with sign | digit
    · exact absurd sign (by decide)
    · exact absurd digit (by decide)
  | string text => exact ⟨'"', _, by rw [render, quoted, List.cons_append], by decide, by decide⟩
  | array items each =>
    cases items with
    | nil => exact ⟨'[', _, by rw [render], by decide, by decide⟩
    | cons first rest =>
      exact ⟨'[', _, by rw [render, List.cons_append, List.cons_append], by decide, by decide⟩
  | object members each =>
    cases members with
    | nil => exact ⟨'{', _, by rw [render], by decide, by decide⟩
    | cons first rest =>
      obtain ⟨key, value⟩ := first
      simp only [render, List.cons_append]
      exact ⟨'{', _, rfl, by decide, by decide⟩

theorem endsNumber_renderItems (layout : Layout) (spaced : layout.IsSpaced) (indent : Nat)
    (items : List Json) (rest : List Char) :
    EndsNumber (renderItems layout indent items ++ rest) := by
  cases items with
  | nil =>
    rw [renderItems, List.append_assoc]
    exact endsNumber_append _ _ (spaced.lineBreak indent)
      (endsNumber_cons _ _ (by decide))
  | cons first others =>
    simp only [renderItems, List.cons_append]
    exact endsNumber_cons _ _ (by decide)

/-- By induction on the items, each of which is read with the later ones behind it. -/
theorem readItems_render (layout : Layout) (spaced : layout.IsSpaced) (depth indent steps : Nat)
    (items : List Json) (each : ∀ item ∈ items, Reads layout depth item) (rest : List Char)
    (enough : 3 * (renderItems layout indent items).length ≤ steps) :
    readItems steps depth (skipSpace (renderItems layout indent items ++ rest))
      = some (items.map normal, rest) := by
  induction items generalizing steps with
  | nil =>
    obtain ⟨more, rfl⟩ : ∃ more, steps = more + 1 :=
      ⟨steps - 1, by simp [renderItems] at enough; omega⟩
    rw [renderItems, List.append_assoc, skipSpace_append _ _ (spaced.lineBreak indent),
      List.singleton_append, skipSpace_cons _ _ (by decide), readItems, List.map_nil]
  | cons first others ih =>
    simp only [renderItems, List.length_append, List.length_cons] at enough
    obtain ⟨more, rfl⟩ : ∃ more, steps = more + 1 := ⟨steps - 1, by omega⟩
    -- the item is read with the later ones behind it, and they end a number
    have ends := endsNumber_renderItems layout spaced indent others rest
    have item := each first List.mem_cons_self (indent + 1) more _ (by omega) ends
    have later := ih more (fun other inside => each other (List.mem_cons_of_mem _ inside))
      (by omega)
    simp only [renderItems, List.cons_append, List.append_assoc]
    rw [skipSpace_cons _ _ (by decide), readItems,
      readValue_append _ _ _ _ (spaced.lineBreak (indent + 1)), item]
    simp only [later, Option.map_some, List.map_cons]

theorem reads_array (layout : Layout) (spaced : layout.IsSpaced) (depth : Nat) (items : List Json)
    (readable : ∀ item ∈ items, Readable depth item)
    (each : ∀ item ∈ items, Reads layout depth item) : Reads layout (depth + 1) (.array items) := by
  intro indent steps rest enough _
  cases items with
  | nil =>
    obtain ⟨more, rfl⟩ : ∃ more, steps = more + 2 :=
      ⟨steps - 2, by simp [render] at enough; omega⟩
    simp [render, readValue, readArray, skipSpace, isSpace, normal]
  | cons first others =>
    simp only [render, List.length_append, List.length_cons] at enough
    obtain ⟨more, rfl⟩ : ∃ more, steps = more + 2 := ⟨steps - 2, by omega⟩
    have ends := endsNumber_renderItems layout spaced indent others rest
    have item := each first List.mem_cons_self (indent + 1) more _ (by omega) ends
    have later := readItems_render layout spaced depth indent more others
      (fun other inside => each other (List.mem_cons_of_mem _ inside)) rest (by omega)
    obtain ⟨c, tail, shape, solid, notClosing⟩ :=
      render_cons layout (indent + 1) depth first (readable first List.mem_cons_self)
    simp only [render, List.cons_append, List.append_assoc]
    rw [readValue, skipSpace_cons _ _ (by decide)]
    simp only
    rw [skipSpace_append _ _ (spaced.lineBreak (indent + 1))]
    -- the first item does not start with a bracket, so the array is not taken for an empty one
    rw [shape, List.cons_append] at item ⊢
    rw [skipSpace_cons _ _ solid, readArray, item]
    · simp only [later, Option.map_some, normal, List.map_cons]
    · exact fun _ same => notClosing (List.cons.inj same).1

/-! ### Objects -/

theorem readMember_render (layout : Layout) (spaced : layout.IsSpaced) (depth indent steps : Nat)
    (key : String) (value : Json) (reads : Reads layout depth value) (rest : List Char)
    (enough : 3 * (render layout indent value).length + 1 ≤ steps) (ends : EndsNumber rest) :
    readMember steps depth (quoted key.toList ++ ':' :: layout.afterColon
        ++ render layout indent value ++ rest)
      = some ((key, normal value), rest) := by
  obtain ⟨more, rfl⟩ : ∃ more, steps = more + 1 := ⟨steps - 1, by omega⟩
  have value := reads indent more rest (by omega) ends
  simp only [quoted, List.cons_append, List.append_assoc, List.nil_append]
  rw [readMember, scanString_escaped]
  simp only [skipSpace_cons _ _ (show isSpace ':' = false by decide),
    readValue_append _ _ _ _ spaced.afterColon, value, Option.map_some, String.ofList_toList]

theorem endsNumber_renderMembers (layout : Layout) (spaced : layout.IsSpaced) (indent : Nat)
    (members : Members) (rest : List Char) :
    EndsNumber (renderMembers layout indent members ++ rest) := by
  cases members with
  | nil =>
    rw [renderMembers, List.append_assoc]
    exact endsNumber_append _ _ (spaced.lineBreak indent)
      (endsNumber_cons _ _ (by decide))
  | cons first others =>
    simp only [renderMembers, List.cons_append]
    exact endsNumber_cons _ _ (by decide)

theorem skipSpace_quoted (text rest : List Char) :
    skipSpace (quoted text ++ rest) = quoted text ++ rest :=
  skipSpace_cons _ _ (by decide)

theorem readMembers_render (layout : Layout) (spaced : layout.IsSpaced) (depth indent steps : Nat)
    (members : Members) (each : ∀ member ∈ members, Reads layout depth member.2) (rest : List Char)
    (enough : 3 * (renderMembers layout indent members).length ≤ steps) :
    readMembers steps depth (skipSpace (renderMembers layout indent members ++ rest))
      = some (members.map fun member => (member.1, normal member.2), rest) := by
  induction members generalizing steps with
  | nil =>
    obtain ⟨more, rfl⟩ : ∃ more, steps = more + 1 :=
      ⟨steps - 1, by simp [renderMembers] at enough; omega⟩
    rw [renderMembers, List.append_assoc, skipSpace_append _ _ (spaced.lineBreak indent),
      List.singleton_append, skipSpace_cons _ _ (by decide), readMembers, List.map_nil]
  | cons first others ih =>
    obtain ⟨key, value⟩ := first
    simp only [renderMembers, List.length_append, List.length_cons] at enough
    obtain ⟨more, rfl⟩ : ∃ more, steps = more + 1 := ⟨steps - 1, by omega⟩
    have ends := endsNumber_renderMembers layout spaced indent others rest
    have member := readMember_render layout spaced depth (indent + 1) more key value
      (each (key, value) List.mem_cons_self) _ (by omega) ends
    have later := ih more (fun other inside => each other (List.mem_cons_of_mem _ inside))
      (by omega)
    simp only [renderMembers, List.cons_append, List.append_assoc] at member ⊢
    rw [skipSpace_cons _ _ (by decide), readMembers,
      skipSpace_append _ _ (spaced.lineBreak (indent + 1)), skipSpace_quoted, member]
    simp only [later, Option.map_some, List.map_cons]

theorem reads_object (layout : Layout) (spaced : layout.IsSpaced) (depth : Nat) (members : Members)
    (each : ∀ member ∈ members, Reads layout depth member.2) :
    Reads layout (depth + 1) (.object members) := by
  intro indent steps rest enough _
  cases members with
  | nil =>
    obtain ⟨more, rfl⟩ : ∃ more, steps = more + 2 :=
      ⟨steps - 2, by simp [render] at enough; omega⟩
    simp [render, readValue, readObject, skipSpace, isSpace, normal, Members.ofList]
  | cons first others =>
    obtain ⟨key, value⟩ := first
    simp only [render, List.length_append, List.length_cons] at enough
    obtain ⟨more, rfl⟩ : ∃ more, steps = more + 2 := ⟨steps - 2, by omega⟩
    have ends := endsNumber_renderMembers layout spaced indent others rest
    have member := readMember_render layout spaced depth (indent + 1) more key value
      (each (key, value) List.mem_cons_self) _ (by omega) ends
    have later := readMembers_render layout spaced depth indent more others
      (fun other inside => each other (List.mem_cons_of_mem _ inside)) rest (by omega)
    simp only [render, List.cons_append, List.append_assoc] at member ⊢
    rw [readValue, skipSpace_cons _ _ (by decide)]
    simp only
    rw [skipSpace_append _ _ (spaced.lineBreak (indent + 1)), skipSpace_quoted, readObject, member]
    · simp only [later, Option.map_some, normal, List.map_cons]
    · -- a key starts with its quote, so the object is not taken for an empty one
      intro _ same
      rw [quoted, List.cons_append] at same
      exact absurd (List.cons.inj same).1 (by decide)

/-! ### Whole texts -/

theorem reads_of_readable (layout : Layout) (spaced : layout.IsSpaced) (depth : Nat) (value : Json)
    (readable : Readable depth value) : Reads layout depth value := by
  induction readable with
  | null => exact reads_null layout _
  | bool value => exact reads_bool layout _ value
  | integer number fits => exact reads_integer layout _ number fits
  | string text => exact reads_string layout _ text
  | array items readable each => exact reads_array layout spaced _ items readable each
  | object members readable each => exact reads_object layout spaced _ members each

/-- A text holds nothing but the value, so nothing is left when the value has been read. -/
theorem parse?_render (layout : Layout) (spaced : layout.IsSpaced) (depth : Nat) (value : Json)
    (readable : Readable depth value) :
    parse? depth (String.ofList (render layout 0 value)) = some (normal value) := by
  have read := reads_of_readable layout spaced depth value readable 0
    (stepsFor (render layout 0 value)) [] (by rw [stepsFor]; omega) endsNumber_nil
  rw [List.append_nil] at read
  rw [parse?, String.toList_ofList, read]
  rfl

/-! ### Values that come back unchanged -/

/-- The value can be read, and the members of its objects stand in order. -/
structure IsPlain (depth : Nat) (value : Json) : Prop where
  readable : Readable depth value
  inOrder : value.normal = value

theorem isPlain_string (depth : Nat) (text : String) : IsPlain depth (.string text) :=
  ⟨Readable.string text, by simp [normal]⟩

theorem isPlain_natural (depth number : Nat) (fits : number < UInt64.size) :
    IsPlain depth (.natural number) := by
  have bound : (number : Int) < UInt64.size := by exact_mod_cast fits
  have floor : leastInteger ≤ number := by
    rw [leastInteger]
    omega
  refine ⟨Readable.integer number ?_, by simp [natural, normal]⟩
  simp only [isInteger, Bool.and_eq_true, decide_eq_true_eq]
  exact ⟨floor, bound⟩

theorem isPlain_count (depth number : Nat) : IsPlain depth (.count number) :=
  isPlain_natural depth _ (UInt64.toNat_lt_size _)

theorem isPlain_array (depth : Nat) (items : List Json)
    (each : ∀ item ∈ items, IsPlain depth item) : IsPlain (depth + 1) (.array items) := by
  refine ⟨Readable.array items fun item inside => (each item inside).readable, ?_⟩
  rw [normal, List.map_congr_left fun item inside => (each item inside).inOrder, List.map_id']

theorem isPlain_strings (depth : Nat) (texts : List String) :
    IsPlain (depth + 1) (strings texts) := by
  refine isPlain_array depth _ fun item inside => ?_
  obtain ⟨text, _, rfl⟩ := List.mem_map.mp inside
  exact isPlain_string depth text

theorem map_normal_members (depth : Nat) (members : Members)
    (each : ∀ member ∈ members, IsPlain depth member.2) :
    members.map (fun member => (member.1, member.2.normal)) = members := by
  rw [List.map_congr_left fun member inside => by rw [(each member inside).inOrder], List.map_id']

theorem isPlain_object (depth : Nat) (members : Members)
    (each : ∀ member ∈ members, IsPlain depth member.2)
    (sorted : (members.map Prod.fst).Pairwise (· < ·)) : IsPlain (depth + 1) (.object members) := by
  refine ⟨Readable.object members fun member inside => (each member inside).readable, ?_⟩
  rw [normal, map_normal_members depth members each, Members.ofList_of_sorted members
    (List.pairwise_map.mp sorted)]

/-- No number is a double, every integer has 64 bits with or without a sign, the keys of every
object increase, and at most `depth` arrays and objects stand inside each other. -/
inductive Tidy : Nat → Json → Prop where
  | null {depth} : Tidy depth .null
  | bool {depth} (value : Bool) : Tidy depth (.bool value)
  | integer {depth} (number : Int) (least : -9223372036854775808 ≤ number)
      (greatest : number ≤ 18446744073709551615) : Tidy depth (.integer number)
  | string {depth} (text : String) : Tidy depth (.string text)
  | array {depth} (items : List Json) (each : ∀ item ∈ items, Tidy depth item) :
      Tidy (depth + 1) (.array items)
  | object {depth} (members : Members) (increasing : (members.map Prod.fst).Pairwise (· < ·))
      (each : ∀ member ∈ members, Tidy depth member.2) : Tidy (depth + 1) (.object members)

theorem isPlain_of_tidy (depth : Nat) (value : Json) (tidy : Tidy depth value) :
    IsPlain depth value := by
  induction tidy with
  | null => exact ⟨Readable.null, by simp [normal]⟩
  | bool value => exact ⟨Readable.bool value, by simp [normal]⟩
  | integer number least greatest =>
    refine ⟨Readable.integer number ?_, by simp [normal]⟩
    have size : (UInt64.size : Int) = 18446744073709551616 := rfl
    simp only [isInteger, size, Bool.and_eq_true, decide_eq_true_eq]
    exact ⟨least, by omega⟩
  | string text => exact isPlain_string _ text
  | array items _ plain => exact isPlain_array _ items plain
  | object members increasing _ plain => exact isPlain_object _ members plain increasing

/-- A value inside as many arrays. -/
def nest (value : Json) : Nat → Json
  | 0 => value
  | levels + 1 => .array [nest value levels]

theorem tidy_nest (depth levels : Nat) (value : Json) (tidy : Tidy depth value) :
    Tidy (depth + levels) (value.nest levels) := by
  induction levels with
  | zero => exact tidy
  | succ levels ih => exact Tidy.array _ (List.forall_mem_singleton.mpr ih)

end LinkContract.Json
