import LinkContract.Exports
import LinkContract.Proofs.Text.Pieces
import LinkContract.Proofs.Text.Trimming

/-!
# Feature lists

The entries of a feature list stand between its commas, and each says the name that is left of it
without the blanks at its ends. The first name that no feature has decides a refusal; when there
is none, each feature is selected by the names that mean it, wherever they stand. So a comma
between two lists puts their features together, and a refusal is that of the first list that is
refused. What a build exports grows with its features in the same way.
-/
namespace LinkContract.Features

open Text

/-- The names that may stand in a list. -/
def vocabulary : List String :=
  ["none", "default", "sized-deallocation", "rtti", "extended-operators"]

def IsUnknown (name : String) : Prop := name ≠ "" ∧ name ∉ vocabulary

instance (name : String) : Decidable (IsUnknown name) :=
  inferInstanceAs (Decidable (name ≠ "" ∧ name ∉ vocabulary))

def entries (list : String) : List (List Char) := list.toList.splitOn ','

/-- The name is what stands in the entry, apart from the blanks around it. -/
def Says (entry : List Char) (name : String) : Prop := Frames entry name.toList

def Mentions (list name : String) : Prop := ∃ entry ∈ entries list, Says entry name

/-- All names are known, and the features are those that are named. -/
structure Selects (list : String) (features : Features) : Prop where
  known : ∀ name, Mentions list name → ¬ IsUnknown name
  rtti : features.rtti = true ↔ Mentions list "rtti"
  extendedOperators : features.extendedOperators = true ↔ Mentions list "extended-operators"
  sizedDeallocation : features.sizedDeallocation = true
    ↔ Mentions list "sized-deallocation" ∨ Mentions list "default"

/-- The name is unknown, and no entry before the one that says it has an unknown name. -/
def FirstUnknown (list name : String) : Prop :=
  ∃ before entry after, entries list = before ++ entry :: after ∧ Says entry name
    ∧ IsUnknown name ∧ ∀ earlier ∈ before, ∀ other, Says earlier other → ¬ IsUnknown other

/-! ### Names in a list -/

/-- The one name that an entry says. -/
def nameIn (entry : List Char) : String := String.ofList (trim entry)

theorem says_iff (entry : List Char) (name : String) : Says entry name ↔ nameIn entry = name := by
  rw [Says, ← trim_eq_iff, nameIn]
  constructor
  · intro same
    rw [same, String.ofList_toList]
  · rintro rfl
    rw [String.toList_ofList]

theorem namesIn_eq (list : String) :
    namesIn list = ((entries list).map nameIn).filter fun name => name ≠ "" := by
  rw [namesIn, pieces_eq_splitOnP, List.filter_map, List.filter_map, List.map_map]
  -- a name is empty when nothing but blanks stands in its entry
  have empty (entry : List Char) : (!(trim entry).isEmpty) = decide (nameIn entry ≠ "") := by
    rw [Bool.eq_iff_iff]
    simp [nameIn, String.ofList_eq_empty_iff]
  simp only [Function.comp_def, empty]
  rfl

theorem mem_namesIn_iff (list name : String) :
    name ∈ namesIn list ↔ Mentions list name ∧ name ≠ "" := by
  simp only [namesIn_eq, List.mem_filter, List.mem_map, decide_eq_true_eq, Mentions, says_iff]

theorem namesIn_append_comma (first second : String) :
    namesIn (first ++ "," ++ second) = namesIn first ++ namesIn second := by
  have shape : (first ++ "," ++ second).toList = first.toList ++ ',' :: second.toList := by simp
  rw [namesIn, shape, pieces_append _ _ ',' _ rfl]
  simp only [namesIn, List.map_append, List.filter_append]

/-! ### What names mean -/

/-- What the names select together. -/
def meant (names : List String) : Features where
  rtti := names.contains "rtti"
  extendedOperators := names.contains "extended-operators"
  sizedDeallocation := names.contains "sized-deallocation" || names.contains "default"

theorem meant_append (first second : List String) :
    meant (first ++ second) = (meant first).union (meant second) := by
  simp only [meant, union, List.contains_append]
  congr 1
  -- the names that come first here are those of one part, there those of one spelling
  ac_rfl

theorem named?_eq (name : String) :
    named? name = if name ∈ vocabulary then some (meant [name]) else none := by
  by_cases known : name ∈ vocabulary
  · rw [if_pos known]
    simp only [vocabulary, List.mem_cons, List.not_mem_nil, or_false] at known
    rcases known with rfl | rfl | rfl | rfl | rfl <;> decide
  · rw [if_neg known]
    simp only [vocabulary, List.mem_cons, List.not_mem_nil, or_false, not_or] at known
    simp [named?, known]

/-- The first name outside the vocabulary is the error of a list of names. -/
theorem gather_eq (names : List String) :
    gather names = match names.find? fun name => name ∉ vocabulary with
      | some unknown => .error ⟨unknown⟩
      | none => .ok (meant names) := by
  induction names with
  | nil => rfl
  | cons name rest ih =>
    rw [gather, named?_eq]
    by_cases known : name ∈ vocabulary
    · have meaning := meant_append [name] rest
      rw [List.singleton_append] at meaning
      simp only [known, if_true, ih, List.find?_cons, not_true, decide_false, meaning]
      cases rest.find? fun name => name ∉ vocabulary <;> rfl
    · simp [known]

theorem gather_eq_ok_iff (names : List String) (features : Features) :
    gather names = .ok features
      ↔ (∀ name ∈ names, name ∈ vocabulary) ∧ meant names = features := by
  rw [gather_eq]
  cases found : names.find? fun name => name ∉ vocabulary with
  | some unknown =>
    have outside : unknown ∉ vocabulary := by simpa using List.find?_some found
    have member := List.mem_of_find?_eq_some found
    simp only [reduceCtorEq, false_iff, not_and]
    exact fun known => absurd (known unknown member) outside
  | none =>
    have known : ∀ name ∈ names, name ∈ vocabulary := by simpa using found
    simp only [Except.ok.injEq]
    exact ⟨fun same => ⟨known, same⟩, fun both => both.2⟩

theorem gather_eq_error_iff (names : List String) (unknown : UnknownFeature) :
    gather names = .error unknown
      ↔ names.find? (fun name => name ∉ vocabulary) = some unknown.name := by
  rw [gather_eq]
  obtain ⟨first⟩ := unknown
  cases names.find? fun name => name ∉ vocabulary <;> simp

/-- The features of two parts, or the error of the first part that is refused. -/
def combine : Except UnknownFeature Features → Except UnknownFeature Features →
    Except UnknownFeature Features
  | .error unknown, _ => .error unknown
  | .ok _, .error unknown => .error unknown
  | .ok own, .ok other => .ok (own.union other)

theorem gather_append (first second : List String) :
    gather (first ++ second) = combine (gather first) (gather second) := by
  simp only [gather_eq, List.find?_append, meant_append]
  cases first.find? fun name => name ∉ vocabulary with
  | some unknown => rfl
  | none => cases second.find? fun name => name ∉ vocabulary <;> rfl

/-! ### Lists -/

theorem parse_comma (first second : String) :
    parse (first ++ "," ++ second) = combine (parse first) (parse second) := by
  rw [parse, namesIn_append_comma, gather_append, parse, parse]

/-- Empty entries, blanks and `none` do not matter, and `default` is another name of a feature. -/
example : parse (" rtti,, none ," ++ "," ++ "\tdefault") = .ok ⟨true, false, true⟩ := by
  decide +kernel

/-- Entries that say nothing are passed over in the search for an unknown name. -/
theorem find?_namesIn (list : String) :
    (namesIn list).find? (fun name => name ∉ vocabulary)
      = ((entries list).map nameIn).find? fun name => IsUnknown name := by
  rw [namesIn_eq, List.find?_filter]
  congr 1
  funext name
  apply decide_eq_decide.mpr
  simp only [decide_eq_true_eq, IsUnknown]

theorem parse_eq_error_iff (list : String) (unknown : UnknownFeature) :
    parse list = .error unknown ↔ FirstUnknown list unknown.name := by
  rw [parse, gather_eq_error_iff, find?_namesIn, List.find?_map]
  simp only [Option.map_eq_some_iff, List.find?_eq_some_iff_append, FirstUnknown, says_iff]
  constructor
  · rintro ⟨entry, ⟨outside, before, after, shape, known⟩, named⟩
    refine ⟨before, entry, after, shape, named, named ▸ of_decide_eq_true outside, ?_⟩
    rintro earlier inside _ rfl
    simpa using known earlier inside
  · rintro ⟨before, entry, after, shape, named, outside, known⟩
    refine ⟨entry, ⟨decide_eq_true (named ▸ outside), before, after, shape, ?_⟩, named⟩
    intro earlier inside
    simpa using known earlier inside _ rfl

theorem eq_of_iff {own other : Features} (rtti : own.rtti = true ↔ other.rtti = true)
    (extended : own.extendedOperators = true ↔ other.extendedOperators = true)
    (sized : own.sizedDeallocation = true ↔ other.sizedDeallocation = true) : own = other := by
  cases own
  cases other
  rw [mk.injEq]
  exact ⟨Bool.eq_iff_iff.mpr rtti, Bool.eq_iff_iff.mpr extended, Bool.eq_iff_iff.mpr sized⟩

theorem parse_eq_ok_iff (list : String) (features : Features) :
    parse list = .ok features ↔ Selects list features := by
  have known : (∀ name ∈ namesIn list, name ∈ vocabulary)
      ↔ ∀ name, Mentions list name → ¬ IsUnknown name := by
    simp only [mem_namesIn_iff, IsUnknown, not_and, not_not, and_imp]
  have mentions (name : String) (occupied : name ≠ "") :
      (namesIn list).contains name = true ↔ Mentions list name := by
    rw [List.contains_iff_mem, mem_namesIn_iff, and_iff_left occupied]
  have rtti := mentions "rtti" (by decide)
  have extended := mentions "extended-operators" (by decide)
  have sized : (meant (namesIn list)).sizedDeallocation = true
      ↔ Mentions list "sized-deallocation" ∨ Mentions list "default" := by
    rw [meant, Bool.or_eq_true, mentions _ (by decide), mentions _ (by decide)]
  rw [parse, gather_eq_ok_iff, known]
  constructor
  · rintro ⟨all, rfl⟩
    exact ⟨all, rtti, extended, sized⟩
  · rintro ⟨all, own, ownExtended, ownSized⟩
    exact ⟨all, eq_of_iff (rtti.trans own.symm) (extended.trans ownExtended.symm)
      (sized.trans ownSized.symm)⟩

/-! ### Exports -/

theorem exports_union (own other : Features) (entry : EntryPoint) :
    (own.union other).exports entry = (own.exports entry || other.exports entry) := by
  cases entry with
  | trap point => cases point <;> simp [exports, union]
  | new array aligned => cases array <;> cases aligned <;> simp [exports, union]
  | delete array sized aligned =>
    cases array <;> cases sized <;> cases aligned <;> simp [exports, union]

/-- A comma between two lists gives the error of the first one that is refused, else the features
of both. What is refused is the first unknown name of a list, and a list that is not refused
selects what it names. The entry points that are exported with the features of both are those that
are exported with either, in the order of the catalog and without repeats. -/
theorem feature_lists_combine (first second : String) :
    (parse (first ++ "," ++ second) = match parse first, parse second with
        | .error unknown, _ => .error unknown
        | .ok _, .error unknown => .error unknown
        | .ok own, .ok other => .ok (own.union other))
      ∧ (∀ (list : String) (unknown : UnknownFeature),
        parse list = .error unknown ↔ FirstUnknown list unknown.name)
      ∧ (∀ (list : String) (features : Features),
        parse list = .ok features ↔ Selects list features)
      ∧ ∀ own other : Features,
        (own.union other).exportSet.Sublist EntryPoint.catalog
          ∧ (own.union other).exportSet.Nodup
          ∧ ∀ entry, entry ∈ (own.union other).exportSet
            ↔ entry ∈ own.exportSet ∨ entry ∈ other.exportSet := by
  refine ⟨?_, parse_eq_error_iff, parse_eq_ok_iff, ?_⟩
  · rw [parse_comma, combine.eq_def]
  · intro own other
    refine ⟨List.filter_sublist, EntryPoint.catalog_nodup.filter _, ?_⟩
    intro entry
    simp only [mem_exportSet, exports_union, Bool.or_eq_true]

end LinkContract.Features
