import LinkContract.Proofs.Path.Components
import Mathlib.Data.List.Infix

/-!
# What labels tell of paths

A label is a path in its own right. Read as one, it has the components that its path has behind
the shared directory, whichever way it was written. The shared directory begins every path, so
it and a label give back all components of the path, and paths with other components have
another label.

A directory above all paths goes into the shared directory and from there into no label: paths
that are put under a directory keep their labels.

The directory that paths share is the greatest lower bound of the directories they stand in,
where one directory is below another when it holds it. So it depends on which paths there are,
and neither on their order nor on how often one of them is given.
-/
namespace LinkContract.Path

/-! ### The shared directory -/

/-- The directory a path stands in. -/
def directory (path : List Char) : List Component := parentComponents (components path)

theorem prefix_foldl_commonStart_iff (start shared : List Component) (paths : List (List Char)) :
    start <+: paths.foldl (fun shared path => commonStart shared (directory path)) shared
      ↔ start <+: shared ∧ ∀ path ∈ paths, start <+: directory path := by
  induction paths generalizing shared with
  | nil => simp
  | cons path rest ih =>
    rw [List.foldl_cons, ih, prefix_commonStart_iff, List.forall_mem_cons, and_assoc]

theorem prefix_sharedDirectory_iff (paths : List (List Char)) (occupied : paths ≠ [])
    (start : List Component) :
    start <+: sharedDirectory paths ↔ ∀ path ∈ paths, start <+: directory path := by
  cases paths with
  | nil => exact absurd rfl occupied
  | cons first rest =>
    rw [List.forall_mem_cons]
    exact prefix_foldl_commonStart_iff start (directory first) rest

theorem eq_of_prefix_iff (first second : List Component)
    (same : ∀ start, start <+: first ↔ start <+: second) : first = second := by
  have below := (same first).mp List.prefix_rfl
  have above := (same second).mpr List.prefix_rfl
  exact below.eq_of_length (Nat.le_antisymm below.length_le above.length_le)

theorem sharedDirectory_eq_of_mem_iff (first second : List (List Char)) (occupied : first ≠ [])
    (same : ∀ path, path ∈ first ↔ path ∈ second) :
    sharedDirectory first = sharedDirectory second := by
  have alsoOccupied : second ≠ [] := by
    obtain ⟨path, inside⟩ := List.exists_mem_of_ne_nil first occupied
    exact List.ne_nil_of_mem ((same path).mp inside)
  -- a start is one of the shared directory when every path has it, in whatever order
  apply eq_of_prefix_iff
  intro start
  rw [prefix_sharedDirectory_iff first occupied, prefix_sharedDirectory_iff second alsoOccupied]
  simp only [same]

/-- The label that a path has among others. -/
def labelAmong (paths : List String) (path : String) : String :=
  String.ofList (label (sharedDirectory (paths.map String.toList)) path.toList)

theorem labels_eq_map (paths : List String) : labels paths = paths.map (labelAmong paths) := rfl

theorem labelAmong_eq_of_mem_iff (first second : List String) (occupied : first ≠ [])
    (same : ∀ path, path ∈ first ↔ path ∈ second) : labelAmong first = labelAmong second := by
  have shared : sharedDirectory (first.map String.toList)
      = sharedDirectory (second.map String.toList) := by
    apply sharedDirectory_eq_of_mem_iff
    · simpa using occupied
    · simp only [List.mem_map, same, implies_true]
  funext path
  rw [labelAmong, labelAmong, shared]

/-! ### Labels read as paths -/

theorem dropIdle_subset (pieces : List (List Char)) : dropIdle pieces ⊆ pieces := by
  induction pieces with
  | nil => exact List.Subset.refl _
  | cons piece rest ih =>
    simp only [dropIdle]
    split
    next => split <;> simp
    next kept _ => exact List.cons_subset_cons _ ih

theorem laterComponents_dropIdle (pieces : List (List Char)) :
    laterComponents (dropIdle pieces) = laterComponents pieces := by
  induction pieces with
  | nil => rfl
  | cons piece rest ih =>
    have parts : laterComponents (piece :: rest)
        = laterComponents [piece] ++ laterComponents rest :=
      laterComponents_append [piece] rest
    rw [parts, ← ih]
    simp only [dropIdle]
    split
    next none =>
      rw [none, laterComponents_nil, List.append_nil]
      -- nothing is kept behind the piece, which is dropped itself if it is no component
      split
      next idle =>
        simp only [Bool.or_eq_true, List.isEmpty_iff, decide_eq_true_eq] at idle
        rcases idle with rfl | rfl <;> rfl
      · rfl
    next kept _ => exact laterComponents_append [piece] (dropIdle rest)

theorem components_slash_cons (rest : List Char) :
    components ('/' :: rest) = .root :: steps rest := by
  have behind : steps ('/' :: rest) = steps rest := by
    rw [← List.nil_append ('/' :: rest), steps_append, steps_nil, List.nil_append]
  rw [components_eq, front_of_isAbsolute (isAbsolute_cons '/' rest), behind, List.singleton_append]

theorem components_dropIdleEnd (path : List Char) (absolute : isAbsolute path = true) :
    components (dropIdleEnd path) = components path := by
  cases path with
  | nil => simp [isAbsolute] at absolute
  | cons c rest =>
    rw [isAbsolute_cons, decide_eq_true_eq] at absolute
    subst absolute
    rw [dropIdleEnd, components_slash_cons, components_slash_cons, steps_slashJoined,
      laterComponents_dropIdle]
    · rfl
    · intro piece kept
      exact slash_not_mem_of_mem_slashPieces (dropIdle_subset _ kept)

theorem components_slashJoined_of_relative (path : List Char)
    (relative : isAbsolute path = false) :
    components (slashJoined ((components path).map Component.text)) = components path := by
  rw [components_eq path]
  rcases front_of_relative relative with none | dot
  · rw [none]
    exact components_slashJoined_steps (isStep_of_mem_steps path)
  · rw [dot]
    exact components_slashJoined_current (isStep_of_mem_steps path)

theorem isStep_of_mem_drop {shared : List Component} (occupied : shared ≠ []) (path : List Char) :
    ∀ component ∈ (components path).drop shared.length, component.IsStep := by
  -- the front is one component at most, and at least one is dropped
  have bound : (front path).length ≤ shared.length :=
    Nat.le_trans (length_front_le path) (List.length_pos_iff.mpr occupied)
  rw [components_eq, List.drop_append, List.drop_eq_nil_of_le bound, List.nil_append]
  intro component inside
  exact isStep_of_mem_steps path component (List.mem_of_mem_drop inside)

/-- A label has the components of its path that are left without those of the shared directory. -/
theorem components_label (shared : List Component) (path : List Char) :
    components (label shared path) = (components path).drop shared.length := by
  by_cases occupied : shared = []
  · subst occupied
    by_cases absolute : isAbsolute path = true
    · simp only [label, absolute, List.isEmpty_nil, Bool.and_self, if_true, List.length_nil,
        List.drop_zero]
      exact components_dropIdleEnd path absolute
    · have relative := Bool.eq_false_iff.mpr absolute
      simp only [label, relative, Bool.and_false, Bool.false_eq_true, if_false, List.length_nil,
        List.drop_zero]
      exact components_slashJoined_of_relative path relative
  · have named : label shared path
        = slashJoined (((components path).drop shared.length).map Component.text) := by
      simp [label, occupied]
    rw [named]
    exact components_slashJoined_steps (isStep_of_mem_drop occupied path)

theorem parentComponents_prefix_self (components : List Component) :
    parentComponents components <+: components := by
  unfold parentComponents
  split
  · exact List.nil_prefix
  · exact List.dropLast_prefix components

theorem parentComponents_of_ne_root {components : List Component} (several : components ≠ [.root]) :
    parentComponents components = components.dropLast := by
  unfold parentComponents
  split
  · exact absurd rfl several
  · rfl

theorem sharedDirectory_prefix_components {paths : List (List Char)} {path : List Char}
    (inside : path ∈ paths) : sharedDirectory paths <+: components path := by
  have below := (prefix_sharedDirectory_iff paths (List.ne_nil_of_mem inside) _).mp
    List.prefix_rfl path inside
  exact below.trans (parentComponents_prefix_self _)

/-- The shared directory and the label of a path lead to its components. -/
theorem components_eq_append_label {paths : List String} {path : String} (inside : path ∈ paths) :
    components path.toList = sharedDirectory (paths.map String.toList)
      ++ components (labelAmong paths path).toList := by
  have above : sharedDirectory (paths.map String.toList) <+: components path.toList :=
    sharedDirectory_prefix_components (List.mem_map_of_mem inside)
  rw [labelAmong, String.toList_ofList, components_label]
  exact List.prefix_append_drop above

/-- Two positions with one label hold paths with the same components. So what lies in different
directories gets different labels, be its file names the same or not. -/
theorem labels_tell_paths_apart (paths : List String) (first second : Nat) (path other : String)
    (one : paths[first]? = some path) (two : paths[second]? = some other) :
    ((labels paths)[first]? = (labels paths)[second]? →
        components path.toList = components other.toList)
      ∧ (directory path.toList ≠ directory other.toList →
        (labels paths)[first]? ≠ (labels paths)[second]?) := by
  have read : (labels paths)[first]? = (labels paths)[second]? →
      components path.toList = components other.toList := by
    rw [labels_eq_map, List.getElem?_map, List.getElem?_map, one, two]
    intro same
    rw [components_eq_append_label (List.mem_of_getElem? one),
      components_eq_append_label (List.mem_of_getElem? two)]
    exact congrArg (fun label : String => _ ++ components label.toList) (Option.some.inj same)
  refine ⟨read, ?_⟩
  intro apart same
  -- the directory of a path is made of its components
  exact apart (congrArg parentComponents (read same))

/-- An absolute path in two spellings, and a relative one with the same names. -/
theorem labels_tell_relative_path :
    let paths := ["/a/shim.nm/.", "/a/shim.nm", "a/shim.nm"]
    paths[0]? = some "/a/shim.nm/." ∧ paths[1]? = some "/a/shim.nm"
      ∧ paths[2]? = some "a/shim.nm"
      ∧ labels paths = ["/a/shim.nm", "/a/shim.nm", "a/shim.nm"]
      ∧ components "/a/shim.nm/.".toList = components "/a/shim.nm".toList
      ∧ directory "/a/shim.nm".toList ≠ directory "a/shim.nm".toList
      ∧ (labels paths)[1]? ≠ (labels paths)[2]? := by
  intro paths
  have computed : labels paths = ["/a/shim.nm", "/a/shim.nm", "a/shim.nm"] := by decide +kernel
  have elsewhere : directory "/a/shim.nm".toList ≠ directory "a/shim.nm".toList := by
    decide +kernel
  refine ⟨rfl, rfl, rfl, computed, ?_, elsewhere, ?_⟩
  · apply (labels_tell_paths_apart paths 0 1 _ _ rfl rfl).1
    rw [computed]
    rfl
  · exact (labels_tell_paths_apart paths 1 2 _ _ rfl rfl).2 elsewhere

/-! ### Labels of paths under a directory -/

/-- The path can be put under a directory and keeps all its components there. -/
structure Movable (path : List Char) : Prop where
  occupied : path ≠ []
  relative : isAbsolute path = false
  undotted : (components path).head? ≠ some .current

theorem movable_iff (path : List Char) :
    Movable path ↔ path ≠ [] ∧ isAbsolute path = false
      ∧ (components path).head? ≠ some .current :=
  ⟨fun ⟨occupied, relative, undotted⟩ => ⟨occupied, relative, undotted⟩,
    fun ⟨occupied, relative, undotted⟩ => ⟨occupied, relative, undotted⟩⟩

instance (path : List Char) : Decidable (Movable path) :=
  decidable_of_iff' _ (movable_iff path)

theorem commonStart_append (start first second : List Component) :
    commonStart (start ++ first) (start ++ second) = start ++ commonStart first second := by
  induction start with
  | nil => rfl
  | cons component rest ih => simp [commonStart, ih]

section

variable {above path : List Char}

theorem Movable.front_eq_nil (movable : Movable path) : front path = [] := by
  rcases front_of_relative movable.relative with none | dot
  · exact none
  · have dotted : (components path).head? = some .current := by rw [components_eq, dot]; rfl
    exact absurd dotted movable.undotted

theorem Movable.components_joined (movable : Movable path) (occupied : above ≠ []) :
    components (joined above path) = components above ++ components path :=
  Path.components_joined occupied movable.relative movable.front_eq_nil

theorem Movable.directory_eq (movable : Movable path) :
    directory path = (components path).dropLast := by
  apply parentComponents_of_ne_root
  -- without a front there are only steps, and the root is none
  rw [components_eq, movable.front_eq_nil, List.nil_append]
  intro root
  exact isStep_of_mem_steps path .root (by simp [root])

theorem Movable.directory_joined (movable : Movable path) (occupied : above ≠ []) :
    directory (joined above path) = components above ++ directory path := by
  have named := components_ne_nil movable.occupied
  have several : components (joined above path) ≠ [.root] := by
    -- there are two components at least, one of the directory and one of the path
    rw [movable.components_joined occupied]
    intro root
    have first := List.length_pos_iff.mpr (components_ne_nil occupied)
    have second := List.length_pos_iff.mpr named
    have lengths := congrArg List.length root
    rw [List.length_append, List.length_singleton] at lengths
    omega
  rw [directory, parentComponents_of_ne_root several, movable.components_joined occupied,
    List.dropLast_append_of_ne_nil named, movable.directory_eq]

theorem foldl_commonStart_joined (occupied : above ≠ []) (shared : List Component)
    (paths : List (List Char)) (movable : ∀ path ∈ paths, Movable path) :
    (paths.map (joined above)).foldl (fun shared path => commonStart shared (directory path))
        (components above ++ shared)
      = components above
        ++ paths.foldl (fun shared path => commonStart shared (directory path)) shared := by
  -- what is shared so far begins with the directory above, and stays so at every path
  induction paths generalizing shared with
  | nil => rfl
  | cons path rest ih =>
    rw [List.forall_mem_cons] at movable
    rw [List.map_cons, List.foldl_cons, List.foldl_cons, movable.1.directory_joined occupied,
      commonStart_append, ih _ movable.2]

theorem sharedDirectory_joined (occupied : above ≠ []) (paths : List (List Char))
    (given : paths ≠ []) (movable : ∀ path ∈ paths, Movable path) :
    sharedDirectory (paths.map (joined above)) = components above ++ sharedDirectory paths := by
  cases paths with
  | nil => exact absurd rfl given
  | cons first rest =>
    rw [List.forall_mem_cons] at movable
    have start : directory (joined above first) = components above ++ directory first :=
      movable.1.directory_joined occupied
    have shared := foldl_commonStart_joined occupied (directory first) rest movable.2
    rw [← start] at shared
    exact shared

theorem Movable.label_joined (movable : Movable path) (occupied : above ≠ [])
    (shared : List Component) :
    label (components above ++ shared) (joined above path) = label shared path := by
  have held : (components above ++ shared).isEmpty = false := by
    simp [components_ne_nil occupied]
  simp only [label, held, movable.relative, Bool.false_and, Bool.and_false, Bool.false_eq_true,
    if_false]
  rw [movable.components_joined occupied, List.length_append, ← List.drop_drop, List.drop_left]

end

/-- The path under a directory. -/
def under (above path : String) : String := String.ofList (joined above.toList path.toList)

/-- Labels do not tell where the paths lie: under any directory they are the same. -/
theorem labels_under (above : String) (occupied : above ≠ "") (paths : List String)
    (movable : ∀ path ∈ paths, Movable path.toList) :
    labels (paths.map (under above)) = labels paths := by
  have held : above.toList ≠ [] := by simpa using occupied
  by_cases given : paths = []
  · subst given
    rfl
  · have moved : (paths.map (under above)).map String.toList
        = (paths.map String.toList).map (joined above.toList) := by
      simp [under]
    have shared := sharedDirectory_joined held (paths.map String.toList)
      (by simpa using given) (List.forall_mem_map.mpr movable)
    rw [labels_eq_map, labels_eq_map, List.map_map]
    -- path by path, the directory above goes out with the shared one
    apply List.map_congr_left
    intro path inside
    simp only [Function.comp_apply, labelAmong, moved, shared, under, String.toList_ofList]
    rw [(movable path inside).label_joined held]

/-- Paths that leave their directory again, under an absolute one that is written with a dot. -/
theorem labels_under_dotted_root :
    let paths := ["../a//b.nm", "../a/./c/b.nm", "..//shim.nm"]
    (∀ path ∈ paths, Movable path.toList)
      ∧ paths.map (under "/./tmp/") = ["/./tmp/../a//b.nm", "/./tmp/../a/./c/b.nm",
        "/./tmp/..//shim.nm"]
      ∧ labels (paths.map (under "/./tmp/")) = labels paths
      ∧ labels paths = ["a/b.nm", "a/c/b.nm", "shim.nm"] := by
  intro paths
  have movable : ∀ path ∈ paths, Movable path.toList := by decide +kernel
  refine ⟨movable, by decide +kernel, ?_, by decide +kernel⟩
  exact labels_under "/./tmp/" (by decide) paths movable

end LinkContract.Path
