import LinkContract.Path
import LinkContract.Proofs.Text.Pieces

/-!
# Paths and their components

Reading a path is splitting at slashes, where only the front needs care: it is the root, a dot or
nothing, and the pieces behind it do not depend on it. So a path is a front and steps, and two
facts follow.

Names joined by slashes are read back as they are. Putting a relative path under a directory
appends its components to those of the directory, unless a dot in front of it gets lost.
-/
namespace LinkContract.Path

theorem slash_not_mem_of_mem_slashPieces {path piece : List Char}
    (inside : piece ∈ slashPieces path) : '/' ∉ piece := by
  intro slash
  have clear := Text.not_separates_of_mem_pieces _ path piece inside '/' slash
  simp at clear

theorem slashPieces_append (first second : List Char) :
    slashPieces (first ++ '/' :: second) = slashPieces first ++ slashPieces second :=
  Text.pieces_append _ first '/' second (by decide)

theorem head?_slashPieces_append (first second : List Char) :
    (slashPieces (first ++ '/' :: second)).head? = (slashPieces first).head? := by
  rw [slashPieces_append]
  cases shape : slashPieces first with
  | nil => exact absurd shape (Text.pieces_ne_nil _ first)
  | cons piece others => rfl

theorem exists_slashPieces_cons {c : Char} (ordinary : c ≠ '/') (rest : List Char) :
    ∃ piece others, slashPieces (c :: rest) = (c :: piece) :: others := by
  cases shape : slashPieces rest with
  | nil => exact absurd shape (Text.pieces_ne_nil _ rest)
  | cons piece others =>
    unfold slashPieces at shape
    exact ⟨piece, others, by simp [slashPieces, Text.pieces, ordinary, shape]⟩

theorem isAbsolute_cons (c : Char) (rest : List Char) :
    isAbsolute (c :: rest) = decide (c = '/') := by
  unfold isAbsolute
  split <;> simp_all

theorem isAbsolute_append {first : List Char} (occupied : first ≠ []) (rest : List Char) :
    isAbsolute (first ++ rest) = isAbsolute first := by
  obtain ⟨c, others, rfl⟩ := List.exists_cons_of_ne_nil occupied
  rw [List.cons_append, isAbsolute_cons, isAbsolute_cons]

theorem isAbsolute_of_clear {text : List Char} (clear : '/' ∉ text) : isAbsolute text = false := by
  unfold isAbsolute
  split
  · simp at clear
  · rfl

/-! ### Steps -/

/-- The text is one piece of a path, and a piece that counts wherever it stands. -/
structure IsPiece (text : List Char) : Prop where
  occupied : text ≠ []
  clear : '/' ∉ text
  undotted : text ≠ ['.']

/-- A component that can stand anywhere in a path. -/
def Component.IsStep : Component → Prop
  | .root | .current => False
  | .parent => True
  | .name text => IsPiece text ∧ text ≠ ['.', '.']

theorem Component.IsStep.isPiece_text {component : Component} (step : component.IsStep) :
    IsPiece component.text := by
  cases component with
  | root | current => exact step.elim
  | parent => constructor <;> simp [Component.text]
  | name text => exact step.1

theorem laterComponents_append (first second : List (List Char)) :
    laterComponents (first ++ second) = laterComponents first ++ laterComponents second := by
  simp only [laterComponents, List.filter_append, List.map_append]

@[simp] theorem laterComponents_nil : laterComponents [] = [] := rfl

@[simp] theorem laterComponents_dot_cons (rest : List (List Char)) :
    laterComponents (['.'] :: rest) = laterComponents rest := rfl

theorem laterComponents_text_cons {step : Component} (isStep : step.IsStep)
    (rest : List (List Char)) :
    laterComponents (step.text :: rest) = step :: laterComponents rest := by
  cases step with
  | root | current => exact isStep.elim
  | parent => rfl
  | name text =>
    obtain ⟨piece, noDots⟩ := isStep
    simp [laterComponents, Component.text, piece.occupied, piece.undotted, noDots]

theorem laterComponents_map_text {steps : List Component} (all : ∀ step ∈ steps, step.IsStep) :
    laterComponents (steps.map Component.text) = steps := by
  induction steps with
  | nil => rfl
  | cons step rest ih =>
    rw [List.forall_mem_cons] at all
    rw [List.map_cons, laterComponents_text_cons all.1, ih all.2]

theorem isStep_of_mem_laterComponents (pieces : List (List Char))
    (clear : ∀ piece ∈ pieces, '/' ∉ piece) :
    ∀ component ∈ laterComponents pieces, component.IsStep := by
  intro component inside
  simp only [laterComponents, List.mem_map, List.mem_filter, Bool.and_eq_true, Bool.not_eq_true',
    List.isEmpty_eq_false_iff, bne_iff_ne] at inside
  obtain ⟨piece, ⟨among, occupied, noDot⟩, rfl⟩ := inside
  by_cases dots : piece = ['.', '.']
  · simp [dots, Component.IsStep]
  · simp only [dots, if_false]
    exact ⟨⟨occupied, clear piece among, noDot⟩, dots⟩

/-! ### Front and steps -/

/-- What stands before the steps of a path. -/
def front (path : List Char) : List Component :=
  if isAbsolute path then [.root]
  else if (slashPieces path).head? = some ['.'] then [.current]
  else []

/-- All that a path has behind its front. -/
def steps (path : List Char) : List Component := laterComponents (slashPieces path)

theorem steps_append (first second : List Char) :
    steps (first ++ '/' :: second) = steps first ++ steps second := by
  rw [steps, slashPieces_append, laterComponents_append]
  rfl

theorem steps_nil : steps [] = [] := rfl

theorem isStep_of_mem_steps (path : List Char) : ∀ step ∈ steps path, step.IsStep :=
  isStep_of_mem_laterComponents _ fun _ => slash_not_mem_of_mem_slashPieces

theorem components_eq (path : List Char) : components path = front path ++ steps path := by
  unfold components front steps
  by_cases absolute : isAbsolute path = true
  · simp [absolute]
  · simp only [absolute, Bool.false_eq_true, if_false]
    -- a dot in front is read as the front, and is idle among the steps
    split
    next rest shape => simp [shape]
    next pieces noDot =>
      have other : (slashPieces path).head? ≠ some ['.'] := by
        intro dot
        obtain ⟨rest, shape⟩ := List.head?_eq_some_iff.mp dot
        exact noDot rest shape
      simp [other]

theorem front_of_isAbsolute {path : List Char} (absolute : isAbsolute path = true) :
    front path = [.root] := by
  simp [front, absolute]

theorem front_of_relative {path : List Char} (relative : isAbsolute path = false) :
    front path = [] ∨ front path = [.current] := by
  by_cases dotted : (slashPieces path).head? = some ['.']
  · exact Or.inr (by simp [front, relative, dotted])
  · exact Or.inl (by simp [front, relative, dotted])

theorem length_front_le (path : List Char) : (front path).length ≤ 1 := by
  unfold front
  split
  · simp
  · split <;> simp

theorem components_ne_nil {path : List Char} (occupied : path ≠ []) : components path ≠ [] := by
  obtain ⟨c, rest, rfl⟩ := List.exists_cons_of_ne_nil occupied
  rw [components_eq]
  by_cases slash : c = '/'
  · simp [slash, front, isAbsolute]
  · -- the first piece is not empty, so it is the front or a step
    obtain ⟨piece, others, shape⟩ := exists_slashPieces_cons slash rest
    by_cases dot : c :: piece = ['.']
    · simp [front, isAbsolute_cons, slash, shape, dot]
    · simp [steps, shape, laterComponents, dot]

/-! ### Names joined by slashes -/

theorem slashJoined_eq_intercalate (texts : List (List Char)) :
    slashJoined texts = ['/'].intercalate texts :=
  Text.eq_intercalate '/' slashJoined rfl (fun _ => rfl) (fun _ _ _ => rfl) texts

theorem slashPieces_slashJoined {texts : List (List Char)} (occupied : texts ≠ [])
    (clear : ∀ text ∈ texts, '/' ∉ text) : slashPieces (slashJoined texts) = texts := by
  rw [slashPieces, slashJoined_eq_intercalate]
  exact Text.pieces_intercalate '/' occupied clear

theorem steps_slashJoined {texts : List (List Char)} (clear : ∀ text ∈ texts, '/' ∉ text) :
    steps (slashJoined texts) = laterComponents texts := by
  by_cases occupied : texts = []
  · rw [occupied]
    -- nothing is joined to an empty text, which has no steps
    exact steps_nil
  · rw [steps, slashPieces_slashJoined occupied clear]

theorem isAbsolute_slashJoined {first : List Char} (rest : List (List Char))
    (occupied : first ≠ []) (clear : '/' ∉ first) :
    isAbsolute (slashJoined (first :: rest)) = false := by
  rw [← isAbsolute_of_clear clear]
  cases rest with
  | nil => rfl
  | cons next others => exact isAbsolute_append occupied _

theorem front_slashJoined {first : List Char} {rest : List (List Char)} (occupied : first ≠ [])
    (clear : ∀ text ∈ first :: rest, '/' ∉ text) :
    front (slashJoined (first :: rest)) = if first = ['.'] then [.current] else [] := by
  have relative := isAbsolute_slashJoined rest occupied (List.forall_mem_cons.mp clear).1
  simp [front, relative, slashPieces_slashJoined (List.cons_ne_nil _ _) clear]

/-- Steps are read back from their texts with slashes between them. -/
theorem components_slashJoined_steps {steps : List Component}
    (all : ∀ step ∈ steps, step.IsStep) :
    components (slashJoined (steps.map Component.text)) = steps := by
  have clear : ∀ text ∈ steps.map Component.text, '/' ∉ text :=
    List.forall_mem_map.mpr fun step inside => (all step inside).isPiece_text.clear
  rw [components_eq, steps_slashJoined clear, laterComponents_map_text all]
  cases steps with
  | nil => rfl
  | cons step rest =>
    have piece := (all step List.mem_cons_self).isPiece_text
    rw [List.map_cons] at clear ⊢
    simp [front_slashJoined piece.occupied clear, piece.undotted]

/-- A dot in front of steps is read back too. -/
theorem components_slashJoined_current {steps : List Component}
    (all : ∀ step ∈ steps, step.IsStep) :
    components (slashJoined ((Component.current :: steps).map Component.text))
      = .current :: steps := by
  have clear : ∀ text ∈ (Component.current :: steps).map Component.text, '/' ∉ text := by
    rw [List.map_cons, List.forall_mem_cons]
    refine ⟨by decide, ?_⟩
    exact List.forall_mem_map.mpr fun step inside => (all step inside).isPiece_text.clear
  have dot : Component.current.text ≠ [] := List.cons_ne_nil _ _
  rw [components_eq, steps_slashJoined clear, List.map_cons, front_slashJoined dot clear]
  simp [Component.text, laterComponents_map_text all]

/-! ### Paths under a directory -/

/-- The path under a directory, with a slash between the two if one is needed. An absolute path
does not move. -/
def joined (directory path : List Char) : List Char :=
  if isAbsolute path then path
  else if directory.isEmpty || directory.getLast? = some '/' then directory ++ path
  else directory ++ '/' :: path

section

variable {directory path : List Char}

/-- A relative path is put behind a slash, which ends the directory or is added to it. -/
theorem joined_eq (occupied : directory ≠ []) (relative : isAbsolute path = false) :
    (∃ start, directory = start ++ ['/'] ∧ joined directory path = start ++ '/' :: path)
      ∨ joined directory path = directory ++ '/' :: path := by
  by_cases ended : directory.getLast? = some '/'
  · obtain ⟨start, rfl⟩ := List.getLast?_eq_some_iff.mp ended
    exact Or.inl ⟨start, rfl, by simp [joined, relative]⟩
  · exact Or.inr (by simp [joined, relative, occupied, ended])

theorem front_joined (occupied : directory ≠ []) (relative : isAbsolute path = false) :
    front (joined directory path) = front directory := by
  have sameRoot : isAbsolute (joined directory path) = isAbsolute directory := by
    simp only [joined, relative, Bool.false_eq_true, if_false]
    split
    · exact isAbsolute_append occupied _
    · exact isAbsolute_append occupied _
  have samePiece : (slashPieces (joined directory path)).head? = (slashPieces directory).head? := by
    rcases joined_eq occupied relative with ⟨start, rfl, same⟩ | same
    · rw [same, head?_slashPieces_append, head?_slashPieces_append]
    · rw [same, head?_slashPieces_append]
  rw [front, front, sameRoot, samePiece]

theorem steps_joined (occupied : directory ≠ []) (relative : isAbsolute path = false) :
    steps (joined directory path) = steps directory ++ steps path := by
  rcases joined_eq occupied relative with ⟨start, rfl, same⟩ | same
  · -- there is no step behind the slash that ends the directory
    rw [same, steps_append, steps_append, steps_nil, List.append_nil]
  · rw [same, steps_append]

theorem components_joined (occupied : directory ≠ []) (relative : isAbsolute path = false)
    (undotted : front path = []) :
    components (joined directory path) = components directory ++ components path := by
  rw [components_eq, components_eq directory, components_eq path,
    front_joined occupied relative, steps_joined occupied relative, undotted,
    List.nil_append, List.append_assoc]

end

end LinkContract.Path
