import LinkContract.Text.Basic

/-!
# Paths and labels of listings

A path is read as components: the root if it begins with a slash, and its names
between slashes. Repeated slashes count once and a dot counts only at the front of
a relative path; two dots are a component of their own.

Listings are told apart by their paths. The label of a path is what remains of it
after the deepest directory that all paths share, with single slashes between the
names. When the paths share no directory an absolute path stands for itself, and
only slashes and dots at its end are dropped.

The shared directory is a meet: `prefix_commonStart_iff` says that the common start
of two lists is the longest list that begins both.
-/
namespace LinkContract.Path

/-! ### Components -/

inductive Component where
  | root
  | current
  | parent
  | name (text : List Char)
  deriving DecidableEq, Repr

def Component.text : Component → List Char
  | .root => ['/']
  | .current => ['.']
  | .parent => ['.', '.']
  | .name text => text

/-- What the pieces of a path after its first one stand for. -/
def laterComponents (pieces : List (List Char)) : List Component :=
  (pieces.filter fun piece => !piece.isEmpty && piece != ['.']).map fun piece =>
    if piece = ['.', '.'] then .parent else .name piece

def isAbsolute : List Char → Bool
  | '/' :: _ => true
  | _ => false

def slashPieces (path : List Char) : List (List Char) := Text.pieces (· == '/') path

def components (path : List Char) : List Component :=
  if isAbsolute path then .root :: laterComponents (slashPieces path)
  else
    match slashPieces path with
    | ['.'] :: rest => .current :: laterComponents rest
    | pieces => laterComponents pieces

/-- The components of the directory a path stands in; the root and the empty path
stand in the empty one. -/
def parentComponents (components : List Component) : List Component :=
  match components with
  | [.root] => []
  | _ => components.dropLast

def slashJoined : List (List Char) → List Char
  | [] => []
  | [text] => text
  | text :: rest => text ++ '/' :: slashJoined rest

/-- The shortest path that has given components. -/
def pathText : List Component → List Char
  | .root :: rest => '/' :: slashJoined (rest.map Component.text)
  | components => slashJoined (components.map Component.text)

/-- The directory a path stands in, unless that is the empty one. -/
def parent? (path : String) : Option String :=
  match parentComponents (components path.toList) with
  | [] => none
  | parent => some (String.ofList (pathText parent))

/-- A path and all that it stands in, from the path itself to its first component. -/
def ancestry (path : String) : List String :=
  let all := components path.toList
  (List.range all.length).map fun dropped =>
    String.ofList (pathText (all.take (all.length - dropped)))

/-! ### Labels -/

/-- The longest list with which two lists begin. -/
def commonStart {α : Type} [DecidableEq α] : List α → List α → List α
  | first :: others, head :: rest => if first = head then first :: commonStart others rest else []
  | _, _ => []

theorem prefix_commonStart_iff {α : Type} [DecidableEq α] (start first second : List α) :
    start <+: commonStart first second ↔ start <+: first ∧ start <+: second := by
  fun_induction commonStart first second generalizing start with
  | case1 others head rest ih =>
    cases start with
    | nil => simp
    | cons item more =>
      simp only [List.cons_prefix_cons, ih]
      exact ⟨fun ⟨same, one, two⟩ => ⟨⟨same, one⟩, same, two⟩,
        fun ⟨⟨same, one⟩, _, two⟩ => ⟨same, one, two⟩⟩
  | case2 first others head rest different =>
    cases start with
    | nil => simp
    | cons item more =>
      simp only [List.prefix_nil, List.cons_prefix_cons, reduceCtorEq, false_iff]
      rintro ⟨⟨rfl, _⟩, same, _⟩
      exact different same
  | case3 first second shape =>
    rw [List.prefix_nil]
    refine ⟨fun empty => empty ▸ ⟨List.nil_prefix, List.nil_prefix⟩, fun ⟨one, two⟩ => ?_⟩
    cases first with
    | nil => exact List.prefix_nil.mp one
    | cons item more =>
      cases second with
      | nil => exact List.prefix_nil.mp two
      | cons head rest => exact absurd rfl (shape item more head rest rfl)

/-- The deepest directory that holds all paths; no paths share no directory. -/
def sharedDirectory : List (List Char) → List Component
  | [] => []
  | first :: rest =>
    rest.foldl (fun shared path => commonStart shared (parentComponents (components path)))
      (parentComponents (components first))

/-- Drops the pieces at the end that name nothing. -/
def dropIdle : List (List Char) → List (List Char)
  | [] => []
  | piece :: rest =>
    match dropIdle rest with
    | [] => if piece.isEmpty || piece = ['.'] then [] else [piece]
    | kept => piece :: kept

/-- A path without the slashes and dots at its end; the root stays. -/
def dropIdleEnd : List Char → List Char
  | [] => []
  | first :: rest => first :: slashJoined (dropIdle (slashPieces rest))

def label (shared : List Component) (path : List Char) : List Char :=
  if shared.isEmpty && isAbsolute path then dropIdleEnd path
  else slashJoined (((components path).drop shared.length).map Component.text)

/-- One label for each path, in their order. -/
def labels (paths : List String) : List String :=
  let shared := sharedDirectory (paths.map String.toList)
  paths.map fun path => String.ofList (label shared path.toList)

end LinkContract.Path
