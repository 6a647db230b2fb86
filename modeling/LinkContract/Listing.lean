import LinkContract.Text.Basic

/-!
# Symbol listings

A listing says how objects relate to names. The relation is written as one
letter: `U` for a reference, `w` and `v` for a weak reference, `W` and `V` for a
weak definition, any other capital for a strong definition, any other small
letter for a name that stays inside its object.

A line is a header `object:`, which names the object of the lines after it, or a
symbol line `address letter name`, in which the address may be missing. A symbol
line may carry its own object as `object: `, which does not outlast the line.
Lines of any other shape say nothing, so every text has a reading.
-/
namespace LinkContract

inductive Linkage where
  | undefined
  | weakUndefined
  | defined
  | weakDefined
  | local
  deriving DecidableEq, Repr

namespace Linkage

def ofLetter? (c : Char) : Option Linkage :=
  if c = 'U' then some .undefined
  else if c = 'w' ∨ c = 'v' then some .weakUndefined
  else if c = 'W' ∨ c = 'V' then some .weakDefined
  else if c.isUpper then some .defined
  else if c.isLower then some .local
  else none

def isDefinition : Linkage → Bool
  | .defined | .weakDefined => true
  | _ => false

def isStrongDefinition : Linkage → Bool
  | .defined => true
  | _ => false

end Linkage

/-- One name, as one object lists it. -/
structure Occurrence where
  object : String
  name : String
  linkage : Linkage
  deriving DecidableEq, Repr

/-! ### Reading a listing -/

namespace Listing

/-- What one line contributes to a listing. -/
inductive Line where
  | skipped
  | header (object : List Char)
  | symbol (object : Option (List Char)) (linkage : Linkage) (name : List Char)
  deriving DecidableEq, Repr

def hasBlank (text : List Char) : Bool := text.any Text.isBlank

def isHexDigit (c : Char) : Bool :=
  c.isDigit || ('a' ≤ c && c ≤ 'f') || ('A' ≤ c && c ≤ 'F')

def linkageOfField? : List Char → Option Linkage
  | [c] => Linkage.ofLetter? c
  | _ => none

/-- Reads the fields of a symbol line. -/
def symbolOfFields? : List (List Char) → Option (Linkage × List Char)
  | [letter, name] => (linkageOfField? letter).map (·, name)
  | [address, letter, name] =>
    if address.all isHexDigit then (linkageOfField? letter).map (·, name) else none
  | _ => none

/-- The object of a header: what stands before a final colon, if it has no blank. -/
def headerOf? (line : List Char) : Option (List Char) :=
  if line.getLast? = some ':' ∧ hasBlank line.dropLast = false then some line.dropLast else none

/-- Splits at the last colon that a space follows. -/
def splitAtMark : List Char → Option (List Char × List Char)
  | [] => none
  | c :: rest =>
    match splitAtMark rest with
    | some (before, after) => some (c :: before, after)
    | none =>
      match c, rest with
      | ':', ' ' :: after => some ([], after)
      | _, _ => none

/-- The object that a symbol line carries itself, and the rest of the line. -/
def splitObject (line : List Char) : Option (List Char) × List Char :=
  match splitAtMark line with
  | some (object, rest) => if hasBlank object then (none, line) else (some object, rest)
  | none => (none, line)

def readLine (raw : List Char) : Line :=
  let line := Text.trimEnd raw
  match headerOf? line with
  | some object => .header object
  | none =>
    let (object, body) := splitObject line
    match symbolOfFields? (Text.words body) with
    | some (linkage, name) => .symbol object linkage name
    | none => .skipped

/-- The occurrences of the lines, where `object` holds until the next header. -/
def collect (object : String) : List Line → List Occurrence
  | [] => []
  | .skipped :: rest => collect object rest
  | .header label :: rest => collect (String.ofList label) rest
  | .symbol label linkage name :: rest =>
    ⟨(label.map String.ofList).getD object, String.ofList name, linkage⟩ :: collect object rest

/-- The object that holds after the lines. -/
def lastObject (object : String) : List Line → String
  | [] => object
  | .header label :: rest => lastObject (String.ofList label) rest
  | _ :: rest => lastObject object rest

theorem collect_append (object : String) (first second : List Line) :
    collect object (first ++ second)
      = collect object first ++ collect (lastObject object first) second := by
  induction first generalizing object with
  | nil => rfl
  | cons line rest ih => cases line <;> simp [collect, lastObject, ih]

def read (text : String) : List Line := (Text.lines text.toList).map readLine

/-- The occurrences in a text; `object` labels those before any header. -/
def parse (object text : String) : List Occurrence := collect object (read text)

end Listing

end LinkContract
