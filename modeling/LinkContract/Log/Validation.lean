import LinkContract.EntryPoint
import LinkContract.Json.Parse
import LinkContract.Log.Record
import LinkContract.Text.Basic

/-!
# Validating a log

A line is checked in three stages: it must be a JSON object, its members must obey
the rules of the log, and it must decode to a record. A stage is reached only when
the ones before it found nothing. Blank lines of a file do not count, but they keep
their numbers.
-/
namespace LinkContract.Log

/-- What can be wrong with a line. -/
inductive Fault where
  | notJson
  | notObject
  | missing (field : String)
  | unknownLevel (text : String)
  | unknownOutcome (text : String)
  | unknownCategory (text : String)
  | categoryWithoutSymbol
  | malformedTraceId (text : String)
  | undecodable (error : Json.DecodeError)
  deriving Repr

namespace Fault

/-- The field that a fault is charged to. -/
def field : Fault → String
  | .notJson => "<json>"
  | .notObject => "<root>"
  | .missing field => field
  | .unknownLevel _ => "level"
  | .unknownOutcome _ => "outcome"
  | .unknownCategory _ => "category"
  | .categoryWithoutSymbol => "symbol"
  | .malformedTraceId _ => "trace_id"
  | .undecodable _ => "<deserialization>"

/-- What is said about a fault. For text that is not JSON that is all; where and why a parser
gives up is left out. -/
def message : Fault → String
  | .notJson => "invalid JSON"
  | .notObject => "expected JSON object"
  | .missing _ => "required field missing"
  | .unknownLevel text => "invalid level: '" ++ text ++ "'"
  | .unknownOutcome text => "invalid outcome: '" ++ text ++ "'"
  | .unknownCategory text => "invalid category: '" ++ text ++ "'"
  | .categoryWithoutSymbol => "category requires symbol"
  | .malformedTraceId text =>
    "trace_id should follow <scope>::<run_id>::<seq> format, got: '" ++ text ++ "'"
  | .undecodable error => "failed to deserialize: " ++ error.message

end Fault

/-- A fault and the number of its line, counted from 1. -/
structure Defect where
  line : Nat
  fault : Fault
  deriving Repr

def Defect.text (defect : Defect) : String :=
  "line " ++ toString defect.line ++ ": field '" ++ defect.fault.field ++ "': "
    ++ defect.fault.message

/-- The parts of a text between double colons, taken from left to right. -/
def doubleColonParts : List Char → List (List Char)
  | [] => [[]]
  | ':' :: ':' :: rest => [] :: doubleColonParts rest
  | c :: rest =>
    match doubleColonParts rest with
    | [] => [[c]]
    | part :: others => (c :: part) :: others

/-- A trace identifier names a scope, a run and a number. -/
def isTraceId (text : String) : Bool := (doubleColonParts text.toList).length = 3

def requiredFields : List String := ["timestamp", "trace_id", "level", "event"]

def categories : List String := [EntryPoint.Category.trap.name, EntryPoint.Category.allocation.name]

/-- A fault when a member is a string that fails a test. -/
def checkString (members : Json.Members) (key : String) (accepts : String → Bool)
    (fault : String → Fault) : List Fault :=
  match members.get? key with
  | some (.string text) => if accepts text then [] else [fault text]
  | _ => []

/-- The rules of the log, each of which may find something. -/
def faultsOf (members : Json.Members) : List Fault :=
  (requiredFields.filter fun field => !members.has field).map .missing
    ++ checkString members "level" (Level.choices.map (·.1)).contains .unknownLevel
    ++ checkString members "outcome" (Outcome.choices.map (·.1)).contains .unknownOutcome
    ++ checkString members "category" categories.contains .unknownCategory
    ++ (if members.has "category" && !members.has "symbol" then [.categoryWithoutSymbol] else [])
    ++ checkString members "trace_id" isTraceId .malformedTraceId

/-- The record on a line, or the faults that it has. -/
def readRecord (line : String) : Except (List Fault) Record :=
  match Json.parse? Json.documentDepth line with
  | none => .error [.notJson]
  | some (.object members) =>
    match faultsOf members with
    | [] =>
      match Record.decode (.object members) with
      | .ok record => .ok record
      | .error error => .error [.undecodable error]
    | faults => .error faults
  | some _ => .error [.notObject]

def validateLine (line : String) (number : Nat) : Except (List Defect) Record :=
  match readRecord line with
  | .ok record => .ok record
  | .error faults => .error (faults.map fun fault => ⟨number, fault⟩)

def defectsOf (line : String) (number : Nat) : List Defect :=
  match validateLine line number with
  | .ok _ => []
  | .error defects => defects

/-- How many lines of a log count, and the defects of all of them. -/
structure Verdict where
  lines : Nat
  defects : List Defect
  deriving Repr

def Verdict.isClean (verdict : Verdict) : Bool := verdict.defects.isEmpty

/-- Lines without the blanks around them, and their numbers. -/
def numberedLines (first : Nat) : List (List Char) → List (Nat × List Char)
  | [] => []
  | line :: rest => (first, Text.trim line) :: numberedLines (first + 1) rest

def validateText (text : String) : Verdict :=
  let counted := (numberedLines 1 (Text.lines text.toList)).filter fun line => !line.2.isEmpty
  { lines := counted.length
    defects := counted.flatMap fun line => defectsOf (String.ofList line.2) line.1 }

end LinkContract.Log
