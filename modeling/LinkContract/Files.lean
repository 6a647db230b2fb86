import LinkContract.Path

/-!
# Files

A tree says what stands at each location, which is a list of names from the root.
A path is followed name by name from the root or from the working directory: every
name but the last must be a directory, a dot stays in place and two dots go back,
from the root to the root. A slash at the end asks for a directory.

A fault says why a file operation did not succeed. One that the system reports has
a number, a kind and a text; the others have no number. A text that is shown to a
user ends in the number, and a failed command shows all parts.
-/
namespace LinkContract.Files

/-! ### Faults -/

inductive Fault where
  | missing
  | denied
  | exists
  | notDirectory
  | isDirectory
  | nameTooLong
  | nulInPath
  | notText
  | other (code : Nat) (reason : String)
  deriving DecidableEq, Repr

namespace Fault

/-- The number of a fault that the system reports. -/
def code? : Fault → Option Nat
  | .missing => some 2
  | .denied => some 13
  | .exists => some 17
  | .notDirectory => some 20
  | .isDirectory => some 21
  | .nameTooLong => some 36
  | .other code _ => some code
  | .nulInPath | .notText => none

def kind : Fault → String
  | .missing => "NotFound"
  | .denied => "PermissionDenied"
  | .exists => "AlreadyExists"
  | .notDirectory => "NotADirectory"
  | .isDirectory => "IsADirectory"
  | .nameTooLong => "InvalidFilename"
  | .nulInPath => "InvalidInput"
  | .notText => "InvalidData"
  | .other .. => "Uncategorized"

def reason : Fault → String
  | .missing => "No such file or directory"
  | .denied => "Permission denied"
  | .exists => "File exists"
  | .notDirectory => "Not a directory"
  | .isDirectory => "Is a directory"
  | .nameTooLong => "File name too long"
  | .nulInPath => "file name contained an unexpected NUL byte"
  | .notText => "stream did not contain valid UTF-8"
  | .other _ reason => reason

def message (fault : Fault) : String :=
  match fault.code? with
  | some code => fault.reason ++ " (os error " ++ toString code ++ ")"
  | none => fault.reason

/-- All parts of the fault, for the last line of a failed command. -/
def details (fault : Fault) : String :=
  let parts := "kind: " ++ fault.kind ++ ", message: \"" ++ fault.reason ++ "\" \x7d"
  match fault.code? with
  | some code => "Os \x7b code: " ++ toString code ++ ", " ++ parts
  | none => "Error \x7b " ++ parts

end Fault

/-! ### Trees -/

inductive Node where
  | directory
  | file (contents : ByteArray)

def Node.isDirectory : Node → Bool
  | .directory => true
  | .file _ => false

abbrev Location := List (List Char)

structure Tree where
  /-- The directory from which relative paths are followed. -/
  working : Location
  node? : Location → Option Node

namespace Tree

/-- A tree with empty directories alone: the working directory and those above it. -/
def ofWorking (working : Location) : Tree :=
  ⟨working, fun location => if location.isPrefixOf working then some .directory else none⟩

def install (tree : Tree) (location : Location) (node : Node) : Tree :=
  { tree with node? := fun other => if other = location then some node else tree.node? other }

def directoryAt (tree : Tree) (location : Location) : Bool :=
  (tree.node? location).any Node.isDirectory

/-- The longest name and the longest path, in bytes. -/
def nameLimit : Nat := 255

def pathLimit : Nat := 4095

def byteCount (text : List Char) : Nat := (String.ofList text).utf8ByteSize

/-- Follows pieces of a path that all have to be directories. -/
def follow (tree : Tree) : Location → List (List Char) → Except Fault Location
  | here, [] => .ok here
  | here, piece :: rest =>
    if piece.isEmpty || piece = ['.'] then follow tree here rest
    else if piece = ['.', '.'] then follow tree here.dropLast rest
    else if nameLimit < byteCount piece then .error .nameTooLong
    else
      match tree.node? (here ++ [piece]) with
      | none => .error .missing
      | some (.file _) => .error .notDirectory
      | some .directory => follow tree (here ++ [piece]) rest

/-- Where a path leads: to a directory by way of dots, or to a name in a directory,
of which the path may ask to be a directory itself. -/
inductive Target where
  | directory
  | entry (location : Location) (asDirectory : Bool)
  deriving DecidableEq

/-- The last piece of a path and the pieces before it; pieces that are empty and
stand at the end do not count. -/
def splitLast (pieces : List (List Char)) : List (List Char) × List Char :=
  let kept := (pieces.reverse.dropWhile List.isEmpty).reverse
  (kept.dropLast, kept.getLast?.getD [])

def locate (tree : Tree) (path : String) : Except Fault Target :=
  let text := path.toList
  if text.contains '\x00' then .error .nulInPath
  else if text.isEmpty then .error .missing
  else if pathLimit < byteCount text then .error .nameTooLong
  else
    let start := if Path.isAbsolute text then [] else tree.working
    let (before, last) := splitLast (Path.slashPieces text)
    match tree.follow start before with
    | .error fault => .error fault
    | .ok here =>
      if last.isEmpty || last = ['.'] || last = ['.', '.'] then .ok .directory
      else .ok (.entry (here ++ [last]) (text.getLast? = some '/'))

/-- What stands at a location, whose last name is looked up and must not be too long. -/
def lookUp (tree : Tree) (location : Location) : Except Fault (Option Node) :=
  if nameLimit < byteCount (location.getLast?.getD []) then .error .nameTooLong
  else .ok (tree.node? location)

def readBytes (tree : Tree) (path : String) : Except Fault ByteArray := do
  match ← tree.locate path with
  | .directory => .error .isDirectory
  | .entry location asDirectory =>
    match ← tree.lookUp location with
    | none => .error .missing
    | some .directory => .error .isDirectory
    | some (.file contents) => if asDirectory then .error .notDirectory else .ok contents

def readText (tree : Tree) (path : String) : Except Fault String := do
  match String.fromUTF8? (← tree.readBytes path) with
  | some text => .ok text
  | none => .error .notText

/-- Puts contents in place of what a file held, or makes the file. A path that asks for
a directory is refused before its last name is looked up. -/
def writeBytes (tree : Tree) (path : String) (contents : ByteArray) : Except Fault Tree := do
  match ← tree.locate path with
  | .directory => .error .isDirectory
  | .entry _ true => .error .isDirectory
  | .entry location false =>
    match ← tree.lookUp location with
    | some .directory => .error .isDirectory
    | _ => .ok (tree.install location (.file contents))

def writeText (tree : Tree) (path text : String) : Except Fault Tree :=
  tree.writeBytes path text.toUTF8

def isDirectory (tree : Tree) (path : String) : Bool :=
  match tree.locate path with
  | .ok .directory => true
  | .ok (.entry location _) => tree.directoryAt location
  | .error _ => false

def makeDirectory (tree : Tree) (path : String) : Except Fault Tree := do
  match ← tree.locate path with
  | .directory => .error .exists
  | .entry location _ =>
    match ← tree.lookUp location with
    | some _ => .error .exists
    | none => .ok (tree.install location .directory)

/-- Makes a directory unless it stands already. -/
def ensureDirectory (tree : Tree) (path : String) : Except Fault Tree :=
  match tree.makeDirectory path with
  | .ok after => .ok after
  | .error fault => if tree.isDirectory path then .ok tree else .error fault

/-- Makes a directory after those above it, given from the nearest to the farthest. -/
def ensureAll (tree : Tree) : List String → Except Fault Tree
  | [] => .ok tree
  | path :: above =>
    match tree.ensureDirectory path with
    | .error .missing => do (← tree.ensureAll above).ensureDirectory path
    | other => other

def makeDirectories (tree : Tree) (path : String) : Except Fault Tree :=
  tree.ensureAll (Path.ancestry path)

end Tree

end LinkContract.Files
