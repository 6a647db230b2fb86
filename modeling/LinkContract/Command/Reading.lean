import LinkContract.Variant.Axis

/-!
# Command lines

What the command line can be asked to do, and how it is read. The first argument
names the command, the others are its options. A command line with any error in it
is no command at all.

An argument `--name` is an option, whose value is the next argument or stands
behind an equals sign. A value that begins with a dash can only stand behind the
equals sign, a single dash excepted. Some options take no value. A last argument
`--` says nothing, and every other argument is an error.
-/
namespace LinkContract

/-- A command. Where it has a place for its output, no path stands for the standard output. -/
inductive Command where
  /-- Writes the manifest of a variant and, if asked to, an index of it. -/
  | manifest (variant : Variant) (output index : Option String)
  /-- Writes the header of a variant. -/
  | declarations (variant : Variant) (output : Option String)
  /-- Checks what a build exports; without a feature list, the usual build. -/
  | checkExports (variant : Variant) (features output : Option String)
  /-- Audits listings of an application against listings of the support library. -/
  | audit (variant : Variant) (application library : List String) (log : Option String)
      (runId : String) (output : Option String)
  /-- Validates a log file. -/
  | validateLog (log : String)
  deriving DecidableEq, Repr

namespace Command

/-! ### Options -/

/-- An option as it was given, without its dashes; one that takes no value has an empty one. -/
structure Given where
  name : String
  value : String
  deriving DecidableEq, Repr

/-- The options of a command, each with whether it takes a value. -/
abbrev OptionTable := List (String × Bool)

/-- Splits at the first equals sign. -/
def splitAtEquals (text : List Char) : List Char × Option (List Char) :=
  match text.dropWhile (· != '=') with
  | [] => (text, none)
  | _ :: value => (text.takeWhile (· != '='), some value)

/-- The name of an option and the value that stands behind its equals sign. -/
def optionOf? (argument : String) : Option (String × Option String) :=
  match argument.toList with
  | '-' :: '-' :: rest =>
    let (name, value) := splitAtEquals rest
    some (String.ofList name, value.map String.ofList)
  | _ => none

/-- A value that stands in an argument of its own. -/
def isPlainValue (argument : String) : Bool :=
  argument == "-" || argument.toList.head? != some '-'

/-- Reads the options that a table knows. -/
def readOptions (table : OptionTable) : List String → Option (List Given)
  | [] => some []
  | [argument] =>
    if argument = "--" then some []
    else
      match optionOf? argument with
      | some (name, some value) =>
        if table.lookup name = some true then some [⟨name, value⟩] else none
      | some (name, none) => if table.lookup name = some false then some [⟨name, ""⟩] else none
      | none => none
  | argument :: next :: rest =>
    match optionOf? argument with
    | none => none
    | some (name, attached) =>
      match table.lookup name, attached with
      | some true, some value => (readOptions table (next :: rest)).map (⟨name, value⟩ :: ·)
      | some true, none =>
        if isPlainValue next then (readOptions table rest).map (⟨name, next⟩ :: ·) else none
      | some false, none => (readOptions table (next :: rest)).map (⟨name, ""⟩ :: ·)
      | _, _ => none

/-- The values of an option in the order they were given. -/
def valuesOf (given : List Given) (name : String) : List String :=
  (given.filter fun option => option.name == name).map Given.value

/-- The value of an option that may be given once. -/
def once? (given : List Given) (name : String) : Option (Option String) :=
  match valuesOf given name with
  | [] => some none
  | [value] => some (some value)
  | _ => none

/-- Whether an option without a value was given; twice is an error. -/
def flag? (given : List Given) (name : String) : Option Bool :=
  (once? given name).map Option.isSome

/-- A path, which is never empty. -/
def path? (text : String) : Option String := if text.isEmpty then none else some text

/-- The path of an option that may be given once. -/
def oncePath? (given : List Given) (name : String) : Option (Option String) := do
  match ← once? given name with
  | none => some none
  | some text => (path? text).map some

/-- The paths of an option that is given at least once. -/
def somePaths? (given : List Given) (name : String) : Option (List String) :=
  match valuesOf given name with
  | [] => none
  | values => values.mapM path?

/-! ### The commands -/

def variantTable : OptionTable :=
  [("toolchain", true), ("std", true), ("rtti", false), ("size-type", true)]

def manifestTable : OptionTable := variantTable ++ [("output", true), ("artifact-index", true)]

def declarationsTable : OptionTable := variantTable ++ [("output", true)]

def checkExportsTable : OptionTable := variantTable ++ [("features", true), ("output", true)]

def auditTable : OptionTable :=
  variantTable
    ++ [("app", true), ("shim", true), ("log", true), ("run-id", true), ("output", true)]

def validateLogTable : OptionTable := [("log", true)]

/-- The value on an axis of the variant, which has a usual one. -/
def axis? {α : Type} (read : String → Except AxisError α) (usual : α) : Option String → Option α
  | none => some usual
  | some text => (read text).toOption

def variant? (given : List Given) : Option Variant := do
  let toolchain ← axis? Toolchain.read .clang (← once? given "toolchain")
  let standard ← axis? Standard.read .cxx17 (← once? given "std")
  let rtti ← flag? given "rtti"
  let size ← axis? SizeSpelling.read .unsignedLong (← once? given "size-type")
  some { toolchain, standard, rtti, size }

def readManifest (arguments : List String) : Option Command := do
  let given ← readOptions manifestTable arguments
  let index ← oncePath? given "artifact-index"
  some (.manifest (← variant? given) (← oncePath? given "output") index)

def readDeclarations (arguments : List String) : Option Command := do
  let given ← readOptions declarationsTable arguments
  some (.declarations (← variant? given) (← oncePath? given "output"))

def readCheckExports (arguments : List String) : Option Command := do
  let given ← readOptions checkExportsTable arguments
  some (.checkExports (← variant? given) (← once? given "features") (← oncePath? given "output"))

def readAudit (arguments : List String) : Option Command := do
  let given ← readOptions auditTable arguments
  let variant ← variant? given
  let application ← somePaths? given "app"
  let library ← somePaths? given "shim"
  let log ← oncePath? given "log"
  let runId := (← once? given "run-id").getD "local"
  some (.audit variant application library log runId (← oncePath? given "output"))

def readValidateLog (arguments : List String) : Option Command := do
  let given ← readOptions validateLogTable arguments
  match ← oncePath? given "log" with
  | some log => some (.validateLog log)
  | none => none

def read? : List String → Option Command
  | [] => none
  | name :: arguments =>
    if name = "manifest" then readManifest arguments
    else if name = "declarations" then readDeclarations arguments
    else if name = "check-exports" then readCheckExports arguments
    else if name = "audit" then readAudit arguments
    else if name = "validate-log" then readValidateLog arguments
    else none

end Command

end LinkContract
