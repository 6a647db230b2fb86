import LinkContract.Json.Render
import LinkContract.Text.Quoted

/-!
# Decoding JSON values

A decoder turns a value into data or says why it does not. A record is an object
whose members are visited in their order, where unknown ones are passed over and
the first unfit one refuses the record; then the fields that no member gave are
missing. An array of all fields in the order of their declaration is a record, too.
-/
namespace LinkContract.Json

/-- What a decoder asks for. -/
inductive Expectation where
  | string
  | boolean
  | word32
  | word64
  | sequence
  | stringOrMap
  | mapWithSingleKey
  | unit
  | record (name : String)
  | recordOfLength (name : String) (fields : Nat)
  | fewerElements
  deriving DecidableEq, Repr

def Expectation.text : Expectation → String
  | .string => "a string"
  | .boolean => "a boolean"
  | .word32 => "u32"
  | .word64 => "u64"
  | .sequence => "a sequence"
  | .stringOrMap => "string or map"
  | .mapWithSingleKey => "map with a single key"
  | .unit => "unit"
  | .record name => "struct " ++ name
  | .recordOfLength name fields => "struct " ++ name ++ " with " ++ toString fields ++ " elements"
  | .fewerElements => "fewer elements in array"

inductive DecodeError where
  | missingField (name : String)
  | invalidType (found : Json) (expected : Expectation)
  | invalidValue (found : Json) (expected : Expectation)
  | invalidLength (length : Nat) (expected : Expectation)
  | unknownChoice (found : String) (known : List String)
  deriving Repr

/-- How an error names the value that it found. -/
def described : Json → String
  | .null => "null"
  | .bool value => "boolean \x60" ++ (if value then "true" else "false") ++ "\x60"
  | .integer number => "integer \x60" ++ String.ofList (integerText number) ++ "\x60"
  | .double number =>
    "floating point \x60" ++ String.ofList (doubleStyle.doubleText number) ++ "\x60"
  | .string text => "string " ++ Text.quote text
  | .array _ => "sequence"
  | .object _ => "map"

def backquoted (name : String) : String := "\x60" ++ name ++ "\x60"

def DecodeError.message : DecodeError → String
  | .missingField name => "missing field " ++ backquoted name
  | .invalidType found expected =>
    "invalid type: " ++ described found ++ ", expected " ++ expected.text
  | .invalidValue found expected =>
    "invalid value: " ++ described found ++ ", expected " ++ expected.text
  | .invalidLength length expected =>
    "invalid length " ++ toString length ++ ", expected " ++ expected.text
  | .unknownChoice found known =>
    "unknown variant " ++ backquoted found ++ ", expected one of "
      ++ ", ".intercalate (known.map backquoted)

abbrev Decoder (α : Type) := Json → Except DecodeError α

def decodeString : Decoder String
  | .string text => .ok text
  | other => .error (.invalidType other .string)

def decodeBool : Decoder Bool
  | .bool value => .ok value
  | other => .error (.invalidType other .boolean)

def decodeNatural (limit : Nat) (expected : Expectation) : Decoder Nat
  | .integer number =>
    if 0 ≤ number ∧ number < limit then .ok number.toNat
    else .error (.invalidValue (.integer number) expected)
  | other => .error (.invalidType other expected)

def decodeWord32 : Decoder UInt32 := fun value =>
  (decodeNatural UInt32.size .word32 value).map UInt32.ofNat

def decodeWord64 : Decoder UInt64 := fun value =>
  (decodeNatural UInt64.size .word64 value).map UInt64.ofNat

def decodeList {α : Type} (decode : Decoder α) : Decoder (List α)
  | .array items => items.mapM decode
  | other => .error (.invalidType other .sequence)

/-- A null stands for nothing. -/
def decodeOptional {α : Type} (decode : Decoder α) : Decoder (Option α)
  | .null => .ok none
  | value => (decode value).map some

def choose {α : Type} (choices : List (String × α)) (name : String) : Except DecodeError α :=
  match choices.lookup name with
  | some choice => .ok choice
  | none => .error (.unknownChoice name (choices.map (·.1)))

/-- One of several names: a string, or an object with the name as its only key and
null as its value. -/
def decodeChoice {α : Type} (choices : List (String × α)) : Decoder α
  | .string name => choose choices name
  | .object [(name, value)] => do
    let choice ← choose choices name
    match value with
    | .null => .ok choice
    | other => .error (.invalidType other .unit)
  | .object members => .error (.invalidValue (.object members) .mapWithSingleKey)
  | other => .error (.invalidType other .stringOrMap)

/-- A field of a record: its key and what its value has to pass. -/
structure Field where
  key : String
  check : Decoder Unit

def Field.of {α : Type} (key : String) (decode : Decoder α) : Field :=
  ⟨key, fun value => (decode value).map fun _ => ()⟩

/-- A record by its name and its fields in the order of declaration. -/
structure Schema where
  name : String
  fields : List Field

namespace Schema

def checkMember (schema : Schema) (key : String) (value : Json) : Except DecodeError Unit :=
  match schema.fields.find? (fun field => field.key == key) with
  | some field => field.check value
  | none => .ok ()

def checkMembers (schema : Schema) (members : Members) : Except DecodeError Unit :=
  members.forM fun member => schema.checkMember member.1 member.2

/-- The members of a record, each of which fits its field. -/
def members (schema : Schema) : Decoder Members
  | .object members => do
    schema.checkMembers members
    .ok members
  | .array items => do
    let members := (schema.fields.map (·.key)).zip items
    let size := schema.fields.length
    schema.checkMembers members
    if items.length < size then
      .error (.invalidLength items.length (.recordOfLength schema.name size))
    else if size < items.length then .error (.invalidLength items.length .fewerElements)
    else .ok members
  | other => .error (.invalidType other (.record schema.name))

end Schema

namespace Members

def required {α : Type} (members : Members) (key : String) (decode : Decoder α) :
    Except DecodeError α :=
  match members.get? key with
  | some value => decode value
  | none => .error (.missingField key)

def optional {α : Type} (members : Members) (key : String) (decode : Decoder α) :
    Except DecodeError (Option α) :=
  match members.get? key with
  | some value => decodeOptional decode value
  | none => .ok none

end Members

end LinkContract.Json
