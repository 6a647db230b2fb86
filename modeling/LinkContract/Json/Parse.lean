import LinkContract.Json.Scan

/-!
# Reading JSON text

The grammar is that of RFC 8259 without extensions. The depth bounds how many
arrays and objects may stand inside each other, the outermost included. The
readers call each other at most once for each character, so the length of the text
bounds their number of steps.
-/
namespace LinkContract.Json

/-- Takes a given word off the front of a text. -/
def scanWord (word : List Char) (value : Json) (text : List Char) : Option (Json × List Char) :=
  if word.isPrefixOf text then some (value, text.drop word.length) else none

mutual

def readValue : Nat → Nat → List Char → Option (Json × List Char)
  | 0, _, _ => none
  | steps + 1, depth, text =>
    match skipSpace text with
    | '"' :: rest => (scanString rest).map fun (text, rest) => (.string (String.ofList text), rest)
    | '[' :: rest =>
      match depth with
      | 0 => none
      | depth + 1 => readArray steps depth (skipSpace rest)
    | '{' :: rest =>
      match depth with
      | 0 => none
      | depth + 1 => readObject steps depth (skipSpace rest)
    | 'n' :: rest => scanWord ['u', 'l', 'l'] .null rest
    | 't' :: rest => scanWord ['r', 'u', 'e'] (.bool true) rest
    | 'f' :: rest => scanWord ['a', 'l', 's', 'e'] (.bool false) rest
    | text =>
      (scanNumber text).bind fun (spelling, rest) => spelling.value?.map fun value => (value, rest)

/-- Reads what follows an opening bracket. -/
def readArray : Nat → Nat → List Char → Option (Json × List Char)
  | 0, _, _ => none
  | _ + 1, _, ']' :: rest => some (.array [], rest)
  | steps + 1, depth, text =>
    match readValue steps depth text with
    | none => none
    | some (first, rest) =>
      (readItems steps depth (skipSpace rest)).map fun (items, rest) =>
        (.array (first :: items), rest)

/-- Reads what follows an item of an array. -/
def readItems : Nat → Nat → List Char → Option (List Json × List Char)
  | 0, _, _ => none
  | _ + 1, _, ']' :: rest => some ([], rest)
  | steps + 1, depth, ',' :: rest =>
    match readValue steps depth rest with
    | none => none
    | some (item, rest) =>
      (readItems steps depth (skipSpace rest)).map fun (items, rest) => (item :: items, rest)
  | _ + 1, _, _ => none

/-- Reads what follows an opening brace. -/
def readObject : Nat → Nat → List Char → Option (Json × List Char)
  | 0, _, _ => none
  | _ + 1, _, '}' :: rest => some (.object [], rest)
  | steps + 1, depth, text =>
    match readMember steps depth text with
    | none => none
    | some (first, rest) =>
      (readMembers steps depth (skipSpace rest)).map fun (members, rest) =>
        (.object (Members.ofList (first :: members)), rest)

/-- Reads what follows a member of an object. -/
def readMembers : Nat → Nat → List Char → Option (List (String × Json) × List Char)
  | 0, _, _ => none
  | _ + 1, _, '}' :: rest => some ([], rest)
  | steps + 1, depth, ',' :: rest =>
    match readMember steps depth (skipSpace rest) with
    | none => none
    | some (member, rest) =>
      (readMembers steps depth (skipSpace rest)).map fun (members, rest) =>
        (member :: members, rest)
  | _ + 1, _, _ => none

/-- Reads a key, a colon and a value. -/
def readMember : Nat → Nat → List Char → Option ((String × Json) × List Char)
  | 0, _, _ => none
  | steps + 1, depth, '"' :: text =>
    match scanString text with
    | none => none
    | some (key, rest) =>
      match skipSpace rest with
      | ':' :: rest =>
        (readValue steps depth rest).map fun (value, rest) => ((String.ofList key, value), rest)
      | _ => none
  | _ + 1, _, _ => none

end

/-- Steps that suffice for a text: no more than three readers start at one character. -/
def stepsFor (text : List Char) : Nat := 3 * text.length + 1

/-- Reads a text that holds one value and white space around it. -/
def parse? (depth : Nat) (text : String) : Option Json :=
  match readValue (stepsFor text.toList) depth text.toList with
  | some (value, rest) => if (skipSpace rest).isEmpty then some value else none
  | none => none

/-- The depth that documents may have. -/
def documentDepth : Nat := 127

end LinkContract.Json
