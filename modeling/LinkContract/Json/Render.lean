import LinkContract.Decimal
import LinkContract.Json.Basic

/-!
# JSON text

A value is written on one line, or with a line for each item and member, indented
by two blanks for each level. Strings escape the quote, the backslash and the
control characters below U+0020; every other character stands for itself.
-/
namespace LinkContract.Json

/-- What stands between the parts of an array or object. -/
structure Layout where
  lineBreak : Nat → List Char
  afterColon : List Char

def Layout.compact : Layout := ⟨fun _ => [], []⟩

def Layout.indented : Layout := ⟨fun depth => '\n' :: List.replicate (2 * depth) ' ', [' ']⟩

def hexDigit (number : Nat) : Char := Nat.digitChar number

def escape (c : Char) : List Char :=
  if c = '"' then ['\\', '"']
  else if c = '\\' then ['\\', '\\']
  else if c = '\x08' then ['\\', 'b']
  else if c = '\x0c' then ['\\', 'f']
  else if c = '\n' then ['\\', 'n']
  else if c = '\r' then ['\\', 'r']
  else if c = '\t' then ['\\', 't']
  else if c.toNat < 0x20 then
    ['\\', 'u', '0', '0', hexDigit (c.toNat / 16), hexDigit (c.toNat % 16)]
  else [c]

def quoted (text : List Char) : List Char := '"' :: text.flatMap escape ++ ['"']

def integerText (number : Int) : List Char :=
  if number < 0 then '-' :: Decimal.digits number.natAbs else Decimal.digits number.natAbs

/-- Doubles are written positionally from 0.00001 up to below 10^16. -/
def doubleStyle : Decimal.TextStyle := ⟨-5, 15⟩

mutual

def render (layout : Layout) (depth : Nat) : Json → List Char
  | .null => ['n', 'u', 'l', 'l']
  | .bool true => ['t', 'r', 'u', 'e']
  | .bool false => ['f', 'a', 'l', 's', 'e']
  | .integer number => integerText number
  | .double number => doubleStyle.doubleText number
  | .string text => quoted text.toList
  | .array [] => ['[', ']']
  | .array (first :: rest) =>
    '[' :: layout.lineBreak (depth + 1) ++ render layout (depth + 1) first
      ++ renderItems layout depth rest
  | .object [] => ['{', '}']
  | .object ((key, first) :: rest) =>
    '{' :: layout.lineBreak (depth + 1) ++ quoted key.toList ++ ':' :: layout.afterColon
      ++ render layout (depth + 1) first ++ renderMembers layout depth rest

/-- The items of an array after the first, and the closing bracket. -/
def renderItems (layout : Layout) (depth : Nat) : List Json → List Char
  | [] => layout.lineBreak depth ++ [']']
  | item :: rest =>
    ',' :: layout.lineBreak (depth + 1) ++ render layout (depth + 1) item
      ++ renderItems layout depth rest

/-- The members of an object after the first, and the closing brace. -/
def renderMembers (layout : Layout) (depth : Nat) : List (String × Json) → List Char
  | [] => layout.lineBreak depth ++ ['}']
  | (key, value) :: rest =>
    ',' :: layout.lineBreak (depth + 1) ++ quoted key.toList ++ ':' :: layout.afterColon
      ++ render layout (depth + 1) value ++ renderMembers layout depth rest

end

def compact (value : Json) : String := String.ofList (render .compact 0 value)

def pretty (value : Json) : String := String.ofList (render .indented 0 value)

end LinkContract.Json
