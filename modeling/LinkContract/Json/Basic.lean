import LinkContract.Decimal

/-!
# JSON values

Numbers without fraction and exponent that fit a signed or an unsigned 64-bit
integer are integers, all others doubles. The members of an object form a list; an
object that was read from a text has them in the order of their keys, each key
once.
-/
namespace LinkContract

inductive Json where
  | null
  | bool (value : Bool)
  | integer (value : Int)
  | double (value : Binary64)
  | string (value : String)
  | array (items : List Json)
  | object (members : List (String × Json))
  deriving Repr, Inhabited

namespace Json

def natural (number : Nat) : Json := .integer number

/-- How many things there are, as a word of 64 bits. -/
def count (number : Nat) : Json := .natural (UInt64.ofNat number).toNat

def strings (texts : List String) : Json := .array (texts.map .string)

/-- The least integer with 64 bits and a sign. -/
def leastInteger : Int := -9223372036854775808

/-- The integers that are not read as doubles. -/
def isInteger (number : Int) : Bool := leastInteger ≤ number && number < UInt64.size

abbrev Members := List (String × Json)

namespace Members

def get? (members : Members) (key : String) : Option Json := members.lookup key

def has (members : Members) (key : String) : Bool := (members.get? key).isSome

/-- Puts a member in its place; a member that has the key already gives way. -/
def insert (key : String) (value : Json) : Members → Members
  | [] => [(key, value)]
  | (other, kept) :: rest =>
    if key < other then (key, value) :: (other, kept) :: rest
    else if key = other then (key, value) :: rest
    else (other, kept) :: insert key value rest

/-- The members of an object in the order of their keys, each with its last value. -/
def ofList (members : List (String × Json)) : Members :=
  members.foldl (fun placed member => placed.insert member.1 member.2) []

end Members

end Json

end LinkContract
