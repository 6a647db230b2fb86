/-!
# Allocation requests

What an allocation operator asks of the host. Sizes, alignments and addresses are
64-bit words. At least one byte is asked for, so that even an empty object has an
address of its own; an aligned request is rounded up to a multiple of its
alignment, which must be a power of two.
-/
namespace LinkContract.Allocation

abbrev Word := UInt64

/-- Why a request cannot be met. -/
inductive Refusal where
  | invalidAlignment (alignment : Word)
  | sizeOverflow (size alignment : Word)
  | hostExhausted (size : Word)
  deriving DecidableEq, Repr

def Refusal.message : Refusal → String
  | .invalidAlignment alignment =>
    "alignment " ++ toString alignment ++ " is not a non-zero power of two"
  | .sizeOverflow size alignment =>
    "size " ++ toString size ++ " overflows when rounded up to alignment " ++ toString alignment
  | .hostExhausted size => "host allocator returned no memory for " ++ toString size ++ " bytes"

structure Request where
  size : Word
  alignment : Option Word
  deriving DecidableEq, Repr

def isPowerOfTwo (word : Word) : Bool := word != 0 && word &&& (word - 1) == 0

/-- The least size that is asked of the host. -/
def atLeastOne (size : Word) : Word := if size = 0 then 1 else size

/-- Rounds up to a multiple of a power of two by masking, unless the sum that is
masked leaves the range of words. -/
def roundUp (size alignment : Word) : Option Word :=
  let mask := alignment - 1
  if size.toNat + mask.toNat < UInt64.size then some ((size + mask) &&& ~~~mask) else none

def isAlignedTo (address alignment : Word) : Bool :=
  alignment != 0 && address &&& (alignment - 1) == 0

/-- Releasing the null address does nothing. -/
def releaseIsNoop (address : Word) : Bool := address == 0

namespace Request

def plain (size : Word) : Request := ⟨atLeastOne size, none⟩

def aligned (size alignment : Word) : Except Refusal Request :=
  if isPowerOfTwo alignment then
    match roundUp (atLeastOne size) alignment with
    | some rounded => .ok ⟨rounded, some alignment⟩
    | none => .error (.sizeOverflow size alignment)
  else .error (.invalidAlignment alignment)

def isAligned (request : Request) : Bool := request.alignment.isSome

/-- Reads the host's answer: the null address says that it has no memory. -/
def checkReturned (request : Request) (address : Word) : Except Refusal Word :=
  if address = 0 then .error (.hostExhausted request.size) else .ok address

end Request

/-- The request for `size` bytes, aligned when an alignment is given. -/
def requestFor (size : Word) : Option Word → Except Refusal Request
  | none => .ok (.plain size)
  | some alignment => Request.aligned size alignment

end LinkContract.Allocation
