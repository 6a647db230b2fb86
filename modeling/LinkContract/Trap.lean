import LinkContract.Allocation.Request
import LinkContract.EntryPoint
import LinkContract.Text.Basic

/-!
# Traps

A trap ends the process in place of a language feature that is not supported, or
when an allocation cannot be met. Each has a one-line diagnostic, which it may
write before it ends the process.

The mode of reporting is chosen by an environment variable, which is read once: the
first resolution claims the cache, reads the variable and fills the cache, and later
ones return what is in it. A trap itself looks at the cache only, and a cache that is
not filled counts as silent.
-/
namespace LinkContract

inductive Trap where
  | pureVirtualCall
  | exceptionAllocation
  | throwAttempt
  | dynamicCast
  | allocationFailure
  | invalidAlignment
  deriving DecidableEq, Repr

namespace Trap

/-- The entry point that raises the trap, if there is a single one. -/
def entryPoint? : Trap → Option EntryPoint
  | .pureVirtualCall => some (.trap .pureVirtual)
  | .exceptionAllocation => some (.trap .allocateException)
  | .throwAttempt => some (.trap .throwException)
  | .dynamicCast => some (.trap .dynamicCast)
  | .allocationFailure | .invalidAlignment => none

def message : Trap → String
  | .pureVirtualCall => "cxxrt: pure virtual function called\n"
  | .exceptionAllocation => "cxxrt: exception allocation is unsupported\n"
  | .throwAttempt => "cxxrt: throw is unsupported\n"
  | .dynamicCast => "cxxrt: dynamic_cast is unsupported\n"
  | .allocationFailure => "cxxrt: out of memory in operator new\n"
  | .invalidAlignment => "cxxrt: invalid alignment in operator new\n"

def isResourceExhaustion : Trap → Bool
  | .allocationFailure => true
  | _ => false

/-- The trap that a refused allocation becomes. -/
def ofRefusal : Allocation.Refusal → Trap
  | .invalidAlignment _ => .invalidAlignment
  | .sizeOverflow .. | .hostExhausted _ => .allocationFailure

/-- Nothing ever unwinds, so no exception is ever in flight. -/
def uncaughtExceptions : Nat := 0

end Trap

/-! ### Trap reports -/

inductive ReportMode where
  | silent
  | stderr
  deriving DecidableEq, Repr

namespace ReportMode

def reportingTexts : List String := ["stderr", "report", "verbose", "1", "on"]

/-- Blanks around the text and ASCII case do not count; a text without meaning is silent. -/
def parse (text : String) : ReportMode :=
  if reportingTexts.any fun known => known.toList == Text.lower (Text.trim text.toList) then .stderr
  else .silent

def writesDiagnostic : ReportMode → Bool
  | .silent => false
  | .stderr => true

/-- The mode that the value of the environment variable asks for; a value that is not text
counts as unset. -/
def ofSetting : Option String → ReportMode
  | none => .silent
  | some text => parse text

end ReportMode

/-- What the cache holds. It is `resolving` from when a caller claims it until that caller
fills it. -/
inductive ReportCache where
  | unresolved
  | resolving
  | resolved (mode : ReportMode)
  deriving DecidableEq, Repr

namespace ReportCache

/-- What the cache says without a resolution. -/
def mode : ReportCache → ReportMode
  | .resolved mode => mode
  | .unresolved | .resolving => .silent

/-- Claims an unresolved cache, which then has to be filled. -/
def claim? : ReportCache → Option ReportCache
  | .unresolved => some .resolving
  | _ => none

def fill (_ : ReportCache) (mode : ReportMode) : ReportCache := .resolved mode

/-- The mode that a resolution answers with the variable at its present value, and the
cache after it. -/
def resolve (cache : ReportCache) (setting : Option String) : ReportMode × ReportCache :=
  match cache with
  | .resolved mode => (mode, cache)
  | .resolving => (.silent, cache)
  | .unresolved =>
    match cache.claim? with
    | none => (cache.mode, cache) -- another caller was faster
    | some claimed =>
      let mode := .ofSetting setting
      (mode, claimed.fill mode)

end ReportCache

end LinkContract
