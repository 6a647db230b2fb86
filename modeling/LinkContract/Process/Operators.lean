import LinkContract.Trap

/-!
# Running the entry points

All memory comes from the host. A host is known only by its answers: for each
request, counted from the start of the process, an address or null. What the
process asks of it is recorded call by call.

A process calls entry points one after the other. `new` asks the host and traps
when the request is refused; `delete` hands every address but null to the host
and looks at neither size nor alignment; the other entry points trap, except the
counter of uncaught exceptions. Once a trap has been raised nothing else runs.
-/
namespace LinkContract

open Allocation (Word Request Refusal)

/-! ### The host allocator -/

structure Host where
  answer : Nat → Request → Word

inductive HostCall where
  | malloc (size : Word)
  | alignedAlloc (alignment size : Word)
  | free (address : Word)
  deriving DecidableEq, Repr

def HostCall.ofRequest (request : Request) : HostCall :=
  match request.alignment with
  | none => .malloc request.size
  | some alignment => .alignedAlloc alignment request.size

/-- A host that gives every request a slot of its own, which is 4 GiB long and starts
at a multiple of its length; larger requests fail. -/
def Host.slots : Host where
  answer index request :=
    if request.size.toNat < UInt32.size then UInt64.ofNat ((index + 1) * UInt32.size) else 0

/-! ### Processes -/

structure Process where
  setting : Option String := none
  cache : ReportCache := .unresolved
  requests : Nat := 0
  hostCalls : List HostCall := []
  diagnostics : String := ""
  deriving DecidableEq, Repr

/-- What an entry point is called with; each looks only at what its form takes. -/
structure Arguments where
  size : Word := 0
  alignment : Word := 0
  address : Word := 0
  deriving DecidableEq, Repr

inductive Answer where
  | address (address : Word)
  | count (number : Nat)
  | nothing
  deriving DecidableEq, Repr

inductive Completion where
  | returned (answer : Answer) (process : Process)
  | trapped (trap : Trap) (process : Process)
  deriving DecidableEq, Repr

namespace Process

def record (process : Process) (call : HostCall) : Process :=
  { process with hostCalls := process.hostCalls ++ [call] }

/-- Hands a request to the host. -/
def ask (host : Host) (process : Process) (request : Request) : Except Refusal Word × Process :=
  let address := host.answer process.requests request
  (request.checkReturned address,
    { process.record (.ofRequest request) with requests := process.requests + 1 })

/-- Asks for memory and reports a refusal; the host sees valid requests only. -/
def tryAllocate (host : Host) (process : Process) (size : Word) (alignment : Option Word) :
    Except Refusal Word × Process :=
  match Allocation.requestFor size alignment with
  | .ok request => process.ask host request
  | .error refusal => (.error refusal, process)

def release (process : Process) (address : Word) : Process :=
  if Allocation.releaseIsNoop address then process else process.record (.free address)

/-- Ends the process; the cached mode decides whether the diagnostic is written. -/
def raise (process : Process) (trap : Trap) : Completion :=
  if process.cache.mode.writesDiagnostic then
    .trapped trap { process with diagnostics := process.diagnostics ++ trap.message }
  else .trapped trap process

/-- A trap always ends the process, and it writes its line just when the cache says so. -/
theorem raise_eq (process : Process) (trap : Trap) :
    process.raise trap = .trapped trap { process with
      diagnostics := process.diagnostics
        ++ if process.cache.mode = .stderr then trap.message else "" } := by
  rw [raise]
  cases process.cache.mode with
  | silent => simp [ReportMode.writesDiagnostic]
  | stderr => rfl

/-- Resolves the report mode and answers it. -/
def resolveReport (process : Process) : ReportMode × Process :=
  let (mode, cache) := process.cache.resolve process.setting
  (mode, { process with cache })

def callTrapPoint (process : Process) : TrapPoint → Completion
  | .pureVirtual => process.raise .pureVirtualCall
  | .allocateException => process.raise .exceptionAllocation
  | .throwException => process.raise .throwAttempt
  | .uncaughtExceptions => .returned (.count Trap.uncaughtExceptions) process
  | .dynamicCast => process.raise .dynamicCast

def call (host : Host) (process : Process) (entry : EntryPoint) (arguments : Arguments) :
    Completion :=
  match entry with
  | .trap point => process.callTrapPoint point
  | .new _ aligned =>
    let alignment := if aligned then some arguments.alignment else none
    match process.tryAllocate host arguments.size alignment with
    | (.ok address, after) => .returned (.address address) after
    | (.error refusal, after) => after.raise (.ofRefusal refusal)
  | .delete .. => .returned .nothing (process.release arguments.address)

/-- How a sequence of calls ends: with the answers so far, and the trap if one was raised. -/
structure Run where
  answers : List Answer
  trap : Option Trap
  final : Process
  deriving DecidableEq, Repr

def run (host : Host) (process : Process) : List (EntryPoint × Arguments) → Run
  | [] => ⟨[], none, process⟩
  | (entry, arguments) :: rest =>
    match process.call host entry arguments with
    | .returned answer after =>
      let later := run host after rest
      { later with answers := answer :: later.answers }
    | .trapped trap after => ⟨[], some trap, after⟩

end Process

end LinkContract
