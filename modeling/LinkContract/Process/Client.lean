import LinkContract.Exports
import LinkContract.Process.Operators

/-!
# A client of the support library

A client calls the entry points of one build by name and keeps the blocks it
receives under names of its own. It fills each block and, when it gives the block
back, says whether the bytes are still there: a block stays as it was filled while
no other block of the client overlaps it.
-/
namespace LinkContract

open Allocation (Word Refusal)

structure Block where
  name : String
  address : Word
  size : Word
  deriving DecidableEq, Repr

def Block.overlaps (first second : Block) : Bool :=
  first.address.toNat < second.address.toNat + second.size.toNat
    && second.address.toNat < first.address.toNat + first.size.toNat

structure Client where
  features : Features
  process : Process := {}
  blocks : List Block := []
  deriving DecidableEq, Repr

/-- What a client may do. Its own name for a block goes with every call that hands
one over; without a name the call is made with null. -/
inductive ClientCall where
  | enter (entry : EntryPoint) (arguments : Arguments) (block : Option String)
  | tryAllocate (size : Word) (alignment : Option Word) (block : String)
  | release (block : Option String)
  | initReport
  | resolveReport
  | cachedReport
  | set (setting : Option String)
  deriving DecidableEq, Repr

inductive Observation where
  | acquired (nonnull distinct : Bool) (aligned : Option Bool)
  | gaveBack (name : Option String) (intact : Bool)
  | refused (refusal : Refusal)
  | counted (number : Nat)
  | reported (mode : ReportMode)
  | setting (present : Bool)
  | notExported
  deriving DecidableEq, Repr

namespace Client

def hold (client : Client) (name : String) (address size : Word) (alignment : Option Word) :
    Observation × Client :=
  let block : Block := ⟨name, address, size⟩
  (.acquired (address != 0) (!client.blocks.any block.overlaps)
      (alignment.map (Allocation.isAlignedTo address)),
    { client with blocks := block :: client.blocks })

/-- The address kept under a name, and the client without it; null has no name. -/
def take (client : Client) : Option String → Word × Bool × Client
  | none => (0, true, client)
  | some name =>
    match client.blocks.find? (fun block => block.name == name) with
    | none => (0, true, client)
    | some block =>
      let others := client.blocks.erase block
      (block.address, !others.any block.overlaps, { client with blocks := others })

/-- Reads what an entry point answered. -/
def receive (client : Client) (entry : EntryPoint) (arguments : Arguments) (block : Option String)
    (intact : Bool) : Answer → Observation × Client
  | .address address =>
    client.hold (block.getD "") address arguments.size
      (if entry.takesAlignment then some arguments.alignment else none)
  | .count number => (.counted number, client)
  | .nothing => (.gaveBack block intact, client)

/-- One call; nothing comes back from a call that traps. -/
def step (host : Host) (client : Client) : ClientCall → Option Observation × Client
  | .enter entry arguments block =>
    if !client.features.exports entry then (some .notExported, client)
    else
      let (address, intact, lighter) :=
        if entry.isDelete then client.take block else (arguments.address, true, client)
      match client.process.call host entry { arguments with address } with
      | .trapped _ after => (none, { lighter with process := after })
      | .returned answer after =>
        let (observation, later) :=
          { lighter with process := after }.receive entry arguments block intact answer
        (some observation, later)
  | .tryAllocate size alignment block =>
    match client.process.tryAllocate host size alignment with
    | (.ok address, after) =>
      let (observation, later) := { client with process := after }.hold block address size alignment
      (some observation, later)
    | (.error refusal, after) => (some (.refused refusal), { client with process := after })
  | .release block =>
    let (address, intact, lighter) := client.take block
    (some (.gaveBack block intact), { lighter with process := client.process.release address })
  | .initReport =>
    let (mode, after) := client.process.resolveReport
    (some (.counted mode.writesDiagnostic.toNat), { client with process := after })
  | .resolveReport =>
    let (mode, after) := client.process.resolveReport
    (some (.reported mode), { client with process := after })
  | .cachedReport => (some (.reported client.process.cache.mode), client)
  | .set setting =>
    (some (.setting setting.isSome), { client with process := { client.process with setting } })

/-- What a client sees of its calls, whether one of them trapped, and how it ends. -/
structure Session where
  observations : List Observation
  trapped : Bool
  final : Client
  deriving DecidableEq, Repr

def session (host : Host) (client : Client) : List ClientCall → Session
  | [] => ⟨[], false, client⟩
  | call :: rest =>
    match client.step host call with
    | (some observation, after) =>
      let later := session host after rest
      { later with observations := observation :: later.observations }
    | (none, after) => ⟨[], true, after⟩

end Client

end LinkContract
