import LinkContract.Log.Record

/-!
# Writing a log

A journal writes records as lines to a device that may refuse writes and flushes.
It numbers the records that come without a trace identifier; a number that has been
given out is used up even when the line is refused, and a refused line leaves
nothing behind.
-/
namespace LinkContract.Log

/-- Which of the writes and flushes a device carries out, each counted from the first. -/
structure Device where
  accepts : Nat → Bool
  flushes : Nat → Bool

def Device.sound : Device := ⟨fun _ => true, fun _ => true⟩

/-- Carries out a number of writes and then none, and every flush. -/
def Device.ofCapacity (capacity : Nat) : Device := ⟨(· < capacity), fun _ => true⟩

def Device.broken : Device := ⟨fun _ => false, fun _ => false⟩

/-- The device has refused. -/
inductive WriteError where
  | brokenPipe
  deriving DecidableEq, Repr

def WriteError.message : WriteError → String
  | .brokenPipe => "writer broken"

/-- A log that is being written. The count of numbers given out is exact; it is that of a word
of 64 bits as long as fewer than 2 to the 64th have been given out. -/
structure Journal where
  scope : String
  runId : String
  device : Device := .sound
  issued : Nat := 0
  writes : Nat := 0
  flushCount : Nat := 0
  text : String := ""

namespace Journal

/-- The trace identifier with a given number, which has at least three digits. -/
def traceId (journal : Journal) (number : Nat) : String :=
  journal.scope ++ "::" ++ journal.runId ++ "::" ++ String.ofList (Time.padded 3 number)

/-- Writes one line; only a line that is accepted reaches the text. -/
def writeLine (journal : Journal) (line : String) : Except WriteError Unit × Journal :=
  let after := { journal with writes := journal.writes + 1 }
  if journal.device.accepts journal.writes then
    (.ok (), { after with text := journal.text ++ line ++ "\n" })
  else (.error .brokenPipe, after)

/-- Fills in the next trace identifier if the record has none. -/
def identify (journal : Journal) (record : Record) : Record × Journal :=
  if record.traceId.isEmpty then
    let number := journal.issued + 1
    ({ record with traceId := journal.traceId number }, { journal with issued := number })
  else (record, journal)

def append (journal : Journal) (record : Record) : Except WriteError Unit × Journal :=
  let (record, journal) := journal.identify record
  journal.writeLine record.line

/-- Writes a record that has nothing but the required fields and returns it. -/
def note (journal : Journal) (now : Time.Instant) (level : Level) (event : String) :
    Except WriteError Record × Journal :=
  let (record, journal) := journal.identify (.unidentified now level event)
  let (written, journal) := journal.writeLine record.line
  (written.map fun _ => record, journal)

def flush (journal : Journal) : Except WriteError Unit × Journal :=
  let after := { journal with flushCount := journal.flushCount + 1 }
  if journal.device.flushes journal.flushCount then (.ok (), after) else (.error .brokenPipe, after)

/-- Writes records in their order and stops at the first refusal. -/
def appendAll (journal : Journal) : List Record → Except WriteError Unit × Journal
  | [] => (.ok (), journal)
  | record :: rest =>
    match journal.append record with
    | (.ok _, after) => after.appendAll rest
    | (.error error, after) => (.error error, after)

end Journal

end LinkContract.Log
