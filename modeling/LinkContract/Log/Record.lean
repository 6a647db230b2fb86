import LinkContract.Json.Decode
import LinkContract.Time.Instant

/-!
# Log records

A record is one line of a structured log: a JSON object on a single line, whose
members stand in the order of the fields here, where absent ones are left out.
-/
namespace LinkContract.Log

inductive Level where
  | trace
  | debug
  | info
  | warn
  | error
  | fatal
  deriving DecidableEq, Repr

inductive Outcome where
  | pass
  | fail
  | warn
  | skip
  | error
  deriving DecidableEq, Repr

def Level.choices : List (String × Level) :=
  [("trace", .trace), ("debug", .debug), ("info", .info), ("warn", .warn), ("error", .error),
    ("fatal", .fatal)]

def Outcome.choices : List (String × Outcome) :=
  [("pass", .pass), ("fail", .fail), ("warn", .warn), ("skip", .skip), ("error", .error)]

def Level.name : Level → String
  | .trace => "trace"
  | .debug => "debug"
  | .info => "info"
  | .warn => "warn"
  | .error => "error"
  | .fatal => "fatal"

def Outcome.name : Outcome → String
  | .pass => "pass"
  | .fail => "fail"
  | .warn => "warn"
  | .skip => "skip"
  | .error => "error"

structure Record where
  timestamp : String
  traceId : String
  level : Level
  event : String
  variant : Option String := none
  symbol : Option String := none
  category : Option String := none
  object : Option String := none
  outcome : Option Outcome := none
  durationMs : Option UInt64 := none
  artifactRefs : Option (List String) := none
  details : Option Json := none
  deriving Repr

namespace Record

/-- A record with the required fields, whose trace identifier is still to be filled in. -/
def unidentified (now : Time.Instant) (level : Level) (event : String) : Record :=
  { timestamp := now.stamp, traceId := "", level, event }

/-- A member for a field that may be absent. -/
def member {α : Type} (key : String) (encode : α → Json) : Option α → Json.Members
  | some value => [(key, encode value)]
  | none => []

def members (record : Record) : Json.Members :=
  [("timestamp", .string record.timestamp), ("trace_id", .string record.traceId),
    ("level", .string record.level.name), ("event", .string record.event)]
  ++ member "variant" Json.string record.variant
  ++ member "symbol" Json.string record.symbol
  ++ member "category" Json.string record.category
  ++ member "object" Json.string record.object
  ++ member "outcome" (fun outcome => .string outcome.name) record.outcome
  ++ member "duration_ms" (fun duration => .natural duration.toNat) record.durationMs
  ++ member "artifact_refs" Json.strings record.artifactRefs
  ++ member "details" id record.details

def toJson (record : Record) : Json := .object record.members

/-- The text of the record, without a line feed. -/
def line (record : Record) : String := record.toJson.compact

def decodeStrings : Json.Decoder (List String) := Json.decodeList Json.decodeString

def decodeLevel : Json.Decoder Level := Json.decodeChoice Level.choices

def decodeOutcome : Json.Decoder Outcome := Json.decodeChoice Outcome.choices

def schema : Json.Schema where
  name := "LogEntry"
  fields :=
    [.of "timestamp" Json.decodeString, .of "trace_id" Json.decodeString, .of "level" decodeLevel,
      .of "event" Json.decodeString,
      .of "variant" (Json.decodeOptional Json.decodeString),
      .of "symbol" (Json.decodeOptional Json.decodeString),
      .of "category" (Json.decodeOptional Json.decodeString),
      .of "object" (Json.decodeOptional Json.decodeString),
      .of "outcome" (Json.decodeOptional decodeOutcome),
      .of "duration_ms" (Json.decodeOptional Json.decodeWord64),
      .of "artifact_refs" (Json.decodeOptional decodeStrings),
      .of "details" (Json.decodeOptional Except.ok)]

def decode : Json.Decoder Record := fun value => do
  let members ← schema.members value
  let timestamp ← members.required "timestamp" Json.decodeString
  let traceId ← members.required "trace_id" Json.decodeString
  let level ← members.required "level" decodeLevel
  let event ← members.required "event" Json.decodeString
  let variant ← members.optional "variant" Json.decodeString
  let symbol ← members.optional "symbol" Json.decodeString
  let category ← members.optional "category" Json.decodeString
  let object ← members.optional "object" Json.decodeString
  let outcome ← members.optional "outcome" decodeOutcome
  let durationMs ← members.optional "duration_ms" Json.decodeWord64
  let artifactRefs ← members.optional "artifact_refs" decodeStrings
  let details ← members.optional "details" Except.ok
  .ok { timestamp, traceId, level, event, variant, symbol, category, object, outcome, durationMs,
        artifactRefs, details }

end Record

end LinkContract.Log
