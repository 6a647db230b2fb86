import LinkContract.Audit.Run
import LinkContract.Command.Reading
import LinkContract.Command.Terminal
import LinkContract.Exports
import LinkContract.Log.Validation
import LinkContract.Manifest
import LinkContract.Text.Quoted
import LinkContract.Variant.Requirement

/-!
# Running commands

A command delivers its document first and gives its verdict after that, so a
document is there even when the command fails. Hints and warnings go to the
standard error, and a failure is the last line there.
-/
namespace LinkContract.Command

/-- Why a command fails. -/
inductive Failure where
  | verdict (text : String)
  | unknownFeature (error : Features.UnknownFeature)
  | unaudited (failure : Audit.Failure)
  | file (fault : Files.Fault)
  deriving DecidableEq, Repr

def auditDetails : Audit.Failure → String
  | .noListings side => "NoListings(" ++ Text.quote side.name ++ ")"
  | .unreadable path fault =>
    "Io \x7b path: " ++ Text.quote path ++ ", source: " ++ fault.details ++ " \x7d"
  | .unlogged error =>
    "Log(Custom \x7b kind: BrokenPipe, error: " ++ Text.quote error.message ++ " \x7d)"

def Failure.details : Failure → String
  | .verdict text => Text.quote text
  | .unknownFeature error => "UnknownFeature(" ++ Text.quote error.name ++ ")"
  | .unaudited failure => auditDetails failure
  | .file fault => fault.details

def shown (switch : Bool) : String := if switch then "true" else "false"

def featuresText (features : Features) : String :=
  "ExportFeatures \x7b rtti: " ++ shown features.rtti ++ ", extended_operators: "
    ++ shown features.extendedOperators ++ ", sized_deallocation: "
    ++ shown features.sizedDeallocation ++ " \x7d"

def exportsVerdict (report : ExportReport) (variant : Variant) : String :=
  variant.title ++ ": " ++ toString report.missing.length ++ " missing required, "
    ++ toString report.stray.length ++ " stray export(s)"

def auditVerdict (findings : Audit.Findings) : String :=
  "link audit failed: " ++ toString findings.unresolved.length ++ " unresolved, "
    ++ toString findings.clashes.length ++ " duplicate, "
    ++ toString findings.unsupported.length ++ " unsupported, "
    ++ toString findings.missing.length ++ " missing"

def logVerdict (verdict : Log.Verdict) : String :=
  toString verdict.defects.length ++ " invalid field(s) across " ++ toString verdict.lines
    ++ " line(s)"

def manifestRemark (variant : Variant) (manifest : Manifest) : String :=
  variant.title ++ ": " ++ toString (manifest.namesWith .required).length
    ++ " required symbol(s), digest " ++ manifest.requiredDigest

/-- An index of a manifest alone; its run is named after the digest. -/
def manifestIndex (now : Time.Instant) (manifest : Manifest) (label : String) : ArtifactIndex :=
  let runId := String.ofList (manifest.requiredDigest.toList.take 12)
  (ArtifactIndex.empty runId now).add label "symbol_manifest" manifest.text.toUTF8.toList

/-- The record that says how the validation of a log ended. -/
def validationRecord (now : Time.Instant) (path : String) (verdict : Log.Verdict) : Log.Record :=
  { Log.Record.unidentified now .info "log_validated" with
    traceId := "cxxrt_harness::validate::001"
    outcome := some (if verdict.isClean then .pass else .fail)
    artifactRefs := some [path]
    details := some <|
      .object [("errors", .count verdict.defects.length), ("lines", .count verdict.lines)] }

section Running

variable {m : Type → Type} [Monad m] (terminal : Terminal m)

/-- Does something that a fault may keep from succeeding. -/
def attempt {α : Type} (action : m (Except Files.Fault α)) : ExceptT Failure m α := do
  match ← action with
  | .ok value => return value
  | .error fault => throw (.file fault)

/-- Writes a document to a path, whose directory is made if need be, or prints it. -/
def deliver (path : Option String) (document : String) : ExceptT Failure m Unit := do
  match path with
  | none => terminal.print document
  | some path =>
    if let some directory := Path.parent? path then attempt (terminal.makeDirectories directory)
    attempt (terminal.writeText path document)

def runManifest (variant : Variant) (output index : Option String) : ExceptT Failure m Unit := do
  let manifest := Manifest.ofVariant variant
  deliver terminal output manifest.text
  if let some indexPath := index then
    let now ← terminal.now
    deliver terminal indexPath (manifestIndex now manifest (output.getD "<stdout>")).text
  terminal.warn (manifestRemark variant manifest)

def runCheckExports (variant : Variant) (features output : Option String) :
    ExceptT Failure m Unit := do
  let planned ←
    match (features.map Features.parse).getD (.ok .usual) with
    | .ok planned => pure planned
    | .error error => throw (.unknownFeature error)
  let report := ExportReport.check planned.exportSet variant
  deliver terminal output report.text
  if !report.isOk then
    for fitting in variant.fittingFeatures do
      terminal.warn <|
        "hint: " ++ variant.title ++ " fits cxxrt-abi built with " ++ featuresText fitting
    throw (.verdict (exportsVerdict report variant))

/-- Reads files ahead of time. -/
def readAhead (paths : List String) : m Audit.Reader := do
  let found ← paths.mapM fun path => do return (path, ← terminal.readText path)
  return fun path => (found.lookup path).getD (.error .missing)

/-- Begins a log, which empties its file. -/
def openLog (path : Option String) (runId : String) :
    ExceptT Failure m (Option Log.Journal) := do
  match path with
  | none => return none
  | some path =>
    attempt (terminal.writeText path "")
    return some { scope := "cxxrt_audit", runId }

def closeLog (path : Option String) (journal : Option Log.Journal) : ExceptT Failure m Unit := do
  match path, journal with
  | some path, some journal => attempt (terminal.writeText path journal.text)
  | _, _ => return ()

/-- Reads the clock ahead of time, once for each of so many records; an audit reads it no more
often than that. -/
def clockAhead (count : Nat) : m (Nat → Time.Instant) := do
  let readings ← (List.range count).mapM fun _ => terminal.now
  return fun reading => readings.getD reading .epoch

def runAudit (variant : Variant) (application library : List String) (log : Option String)
    (runId : String) (output : Option String) : ExceptT Failure m Unit := do
  let journal ← openLog terminal log runId
  let started ← terminal.ticks
  let read ← (readAhead terminal (application ++ library) : m Audit.Reader)
  let count := if log.isSome then Audit.recordCount read variant application library else 0
  let clock ← (clockAhead terminal count : m (Nat → Time.Instant))
  let ended ← terminal.ticks
  let occasion : Audit.Occasion := ⟨clock, ended - started⟩
  let (audited, after) := Audit.run read variant application library occasion journal
  closeLog terminal log after
  match audited with
  | .error failure => throw (.unaudited failure)
  | .ok summary =>
    deliver terminal output summary.text
    for name in summary.findings.stray do
      terminal.warn ("warning: shim defines " ++ name ++ ", which " ++ variant.title
        ++ " never references")
    if !summary.clean then throw (.verdict (auditVerdict summary.findings))

def runValidateLog (path : String) : ExceptT Failure m Unit := do
  let verdict := Log.validateText (← attempt (terminal.readText path))
  for defect in verdict.defects do
    terminal.warn (path ++ ": " ++ defect.text)
  terminal.print (validationRecord (← terminal.now) path verdict).line
  if !verdict.isClean then throw (.verdict (logVerdict verdict))

def run : Command → ExceptT Failure m Unit
  | .manifest variant output index => runManifest terminal variant output index
  | .declarations variant output =>
    deliver terminal output (String.ofList (Text.trimEnd variant.header.toList))
  | .checkExports variant features output => runCheckExports terminal variant features output
  | .audit variant application library log runId output =>
    runAudit terminal variant application library log runId output
  | .validateLog log => runValidateLog terminal log

/-- The statuses with which the program ends. -/
def succeeded : UInt32 := 0

def failed : UInt32 := 1

def misused : UInt32 := 2

def usage : String :=
  "usage: cxxrt-harness manifest|declarations|check-exports|audit|validate-log [OPTIONS]"

/-- Runs a command line and returns the status with which the program ends. -/
def runArguments (command : Option Command) : m UInt32 := do
  match command with
  | none =>
    terminal.warn usage
    return misused
  | some command =>
    match ← (run terminal command).run with
    | .ok _ => return succeeded
    | .error failure =>
      terminal.warn ("Error: " ++ failure.details)
      return failed

end Running

end LinkContract.Command
