import LinkContract.Audit.Findings
import LinkContract.Files
import LinkContract.Listing
import LinkContract.Log.Journal
import LinkContract.Path

/-!
# Running a link audit

An audit takes listings by their paths: those of the application and those of the
library, at least one of each. All of them are read before anything is logged. The
log then has a record for every finding, in the order of the summary but with the
stray names last, and a final record with the counts.
-/
namespace LinkContract.Audit

inductive Side where
  | application
  | library
  deriving DecidableEq, Repr

def Side.name : Side → String
  | .application => "the application"
  | .library => "the shim"

/-- Why an audit has no summary. -/
inductive Failure where
  | noListings (side : Side)
  | unreadable (path : String) (fault : Files.Fault)
  | unlogged (error : Log.WriteError)
  deriving DecidableEq, Repr

def Failure.message : Failure → String
  | .noListings side => "no symbol listings given for " ++ side.name
  | .unreadable path fault => path ++ ": " ++ fault.message
  | .unlogged error => "io: " ++ error.message

abbrev Reader := String → Except Files.Fault String

/-- Reads listings in their order, each with the label for its occurrences. -/
def readAll (read : Reader) : List (String × String) → Except Failure (List (List Occurrence))
  | [] => .ok []
  | (path, label) :: rest =>
    match read path with
    | .error fault => .error (.unreadable path fault)
    | .ok text => (readAll read rest).map (Listing.parse label text :: ·)

/-- The occurrences in each of several listings. -/
def loadEach (read : Reader) (paths : List String) : Except Failure (List (List Occurrence)) :=
  readAll read (paths.zip (Path.labels paths))

def load (read : Reader) (paths : List String) : Except Failure (List Occurrence) :=
  (loadEach read paths).map List.flatten

/-! ### The log of an audit -/

/-- When an audit happens and how long it takes. The clock is given by what it shows at each
reading, counted from the first. -/
structure Occasion where
  clock : Nat → Time.Instant
  durationMs : UInt64

/-- No time passes on the clock. -/
def Occasion.still (now : Time.Instant) (durationMs : UInt64) : Occasion where
  clock _ := now
  durationMs := durationMs

/-- A record that lacks nothing but the instant of its stamp. -/
abbrev Draft := Time.Instant → Log.Record

/-- The records of drafts, for each of which the clock is read once. -/
def stamped (clock : Nat → Time.Instant) (drafts : List Draft) : List Log.Record :=
  drafts.zipIdx.map fun draft => draft.1 (clock draft.2)

/-- The record of one finding. It stands under the first of the objects involved;
all of them are listed when there are several. -/
def findingRecord (variant : Variant) (level : Log.Level) (event name : String)
    (objects : List String) (outcome : Log.Outcome) (now : Time.Instant) : Log.Record :=
  { Log.Record.unidentified now level event with
    variant := some variant.title
    symbol := some name
    category := (EntryPoint.ofLinkName? variant.size name).map (·.category.name)
    object := objects.head?
    outcome := some outcome
    details := if 1 < objects.length then some (.object [("objects", Json.strings objects)])
      else none }

def referencing (application : List Occurrence) (name : String) : List String :=
  objectsListing application name (· = .undefined)

def defining (library : List Occurrence) (name : String) : List String :=
  objectsListing library name Linkage.isDefinition

def findingDrafts (variant : Variant) (application library : List Occurrence)
    (findings : Findings) : List Draft :=
  let failure (event name : String) (objects : List String) : Draft :=
    findingRecord variant .error event name objects .fail
  findings.unresolved.map (fun name =>
      failure "unresolved_symbol" name (referencing application name))
    ++ findings.clashes.map (fun clash => failure "duplicate_symbol" clash.name clash.objects)
    ++ findings.unsupported.map (fun name =>
      failure "unsupported_runtime_symbol" name (referencing application name))
    ++ findings.missing.map (fun name => failure "missing_required_symbol" name [])
    ++ findings.stray.map (fun name =>
      findingRecord variant .warn "stray_symbol" name (defining library name) .warn)

/-- How many findings of each kind there are, by the order of their keys. -/
def countMembers (findings : Findings) : Json.Members :=
  [("duplicates", .count findings.clashes.length),
    ("missing_required", .count findings.missing.length),
    ("stray", .count findings.stray.length),
    ("unresolved", .count findings.unresolved.length),
    ("unsupported", .count findings.unsupported.length)]

def finalRecord (variant : Variant) (durationMs : UInt64) (paths : List String)
    (findings : Findings) (now : Time.Instant) : Log.Record :=
  let level : Log.Level := if findings.isClean then .info else .error
  { Log.Record.unidentified now level "audit_complete" with
    variant := some variant.title
    outcome := some (if findings.isClean then .pass else .fail)
    durationMs := some durationMs
    artifactRefs := some paths
    details := some (.object (countMembers findings)) }

/-- All records of an audit, before they are given trace identifiers. -/
def records (occasion : Occasion) (variant : Variant) (paths : List String)
    (application library : List Occurrence) (findings : Findings) : List Log.Record :=
  stamped occasion.clock <|
    findingDrafts variant application library findings
      ++ [finalRecord variant occasion.durationMs paths findings]

/-! ### The audit itself -/

/-- Writes records and then flushes. -/
def writeLog (journal : Log.Journal) (records : List Log.Record) :
    Except Log.WriteError Unit × Log.Journal :=
  match journal.appendAll records with
  | (.ok _, after) => after.flush
  | (.error error, after) => (.error error, after)

/-- The occurrences of the two sides. -/
def loadSides (read : Reader) (applicationPaths libraryPaths : List String) :
    Except Failure (List Occurrence × List Occurrence) :=
  if applicationPaths.isEmpty then .error (.noListings .application)
  else if libraryPaths.isEmpty then .error (.noListings .library)
  else
    (loadEach read (applicationPaths ++ libraryPaths)).map fun listings =>
      ((listings.take applicationPaths.length).flatten,
        (listings.drop applicationPaths.length).flatten)

/-- How many records the log of an audit has. -/
def recordCount (read : Reader) (variant : Variant) (applicationPaths libraryPaths : List String) :
    Nat :=
  match loadSides read applicationPaths libraryPaths with
  | .error _ => 0
  | .ok (application, library) => (findings application library variant).count + 1

/-- Audits listings and logs to the journal, if there is one. -/
def run (read : Reader) (variant : Variant) (applicationPaths libraryPaths : List String)
    (occasion : Occasion) (journal : Option Log.Journal) :
    Except Failure Summary × Option Log.Journal :=
  match loadSides read applicationPaths libraryPaths with
  | .error failure => (.error failure, journal)
  | .ok (application, library) =>
    let summary := Summary.ofOccurrences application library variant
    match journal with
    | none => (.ok summary, none)
    | some journal =>
      let (written, after) := writeLog journal <|
        records occasion variant (applicationPaths ++ libraryPaths) application library
          summary.findings
      match written with
      | .ok _ => (.ok summary, some after)
      | .error error => (.error (.unlogged error), some after)

end LinkContract.Audit
