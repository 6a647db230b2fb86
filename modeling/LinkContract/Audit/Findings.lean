import LinkContract.Listing
import LinkContract.Names
import LinkContract.Variant.Requirement

/-!
# Findings of a link audit

The audit compares what the objects of an application refer to with what they and
the support library define. A reference that nothing defines is unresolved when
its name is in the catalog, and unsupported when it is reserved for the runtime
but not in the catalog; other references are not the audit's concern. A name with
two strong definitions is a clash, whatever the two objects are. Catalog entries
are checked against the library alone: it should define what the variant
requires and nothing that the variant excludes.

The summary is the findings as a document, with the variant they hold for, the
verdict, and how many occurrences each side had.
-/
namespace LinkContract.Audit

/-- A name with more than one strong definition, and the objects that hold one. -/
structure Clash where
  name : String
  objects : List String
  deriving DecidableEq, Repr

structure Findings where
  unresolved : List String
  clashes : List Clash
  unsupported : List String
  stray : List String
  missing : List String
  deriving DecidableEq, Repr

/-- Stray definitions do not count: they are only a warning. -/
def Findings.isClean (findings : Findings) : Bool :=
  findings.unresolved.isEmpty && findings.clashes.isEmpty && findings.unsupported.isEmpty
    && findings.missing.isEmpty

/-- How many findings there are, of all kinds. -/
def Findings.count (findings : Findings) : Nat :=
  findings.unresolved.length + findings.clashes.length + findings.unsupported.length
    + findings.missing.length + findings.stray.length

def Findings.hasWarnings (findings : Findings) : Bool := !findings.stray.isEmpty

def defines (occurrences : List Occurrence) (name : String) : Bool :=
  occurrences.any fun occurrence => occurrence.linkage.isDefinition && occurrence.name == name

/-- The strong definitions of a name, one for each line that holds one. -/
def strongDefinitions (occurrences : List Occurrence) (name : String) : List Occurrence :=
  occurrences.filter fun occurrence =>
    occurrence.linkage.isStrongDefinition && occurrence.name == name

/-- The objects that list `name` with a linkage that `accepts` holds of, sorted. -/
def objectsListing (occurrences : List Occurrence) (name : String) (accepts : Linkage → Bool) :
    List String :=
  Names.sorted <| (occurrences.filter fun occurrence =>
    occurrence.name == name && accepts occurrence.linkage).map (·.object)

/-- The names that an application refers to and that nothing in `all` defines. -/
def openReferences (application all : List Occurrence) : List String :=
  (application.filter fun occurrence =>
    occurrence.linkage = .undefined && !defines all occurrence.name).map (·.name)

def clashes (all : List Occurrence) : List Clash :=
  let strong := (all.filter fun occurrence => occurrence.linkage.isStrongDefinition).map (·.name)
  let repeated := (Names.sorted strong).filter fun name => 1 < (strongDefinitions all name).length
  repeated.map fun name => ⟨name, objectsListing all name Linkage.isStrongDefinition⟩

/-- The link names of the catalog entries that a test accepts, sorted. -/
def catalogNames (size : SizeSpelling) (accepts : EntryPoint → Bool) : List String :=
  Names.sorted ((EntryPoint.catalog.filter accepts).map (EntryPoint.linkName size))

def findings (application library : List Occurrence) (variant : Variant) : Findings :=
  let all := application ++ library
  let references := openReferences application all
  let known (name : String) : Bool := (EntryPoint.ofLinkName? variant.size name).isSome
  let provides (entry : EntryPoint) : Bool := defines library (entry.linkName variant.size)
  { unresolved := Names.sorted (references.filter known)
    clashes := clashes all
    unsupported := Names.sorted <| references.filter fun name =>
      !known name && EntryPoint.isReservedName name
    stray := catalogNames variant.size fun entry =>
      variant.requirement entry = .excluded && provides entry
    missing := catalogNames variant.size fun entry =>
      variant.requirement entry = .required && !provides entry }

/-! ### The summary -/

structure Summary where
  variant : Variant.Label
  clean : Bool
  applicationCount : Nat
  libraryCount : Nat
  findings : Findings
  deriving DecidableEq, Repr

namespace Summary

def ofFindings (findings : Findings) (variant : Variant) (applicationCount libraryCount : Nat) :
    Summary :=
  ⟨variant.label, findings.isClean, applicationCount, libraryCount, findings⟩

/-- Audits occurrences and sums up what was found. -/
def ofOccurrences (application library : List Occurrence) (variant : Variant) : Summary :=
  ofFindings (Audit.findings application library variant) variant application.length library.length

end Summary

def Clash.toJson (clash : Clash) : Json :=
  .object [("name", .string clash.name), ("objects", Json.strings clash.objects)]

def Findings.members (findings : Findings) : Json.Members :=
  [("unresolved", Json.strings findings.unresolved),
    ("duplicates", .array (findings.clashes.map Clash.toJson)),
    ("unsupported", Json.strings findings.unsupported),
    ("stray", Json.strings findings.stray),
    ("missing_required", Json.strings findings.missing)]

namespace Summary

def toJson (summary : Summary) : Json :=
  .object <|
    [("variant", summary.variant.toJson), ("clean", .bool summary.clean),
      ("app_symbols", .count summary.applicationCount),
      ("shim_symbols", .count summary.libraryCount)]
    ++ summary.findings.members

def text (summary : Summary) : String := summary.toJson.pretty

end Summary

end LinkContract.Audit
