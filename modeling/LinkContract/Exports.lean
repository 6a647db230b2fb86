import LinkContract.EntryPoint
import LinkContract.Text.Basic
import LinkContract.Variant.Basic
import LinkContract.Variant.Requirement

/-!
# Exports of the support library

Three switches decide which entry points a build of the support library exports.
A feature list is a text with commas; blanks around a name do not count, and
neither do empty names. The names in it add up, and the first unknown one refuses
the list.

An export set fits a variant when it has everything the variant requires and
nothing the variant excludes. The names in a report stand in catalog order.
-/
namespace LinkContract

/-! ### Features -/

structure Features where
  rtti : Bool := false
  extendedOperators : Bool := false
  sizedDeallocation : Bool := false
  deriving DecidableEq, Repr

namespace Features

/-- What a build has when nothing is asked for. -/
def usual : Features := { sizedDeallocation := true }

def full : Features := ⟨true, true, true⟩

/-- All combinations, with run-time type information slowest and sized deallocation
fastest. -/
def all : List Features :=
  [false, true].flatMap fun rtti =>
    [false, true].flatMap fun extended =>
      [false, true].map fun sized => ⟨rtti, extended, sized⟩

def union (first second : Features) : Features :=
  ⟨first.rtti || second.rtti, first.extendedOperators || second.extendedOperators,
    first.sizedDeallocation || second.sizedDeallocation⟩

def exports (features : Features) : EntryPoint → Bool
  | .trap .dynamicCast => features.rtti
  | .trap _ => true
  | .new array aligned => !(array && aligned) || features.extendedOperators
  | .delete false true false => features.sizedDeallocation
  | .delete array sized aligned => !(sized || array && aligned) || features.extendedOperators

def exportSet (features : Features) : List EntryPoint :=
  EntryPoint.catalog.filter features.exports

theorem mem_exportSet (features : Features) (entry : EntryPoint) :
    entry ∈ features.exportSet ↔ features.exports entry = true := by
  simp [exportSet, EntryPoint.mem_catalog]

/-- A name in a feature list that no feature has. -/
structure UnknownFeature where
  name : String
  deriving DecidableEq, Repr

def UnknownFeature.message (error : UnknownFeature) : String :=
  "unknown cxxrt-abi feature '" ++ error.name ++ "'"

/-- The features that one name stands for; `none` stands for no feature at all. -/
def named? (name : String) : Option Features :=
  if name = "none" then some {}
  else if name = "default" ∨ name = "sized-deallocation" then some { sizedDeallocation := true }
  else if name = "rtti" then some { rtti := true }
  else if name = "extended-operators" then some { extendedOperators := true }
  else none

def gather : List String → Except UnknownFeature Features
  | [] => .ok {}
  | name :: rest =>
    match named? name with
    | none => .error ⟨name⟩
    | some features => (gather rest).map features.union

/-- The names in a feature list. -/
def namesIn (list : String) : List String :=
  ((Text.pieces (· == ',') list.toList).map Text.trim).filter (fun name => !name.isEmpty)
    |>.map String.ofList

def parse (list : String) : Except UnknownFeature Features := gather (namesIn list)

end Features

/-! ### Checking an export set -/

structure ExportReport where
  variant : Variant
  missing : List String
  stray : List String
  optionalExported : List String
  deriving DecidableEq, Repr

namespace ExportReport

def isOk (report : ExportReport) : Bool := report.missing.isEmpty && report.stray.isEmpty

/-- The link names of the catalog entries that a test accepts, in catalog order. -/
def namesWhere (size : SizeSpelling) (accepts : EntryPoint → Bool) : List String :=
  (EntryPoint.catalog.filter accepts).map (EntryPoint.linkName size)

def check (exported : List EntryPoint) (variant : Variant) : ExportReport :=
  { variant
    missing := namesWhere variant.size fun entry =>
      variant.requirement entry = .required && !exported.contains entry
    stray := namesWhere variant.size fun entry =>
      variant.requirement entry = .excluded && exported.contains entry
    optionalExported := namesWhere variant.size fun entry =>
      variant.requirement entry = .optional && exported.contains entry }

def toJson (report : ExportReport) : Json :=
  .object [("variant", report.variant.label.toJson),
    ("missing_required", Json.strings report.missing), ("stray", Json.strings report.stray),
    ("optional_exported", Json.strings report.optionalExported)]

def text (report : ExportReport) : String := report.toJson.pretty

end ExportReport

/-- The feature combinations whose exports fit a variant. -/
def Variant.fittingFeatures (variant : Variant) : List Features :=
  Features.all.filter fun features => (ExportReport.check features.exportSet variant).isOk

end LinkContract
