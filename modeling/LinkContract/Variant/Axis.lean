import LinkContract.Text.Basic
import LinkContract.Variant.Basic

/-!
# Reading the axes of a variant

Each axis has a set of accepted spellings, compared without regard to ASCII case.
A standard may carry any number of copies of `-std=`, `gnu++`, `c++` and `cxx`, in
that order, before its number. A rejected text is reported as it was given.
-/
namespace LinkContract

inductive Axis where
  | toolchain
  | standard
  | size
  deriving DecidableEq, Repr

def Axis.name : Axis → String
  | .toolchain => "toolchain"
  | .standard => "standard mode"
  | .size => "size_t mangling"

/-- A text that names no value of its axis. -/
structure AxisError where
  axis : Axis
  value : String
  deriving DecidableEq, Repr

def AxisError.message (error : AxisError) : String :=
  "unknown " ++ error.axis.name ++ " '" ++ error.value ++ "'"

def Toolchain.spellings : List (String × Toolchain) :=
  [("clang", .clang), ("clang++", .clang), ("llvm", .clang), ("wasi-sdk", .clang),
    ("gcc", .gcc), ("g++", .gcc), ("gnu", .gcc)]

def SizeSpelling.spellings : List (String × SizeSpelling) :=
  [("m", .unsignedLong), ("ulong", .unsignedLong), ("unsigned-long", .unsignedLong),
    ("lp64", .unsignedLong), ("wasm32", .unsignedLong),
    ("j", .unsignedInt), ("uint", .unsignedInt), ("unsigned-int", .unsignedInt),
    ("ilp32", .unsignedInt)]

def Standard.numbers : List (String × Standard) :=
  [("11", .cxx11), ("0x", .cxx11), ("14", .cxx14), ("1y", .cxx14),
    ("17", .cxx17), ("1z", .cxx17), ("20", .cxx20), ("2a", .cxx20)]

/-- The value that a table gives to a spelling. -/
def spelled? {α : Type} (table : List (String × α)) (text : List Char) : Option α :=
  (table.find? fun row => row.1.toList == text).map (·.2)

def Toolchain.read (text : String) : Except AxisError Toolchain :=
  match spelled? Toolchain.spellings (Text.lower text.toList) with
  | some toolchain => .ok toolchain
  | none => .error ⟨.toolchain, text⟩

def SizeSpelling.read (text : String) : Except AxisError SizeSpelling :=
  match spelled? SizeSpelling.spellings (Text.lower text.toList) with
  | some size => .ok size
  | none => .error ⟨.size, text⟩

/-- What may stand before the number of a standard, in this order. -/
def Standard.stems : List (List Char) :=
  ["-std=".toList, "gnu++".toList, "c++".toList, "cxx".toList]

def Standard.number (text : List Char) : List Char :=
  Standard.stems.foldl (fun rest stem => Text.dropCopies stem rest) text

def Standard.read (text : String) : Except AxisError Standard :=
  match spelled? Standard.numbers (Standard.number (Text.lower text.toList)) with
  | some standard => .ok standard
  | none => .error ⟨.standard, text⟩

end LinkContract
