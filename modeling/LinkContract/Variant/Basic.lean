import LinkContract.EntryPoint
import LinkContract.Json.Decode

/-!
# Build variants

The four axes on which the set of needed entry points depends: the compiler
family, the language standard, whether run-time type information is on, and the
type of `size_t`. Documents about a variant carry the texts of its axes.
-/
namespace LinkContract

inductive Toolchain where
  | clang
  | gcc
  deriving DecidableEq, Repr

def Toolchain.name : Toolchain → String
  | .clang => "clang"
  | .gcc => "gcc"

inductive Standard where
  | cxx11
  | cxx14
  | cxx17
  | cxx20
  deriving DecidableEq, Repr

namespace Standard

/-- The last two digits of the year of publication: later standards have larger ones. -/
def year : Standard → Nat
  | .cxx11 => 11
  | .cxx14 => 14
  | .cxx17 => 17
  | .cxx20 => 20

def name (standard : Standard) : String := "c++" ++ toString standard.year

end Standard

structure Variant where
  toolchain : Toolchain := .clang
  standard : Standard := .cxx17
  rtti : Bool := false
  size : SizeSpelling := .unsignedLong
  deriving DecidableEq, Repr

namespace Variant

def hasSizedDelete (variant : Variant) : Bool := 14 ≤ variant.standard.year

def hasAlignedNew (variant : Variant) : Bool := 17 ≤ variant.standard.year

def title (variant : Variant) : String :=
  variant.toolchain.name ++ " / " ++ variant.standard.name
    ++ " / rtti=" ++ (if variant.rtti then "on" else "off")
    ++ " / size_t=" ++ variant.size.name

/-- The texts of the four axes, as documents about a variant carry them. -/
structure Label where
  toolchain : String
  standard : String
  rtti : Bool
  size : String
  deriving DecidableEq, Repr

def label (variant : Variant) : Label :=
  ⟨variant.toolchain.name, variant.standard.name, variant.rtti, variant.size.name⟩

end Variant

namespace Variant.Label

def toJson (label : Label) : Json :=
  .object [("toolchain", .string label.toolchain), ("std_mode", .string label.standard),
    ("rtti", .bool label.rtti), ("size_type", .string label.size)]

def schema : Json.Schema where
  name := "VariantRecord"
  fields :=
    [.of "toolchain" Json.decodeString, .of "std_mode" Json.decodeString,
      .of "rtti" Json.decodeBool, .of "size_type" Json.decodeString]

def decode : Json.Decoder Label := fun value => do
  let members ← schema.members value
  let toolchain ← members.required "toolchain" Json.decodeString
  let standard ← members.required "std_mode" Json.decodeString
  let rtti ← members.required "rtti" Json.decodeBool
  let size ← members.required "size_type" Json.decodeString
  .ok { toolchain, standard, rtti, size }

end Variant.Label

end LinkContract
