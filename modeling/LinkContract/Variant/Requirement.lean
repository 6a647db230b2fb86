import LinkContract.Variant.Basic

/-!
# What a variant needs

For each entry point a variant requires a definition, allows one, or never refers
to it. Aligned operators belong to the language from C++17 on; before that they
are an extension for single objects. Sized `delete` belongs to it from C++14 on,
where only gcc refers to it without being asked. The exception specification of a
declaration depends on the standard alone.

The header of a variant is an include-guarded C++ header that declares every entry
point the variant permits, in catalog order; optional ones carry a remark.
-/
namespace LinkContract

inductive Requirement where
  | required
  | optional
  | excluded
  deriving DecidableEq, Repr

def Requirement.name : Requirement → String
  | .required => "required"
  | .optional => "optional"
  | .excluded => "excluded"

namespace Variant

/-- Operators that take no size: the plain forms are always needed. -/
def unsizedRequirement (variant : Variant) (array aligned : Bool) : Requirement :=
  if !aligned then .required
  else
    match array, variant.hasAlignedNew with
    | false, true => .required
    | false, false => .optional
    | true, true => .optional
    | true, false => .excluded

/-- Forms of `delete` that take the size of the block. -/
def sizedRequirement (variant : Variant) (array aligned : Bool) : Requirement :=
  if aligned then (if variant.hasAlignedNew then .optional else .excluded)
  else if !variant.hasSizedDelete then .excluded
  else if array then .optional
  else
    match variant.toolchain with
    | .gcc => .required
    | .clang => .optional

def requirement (variant : Variant) : EntryPoint → Requirement
  | .trap .dynamicCast => if variant.rtti then .required else .excluded
  | .trap _ => .required
  | .new array aligned => variant.unsizedRequirement array aligned
  | .delete array sized aligned =>
    if sized then variant.sizedRequirement array aligned
    else variant.unsizedRequirement array aligned

def required (variant : Variant) : List EntryPoint :=
  EntryPoint.catalog.filter fun entry => variant.requirement entry = .required

def permits (variant : Variant) (entry : EntryPoint) : Bool :=
  variant.requirement entry ≠ .excluded

end Variant

inductive ExceptionSpecification where
  | absent
  | noexcept
  | throwsNothing
  | throwsBadAlloc
  deriving DecidableEq, Repr

def ExceptionSpecification.text : ExceptionSpecification → String
  | .absent => ""
  | .noexcept => " noexcept"
  | .throwsNothing => " throw()"
  | .throwsBadAlloc => " throw(std::bad_alloc)"

namespace EntryPoint

/-- Lists of thrown types are written before C++17 for `new`, and the empty list
before C++20. -/
def exceptionSpecification (standard : Standard) : EntryPoint → ExceptionSpecification
  | .new .. => if standard.year < 17 then .throwsBadAlloc else .absent
  | .delete .. => .noexcept
  | .trap .allocateException => if standard.year < 20 then .throwsNothing else .noexcept
  | .trap _ => .absent

def declaration (standard : Standard) (entry : EntryPoint) : String :=
  entry.signature ++ (entry.exceptionSpecification standard).text ++ ";"

end EntryPoint

/-! ### The header -/

namespace Variant

def declarationLines (variant : Variant) (entry : EntryPoint) : String :=
  match variant.requirement entry with
  | .excluded => ""
  | .optional => "// optional\n" ++ entry.declaration variant.standard ++ "\n"
  | .required => entry.declaration variant.standard ++ "\n"

def headerOpening (variant : Variant) : String :=
  "#ifndef CXXRT_RUNTIME_DECLS_HPP\n#define CXXRT_RUNTIME_DECLS_HPP\n\n// variant: "
    ++ variant.title ++ "\n\n#include <cstddef>\n#include <new>\n#include <typeinfo>\n\n"

def header (variant : Variant) : String :=
  variant.headerOpening ++ String.join (EntryPoint.catalog.map variant.declarationLines)
    ++ "\n#endif // CXXRT_RUNTIME_DECLS_HPP\n"

end Variant

end LinkContract
