/-!
# Runtime-support entry points

A compiled C++ object may refer to five trap entry points, which stand for
language features that end the process, and to the global allocation operators.
An operator is given by its form: `new` may be the array form and may take an
alignment, `delete` may also take the size of the block. The catalog lists the
traps first and the operators in the order of their forms.

The name under which the linker knows an entry point. Operators have Itanium
names, which spell `size_t` with the letter of the target's type for it; `w` and
`a` after `_Zn` and `l` and `a` after `_Zd` tell the scalar from the array form.
Under one spelling no two entry points share a name.
-/
namespace LinkContract

inductive TrapPoint where
  | pureVirtual
  | allocateException
  | throwException
  | uncaughtExceptions
  | dynamicCast
  deriving DecidableEq, Repr

inductive EntryPoint where
  | trap (point : TrapPoint)
  | new (array aligned : Bool)
  | delete (array sized aligned : Bool)
  deriving DecidableEq, Repr

namespace EntryPoint

def catalog : List EntryPoint :=
  [.trap .pureVirtual, .trap .allocateException, .trap .throwException,
    .trap .uncaughtExceptions, .trap .dynamicCast,
    .new false false, .new true false, .new false true, .new true true,
    .delete false false false, .delete true false false,
    .delete false false true, .delete true false true,
    .delete false true false, .delete true true false,
    .delete false true true, .delete true true true]

theorem mem_catalog (entry : EntryPoint) : entry ∈ catalog := by
  cases entry with
  | trap point => cases point <;> decide
  | new array aligned => cases array <;> cases aligned <;> decide
  | delete array sized aligned => cases array <;> cases sized <;> cases aligned <;> decide

theorem catalog_nodup : catalog.Nodup := by decide

inductive Category where
  | trap
  | allocation
  deriving DecidableEq, Repr

def Category.name : Category → String
  | .trap => "trap"
  | .allocation => "allocation"

def category : EntryPoint → Category
  | .trap _ => .trap
  | _ => .allocation

def isNew : EntryPoint → Bool
  | .new .. => true
  | _ => false

def isDelete : EntryPoint → Bool
  | .delete .. => true
  | _ => false

def takesAlignment : EntryPoint → Bool
  | .new _ aligned => aligned
  | .delete _ _ aligned => aligned
  | .trap _ => false

def takesSize : EntryPoint → Bool
  | .delete _ sized _ => sized
  | _ => false

def isArray : EntryPoint → Bool
  | .new array _ => array
  | .delete array _ _ => array
  | .trap _ => false

/-- The C++ declaration without exception specification and semicolon. -/
def signature : EntryPoint → String
  | .trap .pureVirtual => "extern \"C\" void __cxa_pure_virtual()"
  | .trap .allocateException => "extern \"C\" void* __cxa_allocate_exception(std::size_t)"
  | .trap .throwException =>
    "extern \"C\" void __cxa_throw(void*, std::type_info*, void (*)(void*))"
  | .trap .uncaughtExceptions => "extern \"C\" unsigned int __cxa_uncaught_exceptions()"
  | .trap .dynamicCast =>
    "extern \"C\" void* __dynamic_cast(const void*, const void*, const void*, std::ptrdiff_t)"
  | .new array aligned =>
    "void* operator new" ++ (if array then "[]" else "") ++ "(std::size_t"
      ++ (if aligned then ", std::align_val_t)" else ")")
  | .delete array sized aligned =>
    "void operator delete" ++ (if array then "[]" else "") ++ "(void*"
      ++ (if sized then ", std::size_t" else "")
      ++ (if aligned then ", std::align_val_t)" else ")")

end EntryPoint

/-! ### Link names -/

/-- The type that the target uses for `size_t`. -/
inductive SizeSpelling where
  | unsignedLong
  | unsignedInt
  deriving DecidableEq, Repr

namespace SizeSpelling

def letter : SizeSpelling → Char
  | .unsignedLong => 'm'
  | .unsignedInt => 'j'

def name : SizeSpelling → String
  | .unsignedLong => "unsigned long"
  | .unsignedInt => "unsigned int"

end SizeSpelling

namespace EntryPoint

def linkName (size : SizeSpelling) : EntryPoint → String
  | .trap .pureVirtual => "__cxa_pure_virtual"
  | .trap .allocateException => "__cxa_allocate_exception"
  | .trap .throwException => "__cxa_throw"
  | .trap .uncaughtExceptions => "__cxa_uncaught_exceptions"
  | .trap .dynamicCast => "__dynamic_cast"
  | .new array aligned =>
    (if array then "_Zna" else "_Znw") ++ size.letter.toString
      ++ (if aligned then "St11align_val_t" else "")
  | .delete array sized aligned =>
    (if array then "_ZdaPv" else "_ZdlPv") ++ (if sized then size.letter.toString else "")
      ++ (if aligned then "St11align_val_t" else "")

def ofLinkName? (size : SizeSpelling) (name : String) : Option EntryPoint :=
  catalog.find? fun entry => entry.linkName size == name

theorem ofLinkName?_isSome_iff (size : SizeSpelling) (name : String) :
    (ofLinkName? size name).isSome ↔ ∃ entry : EntryPoint, entry.linkName size = name := by
  simp only [ofLinkName?, List.find?_isSome, beq_iff_eq]
  exact ⟨fun ⟨entry, _, same⟩ => ⟨entry, same⟩,
    fun ⟨entry, same⟩ => ⟨entry, mem_catalog entry, same⟩⟩

/-- The beginnings of names that belong to the C++ runtime. -/
def reservedStems : List String :=
  ["__cxa_", "__gxx_personality", "_Znw", "_Zna", "_Zdl", "_Zda", "_ZTVN10__cxxabiv1", "_Unwind_"]

/-- Tells references to the C++ runtime from those to the application or to libc. -/
def isReservedName (name : String) : Bool :=
  name == "__dynamic_cast" || reservedStems.any fun stem => stem.toList.isPrefixOf name.toList

end EntryPoint

end LinkContract
