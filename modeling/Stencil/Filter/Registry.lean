import Stencil.Unicode.Case
import Stencil.Value.Basic

/-!
# Registries

The filters that an engine has besides the stock filters: custom filters and aliases of chains. Names are
kept in lower case.
-/
namespace Stencil

/-- A custom filter takes an input, which may be absent, and the arguments of the call. It gives a value,
which may be absent, or fails with a message. -/
abbrev CustomFilter := Option Value → List String → Except String (Option Value)

structure Registry where
  custom : Table CustomFilter
  aliases : Table String

namespace Registry

def empty : Registry := ⟨[], []⟩

def register (r : Registry) (name : String) (f : CustomFilter) : Registry :=
  { r with custom := Table.insert (Unicode.lowercase name) f r.custom }

def addAlias (r : Registry) (name chain : String) : Registry :=
  { r with aliases := Table.insert (Unicode.lowercase name) chain r.aliases }

/-- The registry of some aliases; of two names that differ in case only the later counts. -/
def ofAliases (aliases : Table String) : Registry :=
  aliases.foldl (fun r (name, chain) => r.addAlias name chain) empty

end Registry

end Stencil
