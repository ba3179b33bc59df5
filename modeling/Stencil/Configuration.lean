import Stencil.Table

/-!
# Configuration

The settings of an engine.
-/
namespace Stencil

structure Configuration where
  /-- How deep tags may lead to templates, and aliases to chains. -/
  maxDepth : Nat
  /-- Whether a tag without a value stays as it is written. -/
  keepUndefined : Bool
  /-- Aliases of filter chains by name. -/
  filters : Table String
  deriving DecidableEq, Repr

namespace Configuration

def standard : Configuration := ⟨8, true, []⟩

end Configuration

end Stencil
