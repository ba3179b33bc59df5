import Stencil.Value.Basic

/-!
# Resolvers

What supplies the values of tags. The depth of the question is told, for resolvers that bound their own
references.
-/
namespace Stencil

/-- Gives the values at paths, and templates by name. -/
structure Resolver where
  resolve : List String → Nat → Option Value
  template : String → Nat → Option Value

def Resolver.withoutTemplates (r : Resolver) : Resolver :=
  { r with template := fun _ _ => none }

end Stencil
