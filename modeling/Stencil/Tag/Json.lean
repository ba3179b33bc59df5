import Stencil.Json.Basic
import Stencil.Tag.Expression

/-!
# Tag expressions as JSON
-/
namespace Stencil.Tag

/-- The parts of a tag as members of an object; a part that is missing has none. -/
def Expression.toJson (e : Expression) : Json :=
  .object ([("path", .array (e.path.map .string))]
    ++ (e.chain.map fun s => ("filter_chain", .string s)).toList
    ++ (e.defaultText.map fun s => ("default_text", .string s)).toList
    ++ [("apply_filters_to_default", .bool e.filtersDefault)])

end Stencil.Tag
