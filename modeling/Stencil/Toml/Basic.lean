import Stencil.Table
import Stencil.Toml.Moment

/-!
# TOML values

The data model.
-/
namespace Stencil

inductive Toml where
  | string (s : String)
  | integer (n : Int)
  | float (x : Float)
  | boolean (b : Bool)
  | moment (m : Toml.Moment)
  | array (items : List Toml)
  | table (entries : List (String × Toml))
  deriving Inhabited

end Stencil
