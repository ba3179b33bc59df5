import Stencil.Configuration
import Stencil.Toml.Reader

/-!
# Reading configurations

A configuration is a TOML document. Each setting may be missing; keys that are no settings are ignored.
-/
namespace Stencil.Configuration

def readMaxDepth? : Option Toml → Option Nat
  | none => some standard.maxDepth
  | some (.integer n) => if 0 ≤ n then some n.toNat else none
  | some _ => none

def readKeepUndefined? : Option Toml → Option Bool
  | none => some standard.keepUndefined
  | some (.boolean b) => some b
  | some _ => none

def readAlias? : String × Toml → Option (String × String)
  | (name, .string chain) => some (name, chain)
  | _ => none

/-- The one entry of the table that a moment counts as. -/
def momentKey : String := "$__toml_private_datetime"

/-- Filters are a table of texts. A moment counts as the table whose one entry is its text. -/
def readFilters? : Option Toml → Option (Table String)
  | none => some standard.filters
  | some (.table entries) => entries.mapM readAlias?
  | some (.moment m) => some [(momentKey, m.text)]
  | some _ => none

def parse? (text : String) : Option Configuration := do
  let settings ← Toml.parse? text
  return {
    maxDepth := ← readMaxDepth? (Table.get? "max_depth" settings)
    keepUndefined := ← readKeepUndefined? (Table.get? "keep_undefined_tags" settings)
    filters := ← readFilters? (Table.get? "filters" settings) }

end Stencil.Configuration
