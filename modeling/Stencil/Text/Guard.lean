/-!
# Guarded text

Text that is to stand between quotes gets a backslash before backslashes and quotes; text that is to stand
in a page that trusts it loses all characters that could mean something there.
-/
namespace Stencil.Text

def quoteChar (c : Char) : List Char :=
  if c = '\\' ∨ c = '"' ∨ c = '\'' then ['\\', c] else [c]

def quote (s : List Char) : List Char := s.flatMap quoteChar

def isHarmless (c : Char) : Bool := c.isAlphanum || c ∈ "@!?*#$()+=:;,~/._- ".toList

def harmless (s : List Char) : List Char := s.filter isHarmless

end Stencil.Text
