import Stencil.Text.Search

/-!
# Entities

The five characters that mark up XML, written as entities.
-/
namespace Stencil.Codec.Entity

open Stencil.Text

def escapeChar (c : Char) : List Char :=
  if c = '&' then "&amp;".toList
  else if c = '<' then "&lt;".toList
  else if c = '>' then "&gt;".toList
  else if c = '"' then "&quot;".toList
  else if c = '\'' then "&apos;".toList
  else [c]

def escape (s : List Char) : List Char := s.flatMap escapeChar

/-- Each entity with its character, in the order in which they are replaced. The ampersand comes last, so
that no new entity arises. -/
def entities : List (String × Char) :=
  [("&lt;", '<'), ("&gt;", '>'), ("&quot;", '"'), ("&apos;", '\''), ("&#39;", '\''), ("&amp;", '&')]

def unescape (s : List Char) : List Char :=
  entities.foldl (fun t (entity, c) => replaceAll entity.toList [c] t) s

end Stencil.Codec.Entity
