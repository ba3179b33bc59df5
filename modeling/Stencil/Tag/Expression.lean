import Stencil.Tag.Chain
import Stencil.Tag.Reference

/-!
# Tag expressions

The text of a tag without its braces and sigil: `path:default|chain` or `path|chain:default`. Either of
the two parts may be missing. Where the default stands decides whether the chain applies to it.
-/
namespace Stencil.Tag

open Stencil.Text

structure Expression where
  /-- The path to look up. -/
  path : List String
  chain : Option String
  defaultText : Option String
  /-- Whether the default stands before the chain, so that the filters apply to it. -/
  filtersDefault : Bool
  deriving DecidableEq, Repr

namespace Expression

/-- What the character `c` of a path keeps from separating, and what follows: the character after a
backslash, a sub-reference in backticks, or the condition of an include. -/
def pathSpan (c : Char) (rest : List Char) : List Char × List Char :=
  if c = '\\' then (rest.take 1, rest.drop 1)
  else if c = '\x60' then (through? '\x60' rest).getD ([], rest)
  else if c = 'i' then
    match dropStart? "ncludeIf(".toList rest with
    | some inside => ("ncludeIf".toList ++ condition inside, afterCondition inside)
    | none =>
      match dropStart? "nclude.(".toList rest with
      | some inside => ("nclude.".toList ++ condition inside, afterCondition inside)
      | none => ([], rest)
  else ([], rest)
where
  condition (inside : List Char) : List Char :=
    '(' :: ((throughBracket? '(' inside).getD ([], inside)).1
  afterCondition (inside : List Char) : List Char :=
    ((throughBracket? '(' inside).getD ([], inside)).2

theorem pathSpan_append (c : Char) (rest : List Char) :
    (pathSpan c rest).1 ++ (pathSpan c rest).2 = rest := by
  have key (inside : List Char) :
      pathSpan.condition inside ++ pathSpan.afterCondition inside = '(' :: inside := by
    unfold pathSpan.condition pathSpan.afterCondition
    cases h : throughBracket? '(' inside with
    | none => simp
    | some p => simp [← eq_of_throughBracket? h]
  unfold pathSpan
  split
  · exact List.take_append_drop 1 rest
  split
  · cases h : through? '\x60' rest with
    | none => simp
    | some p => simp [← eq_of_through? h]
  split
  · split
    · next inside hd =>
      rw [List.append_assoc, key, (dropStart?_eq_some.1 hd)]
      rfl
    · split
      · next inside hd =>
        rw [List.append_assoc, key, (dropStart?_eq_some.1 hd)]
        rfl
      · rfl
  · rfl

theorem pathSpan_length_le (c : Char) (rest : List Char) :
    (pathSpan c rest).2.length ≤ rest.length := by
  have h := congrArg List.length (pathSpan_append c rest)
  simp at h
  omega

def breakPath (stop : Char → Bool) : List Char → List Char × List Char
  | [] => ([], [])
  | c :: rest =>
    if stop c then ([], c :: rest)
    else
      let (before, after) := breakPath stop (pathSpan c rest).2
      (c :: (pathSpan c rest).1 ++ before, after)
termination_by s => s.length
decreasing_by
  have := pathSpan_length_le c rest
  simp
  omega

/-- Splits a text after a `|` at the colon that begins the default: the chain and the default. Colons within
the shape of a filter do not count. -/
def splitDefault (s : List Char) : List Char × Option (List Char) :=
  let rest := afterShape s
  let shape := s.take (s.length - rest.length)
  match cut ':' false rest, _h : atBoundary? false s with
  | none, none => (s, none)
  | some (loose, default_), none => (shape ++ loose, some default_)
  | found, some (filter, more) =>
    match found with
    | some (loose, default_) =>
      if (shape ++ loose).length < filter.length then (shape ++ loose, some default_)
      else
        let (chain, default?) := splitDefault more
        (filter ++ '|' :: chain, default?)
    | none =>
      let (chain, default?) := splitDefault more
      (filter ++ '|' :: chain, default?)
termination_by s.length
decreasing_by
  all_goals exact length_lt_of_atBoundary? _h

def splitDots : List Char → List Char × List (List Char)
  | [] => ([], [])
  | c :: rest =>
    if c = '.' then
      let (segment, segments) := splitDots rest
      ([], segment :: segments)
    else
      let span := if c = '\x60' then (through? '\x60' rest).getD ([], rest) else ([], rest)
      let (segment, segments) := splitDots span.2
      (c :: span.1 ++ segment, segments)
termination_by s => s.length
decreasing_by
  · simp
  · split
    · cases h : through? '\x60' rest with
      | none => simp
      | some p =>
        have := congrArg List.length (eq_of_through? h)
        simp at this ⊢
        omega
    · simp

/-- The segments of a path. A leading dot marks a command, which stays in one piece. -/
def segmentsOf (path : List Char) : List String :=
  match path with
  | '.' :: _ => [String.ofList path]
  | _ =>
    let (segment, segments) := splitDots path
    (segment :: segments).map String.ofList

def chainOf (s : List Char) : Option String :=
  match trim s with
  | [] => none
  | t => some (String.ofList t)

def ofChars (raw : List Char) : Expression :=
  let (path, rest) := breakPath (fun c => c == ':' || c == '|') raw
  match rest with
  | ':' :: tail =>
    let (default_, rest') := breakPath (· == '|') tail
    match rest' with
    | _ :: chain =>
      { path := segmentsOf (trim path), chain := chainOf chain
        defaultText := some (String.ofList default_), filtersDefault := true }
    | [] =>
      { path := segmentsOf (trim path), chain := none
        defaultText := some (String.ofList tail), filtersDefault := false }
  | _ :: tail =>
    let (chain, default?) := splitDefault tail
    { path := segmentsOf (trim path), chain := chainOf chain
      defaultText := default?.map String.ofList, filtersDefault := false }
  | [] =>
    { path := segmentsOf (trim path), chain := none, defaultText := none, filtersDefault := false }

def parse (raw : String) : Expression := ofChars raw.toList

def defaultValue? (e : Expression) : Option Value := e.defaultText.map referenced

end Expression

end Stencil.Tag
