import Stencil.Text.Cursor
import Stencil.Text.Search

/-!
# Argument lists

Reading the arguments of a filter call. A list that begins with a double quote holds up to two quoted
arguments, whose text is never split, and then bare ones. Bare arguments are separated by commas; commas
within quotes, brackets and regular-expression literals belong to the argument.
-/
namespace Stencil.Tag

open Stencil.Text

/-- At most this many bare arguments are separated; the last one keeps what remains. -/
def maxArguments : Nat := 15

/-- The argument that stands between the pairs of an `onmatch` call and its `nomatch` fallback. -/
def fallbackMark : String := "|nomatch|"

def quoted? : List Char → Option (List Char)
  | '"' :: rest =>
    match cut '"' false rest with
    | some (inside, []) => some inside
    | _ => none
  | _ => none

/-- A bare argument as its filter sees it: a regular-expression literal loses the blanks around it, a
quoted argument its quotes, and in any other each `\,` becomes a comma. -/
def bareArgument (raw : List Char) : String :=
  let inner := trim raw
  String.ofList <|
    if inner.head? = some '/' then inner
    else match quoted? inner with
      | some inside => unescape '"' inside
      | none => unescape ',' raw

/-- What belongs to the character `c` of a bare argument, and what follows: the character after a
backslash, a literal where an argument begins, a quoted string (all the rest if it never ends), a bracket
with what it encloses. -/
def argumentSpan (atStart : Bool) (c : Char) (rest : List Char) : List Char × List Char :=
  if c = '\\' then (rest.take 1, rest.drop 1)
  else if c = '/' ∧ atStart = true then
    match through? '/' rest with
    | some (taken, after) =>
      (taken ++ after.takeWhile Cursor.isFlag, after.dropWhile Cursor.isFlag)
    | none => ([], rest)
  else if c = '"' then (through? '"' rest).getD (rest, [])
  else (throughBracket? c rest).getD ([], rest)

theorem argumentSpan_append (atStart : Bool) (c : Char) (rest : List Char) :
    (argumentSpan atStart c rest).1 ++ (argumentSpan atStart c rest).2 = rest := by
  unfold argumentSpan
  split
  · exact List.take_append_drop 1 rest
  split
  · split
    · next h => simp [List.takeWhile_append_dropWhile, ← eq_of_through? h]
    · rfl
  split
  · cases h : through? '"' rest with
    | none => simp
    | some p => simp [← eq_of_through? h]
  · cases h : throughBracket? c rest with
    | none => simp
    | some p => simp [← eq_of_throughBracket? h]

theorem argumentSpan_length_le (atStart : Bool) (c : Char) (rest : List Char) :
    (argumentSpan atStart c rest).2.length ≤ rest.length := by
  have h := congrArg List.length (argumentSpan_append atStart c rest)
  simp at h
  omega

/-- Separates bare arguments. `room` is how many more commas may separate, `read` the argument read so far
with its last character first, and `atStart` tells whether it holds only blanks. -/
def bareArguments (room : Nat) (read : List Char) (atStart : Bool) : List Char → List String
  | [] => [bareArgument read.reverse]
  | c :: rest =>
    if c = ',' ∧ room ≠ 0 then bareArgument read.reverse :: bareArguments (room - 1) [] true rest
    else
      bareArguments room ((argumentSpan atStart c rest).1.reverse ++ c :: read)
        (atStart && isBlank c) (argumentSpan atStart c rest).2
termination_by s => s.length
decreasing_by
  · simp
  · have := argumentSpan_length_le atStart c rest
    simp
    omega

def splitBare (s : List Char) : List String := bareArguments (maxArguments - 1) [] true s

def quotedArguments (s : List Char) : List String :=
  let asArgument (inside : List Char) := String.ofList (unescape '"' inside)
  match cut '"' false s with
  | none => [asArgument s]
  | some (first, rest) =>
    asArgument first ::
      match trimStart rest with
      | ',' :: more =>
        match trimStart more with
        | '"' :: more' =>
          match cut '"' false more' with
          | none => [asArgument more']
          | some (second, rest') =>
            asArgument second ::
              match trimStart rest' with
              | ',' :: others => splitBare others
              | _ => []
        | others => splitBare others
      | _ => []

def arguments (s : List Char) : List String :=
  match trimStart s with
  | '"' :: rest => quotedArguments rest
  | _ => splitBare s

def fallback? (s : List Char) : Option String :=
  (dropStart? "nomatch(".toList (trimStart s)).map fun rest =>
    bareArgument <| match closing '(' ')' 0 true rest with
      | some (inside, _) => inside
      | none => rest

/-- The arguments of a call from its opening parenthesis on. A `nomatch` clause adds its argument, with
`fallbackMark` before it; a list that is never closed reaches to the end. -/
def callArguments : List Char → List String
  | '(' :: rest =>
    match closing '(' ')' 0 true rest with
    | none => arguments rest
    | some (inside, after) =>
      arguments inside ++ match fallback? after with
        | some argument => [fallbackMark, argument]
        | none => []
  | _ => []

end Stencil.Tag
