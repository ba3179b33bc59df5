import Stencil.Toml.Draft
import Stencil.Toml.Number
import Stencil.Toml.Text

/-!
# Reading TOML

A document is made of lines: keys with values, headers of tables, and comments. Containers nest, and dotted
keys reach, to a fixed depth.
-/
namespace Stencil.Toml

/-- Containers nest at most this deep, and keys have at most as many parts. -/
def maxNesting : Nat := 79

/-- Skips blanks, line ends and comments. A comment ends in front of a character that may not stand in a
line. The flag tells whether the text begins within a comment. -/
def skipLines (inComment : Bool) : List Char → List Char
  | [] => []
  | c :: rest =>
    if c = '\n' then skipLines false rest
    else if inComment then if isLineChar c then skipLines true rest else c :: rest
    else if c = '#' then skipLines true rest
    else if isBlank c then skipLines false rest
    else c :: rest

def isBare (c : Char) : Bool := c.isAlphanum || c == '_' || c == '-'

def readKeyPart? (s : List Char) : Option (String × List Char) :=
  match s.takeWhile isBare with
  | [] => readShort? s
  | bare => some (String.ofList bare, s.dropWhile isBare)

def readKey? : Nat → List Char → Option (List String × List Char)
  | 0, _ => none
  | parts + 1, s => do
    let (part, rest) ← readKeyPart? (skipBlanks s)
    match skipBlanks rest with
    | '.' :: more => (readKey? parts more).map fun (key, after) => (part :: key, after)
    | after => some ([part], after)

def readScalar? (s : List Char) : Option (Toml × List Char) :=
  match s with
  | 't' :: 'r' :: 'u' :: 'e' :: rest => some (boolean true, rest)
  | 'f' :: 'a' :: 'l' :: 's' :: 'e' :: rest => some (boolean false, rest)
  | _ =>
    ((readString? s).map fun (t, rest) => (string t, rest))
      <|> ((readMoment? s).map fun (m, rest) => (moment m, rest))
      <|> ((readFloat? s).map fun (x, rest) => (float x, rest))
      <|> ((readInteger? s).map fun (n, rest) => (integer n, rest))

mutual

/-- Reads a value, in which containers may nest `depth` deep. The first argument bounds the number of
steps. -/
def readValue? : Nat → Nat → List Char → Option (Toml × List Char)
  | 0, _, _ => none
  | steps + 1, depth, s =>
    match s, depth with
    | '[' :: _, 0 => none
    | '\x7b' :: _, 0 => none
    | '[' :: rest, depth + 1 => readItems? steps depth [] rest
    | '\x7b' :: rest, depth + 1 =>
      match skipBlanks rest with
      | '\x7d' :: after => some (table [], after)
      | _ => readPairs? steps depth [] rest
    | s, _ => readScalar? s

def readItems? : Nat → Nat → List Toml → List Char → Option (Toml × List Char)
  | 0, _, _, _ => none
  | steps + 1, depth, read, s =>
    match skipLines false s with
    | ']' :: rest => some (array read.reverse, rest)
    | start =>
      match readValue? steps depth start with
      | none => none
      | some (v, rest) =>
        match skipLines false rest with
        | ',' :: more => readItems? steps depth (v :: read) more
        | ']' :: more => some (array (v :: read).reverse, more)
        | _ => none

def readPairs? : Nat → Nat → List (List String × Toml) → List Char → Option (Toml × List Char)
  | 0, _, _, _ => none
  | steps + 1, depth, read, s =>
    match readKey? maxNesting s with
    | some (key, '=' :: rest) =>
      match readValue? steps depth (skipBlanks rest) with
      | none => none
      | some (v, rest) =>
        match skipBlanks rest with
        | ',' :: more => readPairs? steps depth ((key, v) :: read) more
        | '\x7d' :: more => (Node.ofPairs? ((key, v) :: read).reverse).map fun t => (t, more)
        | _ => none
    | _ => none

end

def lineEnd? (s : List Char) : Option (List Char) :=
  let rest := skipBlanks s
  if rest.head?.all fun c => c == '\n' || c == '#' then some rest else none

def readLine? (d : Draft) (s : List Char) : Option (Draft × List Char) :=
  match s with
  | '[' :: '[' :: rest => do
    let (path, rest) ← readKey? maxNesting rest
    match rest with
    | ']' :: ']' :: rest => return (← d.openItem? path, ← lineEnd? rest)
    | _ => none
  | '[' :: rest => do
    let (path, rest) ← readKey? maxNesting rest
    match rest with
    | ']' :: rest => return (← d.openTable? path, ← lineEnd? rest)
    | _ => none
  | _ => do
    let (key, rest) ← readKey? maxNesting s
    match rest with
    | '=' :: rest =>
      let (v, rest) ← readValue? (2 * rest.length + 2) maxNesting (skipBlanks rest)
      return (← d.assign? key v, ← lineEnd? rest)
    | _ => none

def readLines? : Nat → Draft → List Char → Option Draft
  | 0, _, _ => none
  | count + 1, d, s =>
    match skipLines false s with
    | [] => some d
    | start => (readLine? d start).bind fun (d, rest) => readLines? count d rest

def joinLineEnds : List Char → List Char
  | '\r' :: '\n' :: rest => '\n' :: joinLineEnds rest
  | c :: rest => c :: joinLineEnds rest
  | [] => []

/-- Reads a document, which a byte order mark may precede. -/
def parse? (text : String) : Option (Table Toml) :=
  let s := joinLineEnds (match text.toList with
    | '\ufeff' :: rest => rest
    | s => s)
  (readLines? (s.length + 1) .empty s).map Draft.finish

end Stencil.Toml
