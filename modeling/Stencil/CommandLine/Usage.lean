/-!
# Options and operands

The words of a command line are options, the values of options, the name of a command, and operands. A long
option has its value behind an equals sign or as the next word; a short one may also have it behind its
letter, and options without values may share a word. No word after `--` is an option. An option that
stands twice, and a word with no place, are faults.
-/
namespace Stencil.CommandLine

inductive Verb where
  | render | parse | filter | filters | help
  deriving DecidableEq, Repr

namespace Verb

def all : List Verb := [render, parse, filter, filters, help]

def name : Verb → String
  | render => "render"
  | parse => "parse"
  | filter => "filter"
  | filters => "filters"
  | help => "help"

def ofName? (name : String) : Option Verb := all.find? (·.name == name)

end Verb

inductive ValueKind where
  | text
  /-- The path of a file, which is not empty. -/
  | path
  deriving DecidableEq, Repr

inductive Switch where
  | config | verbose | help | version
  | template | file | data | set | includes
  | chain | input
  deriving DecidableEq, Repr

namespace Switch

def long : Switch → String
  | config => "config"
  | verbose => "verbose"
  | help => "help"
  | version => "version"
  | template => "template"
  | file => "file"
  | data => "data"
  | set => "set"
  | includes => "include"
  | chain => "chain"
  | input => "input"

def short? : Switch → Option Char
  | config | set | includes => none
  | verbose => some 'v'
  | help => some 'h'
  | version => some 'V'
  | template => some 't'
  | file => some 'f'
  | data => some 'd'
  | chain => some 'c'
  | input => some 'i'

def valueKind? : Switch → Option ValueKind
  | verbose | help | version => none
  | config | file | data => some .path
  | template | set | includes | chain | input => some .text

def repeats : Switch → Bool
  | verbose | set | includes => true
  | _ => false

end Switch

def switchesOf : Option Verb → List Switch
  | none => [.config, .verbose, .help, .version]
  | some .render => [.template, .file, .data, .set, .includes, .config, .verbose, .help]
  | some .filter => [.chain, .input, .config, .verbose, .help]
  | some .parse | some .filters => [.config, .verbose, .help]
  | some .help => []

def operandsOf : Option Verb → Nat
  | some .parse => 1
  | _ => 0

inductive UsageFault where
  | unknownWord (word : String)
  | unknownVerb (word : String)
  | valueMissing (s : Switch)
  | valueUnexpected (s : Switch)
  | emptyPath (s : Switch)
  | repeated (s : Switch)
  | verbMissing
  | switchMissing (s : Switch)
  | operandMissing
  | conflict (s t : Switch)
  deriving DecidableEq, Repr

inductive Stop where
  /-- It asks for help on a verb, or on the program. -/
  | help (topic : Option Verb)
  /-- It asks for the version. -/
  | version
  | usage (fault : UsageFault)
  deriving DecidableEq, Repr

structure Given where
  values : List (Switch × String)
  operands : List String
  deriving DecidableEq, Repr

namespace Given

def empty : Given := ⟨[], []⟩

def valuesOf (g : Given) (s : Switch) : List String :=
  (g.values.filter (·.1 == s)).map (·.2)

def value? (g : Given) (s : Switch) : Option String := (g.valuesOf s).head?

/-- Adds an option, whose value is empty if it takes none. -/
def add (g : Given) (topic : Option Verb) (s : Switch) (value : String) : Except Stop Given :=
  if s = .help then .error (.help topic)
  else if s = .version then .error .version
  else if s.valueKind? = some .path ∧ value = "" then .error (.usage (.emptyPath s))
  else if !s.repeats ∧ g.valuesOf s ≠ [] then .error (.usage (.repeated s))
  else .ok { g with values := g.values ++ [(s, value)] }

def addOperand (g : Given) (topic : Option Verb) (word : String) : Except Stop Given :=
  if g.operands.length < operandsOf topic then .ok { g with operands := g.operands ++ [word] }
  else .error (.usage (if topic = none then .unknownVerb word else .unknownWord word))

end Given

/-- Reads the letters of short options; the last of them may wait for its value. -/
def readLetters (topic : Option Verb) : Given → List Char → Except Stop (Given × Option Switch)
  | g, [] => .ok (g, none)
  | g, c :: rest =>
    match (switchesOf topic).find? (·.short? == some c) with
    | none => .error (.usage (.unknownWord ("-" ++ String.singleton c)))
    | some s =>
      if s.valueKind? = none then (g.add topic s "").bind fun g => readLetters topic g rest
      else
        match rest with
        | [] => .ok (g, some s)
        | '=' :: value => (g.add topic s (String.ofList value)).map fun g => (g, none)
        | value => (g.add topic s (String.ofList value)).map fun g => (g, none)

def readLong (topic : Option Verb) (g : Given) (word : List Char) :
    Except Stop (Given × Option Switch) :=
  let name := String.ofList (word.takeWhile (· != '='))
  match (switchesOf topic).find? (·.long == name), word.dropWhile (· != '=') with
  | none, _ => .error (.usage (.unknownWord ("--" ++ name)))
  | some s, [] =>
    if s.valueKind? = none then (g.add topic s "").map fun g => (g, none) else .ok (g, some s)
  | some s, _ :: value =>
    if s.valueKind? = none then .error (.usage (.valueUnexpected s))
    else (g.add topic s (String.ofList value)).map fun g => (g, none)

/-- Whether a word begins as options do. A dash alone does not. -/
def isSwitchWord (word : String) : Bool := word.toList.head? == some '-' && word != "-"

/-- Reads a word that stands before `--` and is not the value of the option before it. -/
def readWord (topic : Option Verb) (g : Given) (word : String) :
    Except Stop (Given × Option Switch) :=
  match word.toList with
  | '-' :: '-' :: rest => readLong topic g rest
  | '-' :: c :: rest => readLetters topic g (c :: rest)
  | _ => (g.addOperand topic word).map fun g => (g, none)

/-- Reads words up to the verb, if one may come; it is given with the words after it. `ended` tells that
`--` has been read. -/
def readWords (topic : Option Verb) (ended : Bool) (g : Given) :
    List String → Except Stop (Given × Option (Verb × List String))
  | [] => .ok (g, none)
  | word :: rest =>
    if ended then (g.addOperand topic word).bind fun g => readWords topic true g rest
    else
      match if topic = none then Verb.ofName? word else none with
      | some verb => .ok (g, some (verb, rest))
      | none =>
        if word = "--" then readWords topic true g rest
        else
          match readWord topic g word with
          | .error stop => .error stop
          | .ok (g, none) => readWords topic false g rest
          | .ok (g, some s) =>
            match rest with
            | [] => .error (.usage (.valueMissing s))
            | value :: more =>
              if isSwitchWord value then .error (.usage (.valueMissing s))
              else (g.add topic s value).bind fun g => readWords topic false g more

end Stencil.CommandLine
