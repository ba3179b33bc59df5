import Stencil.CommandLine.Usage

/-!
# Requests

What a command line asks for.
-/
namespace Stencil.CommandLine

inductive Source where
  | inline (text : String)
  | file (path : String)
  deriving DecidableEq, Repr

inductive Command where
  /-- Renders a template over data from a file, with values that are set and templates by name from files;
  both are written with an equals sign. -/
  | render (template : Source) (data : Option String) (sets includes : List String)
  /-- Shows the parts of a tag. -/
  | parse (tag : String)
  /-- Applies a chain to an input. -/
  | filter (chain : String) (input : Option String)
  /-- Lists the stock filters. -/
  | filters
  deriving DecidableEq, Repr

def Command.ofGiven (verb : Verb) (g : Given) : Except Stop Command :=
  match verb with
  | .render =>
    let rest (template : Source) : Command :=
      .render template (g.value? .data) (g.valuesOf .set) (g.valuesOf .includes)
    match g.value? .template, g.value? .file with
    | some text, none => .ok (rest (.inline text))
    | none, some path => .ok (rest (.file path))
    | some _, some _ => .error (.usage (.conflict .template .file))
    | none, none => .error (.usage (.switchMissing .template))
  | .parse =>
    match g.operands with
    | tag :: _ => .ok (.parse tag)
    | [] => .error (.usage .operandMissing)
  | .filter =>
    match g.value? .chain with
    | some chain => .ok (.filter chain (g.value? .input))
    | none => .error (.usage (.switchMissing .chain))
  | .filters => .ok .filters
  | .help => .error (.help none)

structure Request where
  /-- Path of the configuration. -/
  config : Option String
  /-- How much is told about the run. -/
  verbosity : Nat
  command : Command
  deriving DecidableEq, Repr

namespace Request

def configVariable : String := "TAGFILTER_CONFIG"

def helpStop : List String → Stop
  | [] => .help none
  | word :: _ =>
    match Verb.ofName? word with
    | some verb => .help (some verb)
    | none => .usage (.unknownVerb word)

/-- The path of the configuration. The option after the verb comes before the one in front of it, and both
before the variable, which may be empty only where both are given. -/
def configPath (outer inner : Given) (preset : Option String) : Except Stop (Option String) :=
  let outer := outer.value? .config
  let inner := inner.value? .config
  if preset = some "" ∧ (outer = none ∨ inner = none) then .error (.usage (.emptyPath .config))
  else .ok (inner <|> outer <|> preset)

def parse (preset : Option String) (words : List String) : Except Stop Request := do
  let (outer, next) ← readWords none false .empty words
  match next with
  | none => throw (.usage .verbMissing)
  | some (.help, rest) => throw (helpStop rest)
  | some (verb, rest) =>
    let (inner, _) ← readWords (some verb) false .empty rest
    let command ← Command.ofGiven verb inner
    let config ← configPath outer inner preset
    return ⟨config, ((outer.valuesOf .verbose) ++ inner.valuesOf .verbose).length, command⟩

end Request

end Stencil.CommandLine
