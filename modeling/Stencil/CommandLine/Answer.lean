import Stencil.CommandLine.Failure
import Stencil.CommandLine.Help
import Stencil.CommandLine.Request
import Stencil.Configuration.Reader
import Stencil.Engine
import Stencil.Engine.Store
import Stencil.Json.Extended
import Stencil.Tag.Json
import Stencil.Text.Utf8

/-!
# Answering a command line

Requests are carried out in any monad in which files can be read, so that the answers can be told without
a file system.
-/
namespace Stencil.CommandLine

open Stencil.Text

structure Answer where
  status : Nat
  output : String
  /-- What is told besides the output. -/
  remarks : String
  deriving DecidableEq, Repr

/-- How the bytes of a file are found by its path. -/
abbrev Files (m : Type → Type) := String → m (Except FileFault (List UInt8))

variable {m : Type → Type} [Monad m]

def readText (files : Files m) (path : String) : m (Except FileFault String) := do
  match ← files path with
  | .error fault => return .error fault
  | .ok bytes =>
    match ofUtf8? bytes with
    | some s => return .ok (String.ofList s)
    | none => return .error .notText

def needText (files : Files m) (path : String) (failure : FileFault → Failure) :
    ExceptT Failure m String :=
  ExceptT.mk ((·.mapError failure) <$> readText files path)

def loadConfiguration (files : Files m) : Option String → ExceptT Failure m Configuration
  | none => return .standard
  | some path => do
    match Configuration.parse? (← needText files path (.configFile path)) with
    | some c => return c
    | none => throw (.configSyntax path)

def loadData (files : Files m) : Option String → ExceptT Failure m Store
  | none => return .empty
  | some path => do
    match Json.Extended.parse? (← needText files path (.dataFile path)) with
    | some json => return .ofJson json
    | none => throw (.dataSyntax path)

def splitPair (s : Switch) (pair : String) : ExceptT Failure m (String × String) :=
  let cs := pair.toList
  match cs.dropWhile (· != '=') with
  | [] => throw (.noPair s pair)
  | _ :: value => return (String.ofList (cs.takeWhile (· != '=')), String.ofList value)

def setValue (store : Store) (pair : String) : ExceptT Failure m Store := do
  let (key, value) ← splitPair .set pair
  return store.set key (.text value)

def addTemplate (files : Files m) (store : Store) (pair : String) : ExceptT Failure m Store := do
  let (name, path) ← splitPair .includes pair
  return store.setTemplate name (← needText files path (.includeFile path))

/-- The text of a tag as it is typed, in which braces and sigil may be missing. -/
def typedTag (tag : String) : String :=
  let s := trim tag.toList
  let body := match s with
    | '\x7b' :: rest => if rest.getLast? = some '\x7d' then rest.dropLast else s
    | _ => s
  String.ofList (match body with
    | c :: rest => if c = '~' ∨ c = '$' then rest else body
    | [] => [])

def execute (files : Files m) (engine : Engine) : Command → ExceptT Failure m (Run String)
  | .render template data sets includes => do
    let text ← match template with
      | .inline text => pure text
      | .file path => needText files path (.templateFile path)
    let store ← loadData files data
    let store ← sets.foldlM setValue store
    let store ← includes.foldlM (addTemplate files) store
    return engine.render store.resolver text
  | .parse tag =>
    return pure ((Tag.Expression.parse (typedTag tag)).toJson.pretty 0 ++ "\n")
  | .filter chain input =>
    return (Value.displayOr · ++ "\n")
      <$> engine.evaluateChain Store.empty.resolver chain (input.map .text)
  | .filters => return pure (String.join (Stock.sortedNames.map (· ++ "\n")))

def isTold (verbosity : Nat) (n : Notice) : Bool :=
  match n.severity with
  | .warn => true
  | .debug => 2 ≤ verbosity
  | .trace => 3 ≤ verbosity

def remarksOf (verbosity : Nat) (events : List Event) : String :=
  String.join (events.map fun
    | .notice n => if isTold verbosity n then n.message ++ "\n" else ""
    | _ => "")

namespace Answer

def ofStop : Stop → Answer
  | .help topic => ⟨0, helpText topic, ""⟩
  | .version => ⟨0, versionText, ""⟩
  | .usage fault => ⟨2, "", "error: " ++ fault.message ++ "\n"⟩

def ofFailure (f : Failure) : Answer := ⟨1, "", "error: " ++ f.message ++ "\n"⟩

def ofRun (verbosity : Nat) (r : Run String) : Answer :=
  let remarks := remarksOf verbosity r.events
  match r.outcome with
  | .ok output => ⟨0, output, remarks⟩
  | .error abort => ⟨101, "", remarks ++ abort.message ++ "\n"⟩

end Answer

def perform (files : Files m) (request : Request) : ExceptT Failure m (Run String) := do
  let configuration ← loadConfiguration files request.config
  execute files (.ofConfiguration configuration) request.command

/-- Answers the words of a command line; `preset` is the value of the environment variable. -/
def answer (files : Files m) (preset : Option String) (words : List String) : m Answer :=
  match Request.parse preset words with
  | .error stop => return .ofStop stop
  | .ok request => do
    match ← (perform files request).run with
    | .ok run => return .ofRun request.verbosity run
    | .error failure => return .ofFailure failure

end Stencil.CommandLine
