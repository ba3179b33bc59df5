import Stencil.Configuration
import Stencil.Engine.Piece
import Stencil.Engine.Resolver
import Stencil.Engine.Run
import Stencil.Filter.Apply
import Stencil.Filter.Registry
import Stencil.Tag.Condition

/-!
# The engine

Tags are evaluated by asking a resolver, and templates are rendered by evaluating their tags. Templates that
values stand for, and chains that aliases stand for, are one level deeper than the tag that leads to them.
The levels are bounded: `Level` holds what the engine can do at one level, and `level` builds each level from
the next deeper one.
-/
namespace Stencil

open Stencil.Tag

structure Engine where
  configuration : Configuration
  registry : Registry

namespace Engine

def ofConfiguration (c : Configuration) : Engine := ⟨c, .ofAliases c.filters⟩

def standard : Engine := ofConfiguration .standard

def register (e : Engine) (name : String) (f : CustomFilter) : Engine :=
  { e with registry := e.registry.register name f }

def addAlias (e : Engine) (name chain : String) : Engine :=
  { e with registry := e.registry.addAlias name chain }

/-- What the engine does at one level: it renders templates and tags, and applies chains, which it cannot
beyond the bound. -/
structure Level where
  render : String → Run String
  renderTag : String → Run String
  chain? : Option (String → Option Value → Run (Option Value))

/-- Renders a snippet one level deeper; other values stay as they are. -/
def settle (deeper : Unit → Level) : Value → Run Value
  | .snippet template => .text <$> (deeper ()).render template
  | v => return v

def settleOption (deeper : Unit → Level) (v : Option Value) : Run (Option Value) :=
  v.mapM (settle deeper)

/-- Applies one filter. Custom filters come before aliases, and these before stock filters; an unknown name
and a filter that fails change nothing. -/
def applyFilter (e : Engine) (deeper : Unit → Level) (input : Option Value) (filter : String) :
    Run (Option Value) :=
  let call := Invocation.parse filter
  let name := Unicode.lowercase call.name
  match Table.get? name e.registry.custom with
  | some f =>
    match f input call.callArguments with
    | .ok output => return output
    | .error message => do
      .notice (.customFault call.name message)
      return input
  | none =>
    match Table.get? name e.registry.aliases with
    | some chain =>
      match (deeper ()).chain? with
      | some apply => apply chain input
      | none => do
        .notice (.aliasDepth name e.configuration.maxDepth)
        return input
    | none =>
      match Stock.ofName? name with
      | some f => f.apply (settle deeper) input call
      | none => do
        .notice (.unknownFilter call.name)
        return input

/-- Applies the filters of a chain from left to right, and renders what they produce. -/
def applyChain (e : Engine) (deeper : Unit → Level) (chain : String) (input : Option Value) :
    Run (Option Value) :=
  ((filters chain).filter (· ≠ "")).foldlM
    (fun v filter => do settleOption deeper (← e.applyFilter deeper v filter)) input

def expandPath (deeper : Unit → Level) (path : List String) : Run (List String) :=
  path.mapM fun segment =>
    match segment.toList with
    | '\x60' :: rest =>
      if rest.getLast? = some '\x60' then
        (deeper ()).renderTag ("\x7b" ++ String.ofList rest.dropLast ++ "\x7d")
      else return segment
    | _ => return segment

def ask (r : Resolver) (path : List String) (depth : Nat) : Run (Option Value) := do
  .event (.resolve path depth)
  return r.resolve path depth

def askTemplate (r : Resolver) (name : String) (depth : Nat) : Run (Option Value) := do
  .event (.template name depth)
  return r.template name depth

/-- Evaluates a tag that names a value or a template. A default that is written before the chain takes the
place of a missing value before the filters, any other after them. -/
def evaluateExpression (e : Engine) (r : Resolver) (depth : Nat) (deeper : Unit → Level)
    (sigil : Char) (x : Expression) : Run (Option Value) := do
  let path ← expandPath deeper x.path
  let found ←
    if sigil = '+' then askTemplate r (".".intercalate path) depth else ask r path depth
  let value ← settleOption deeper found
  let default_ (v : Option Value) : Run (Option Value) :=
    match v with
    | some v => return some v
    | none => settleOption deeper x.defaultValue?
  let seed ← if x.filtersDefault then default_ value else pure value
  let output ← match x.chain with
    | some chain => e.applyChain deeper chain seed
    | none => pure seed
  settleOption deeper (← if x.filtersDefault then pure output else default_ output)

/-- The tag that a conditional include stands for, or the remark that takes its place. The name that the
condition compares with is looked up. -/
def conditionalTag (r : Resolver) (depth : Nat) (deeper : Unit → Level) (body : String) :
    Run (Except ConditionError String) :=
  match ConditionalInclude.parse body with
  | .error fault => return .error fault
  | .ok include_ =>
    match include_.comparesWith? with
    | none => return .ok (include_.tag "")
    | some name => do
      let path := (Text.splitAll ['.'] name.toList).map String.ofList
      let current ← settleOption deeper (← ask r path depth)
      return .ok (include_.tag (Value.displayOr current))

/-- Evaluates a tag that is no conditional include. Command tags have no meaning of their own and give an
empty text. -/
def evaluatePlain (e : Engine) (r : Resolver) (depth : Nat) (deeper : Unit → Level)
    (body : String) : Run (Option Value) :=
  match body.toList with
  | [] => return none
  | sigil :: rest => do
    if !isSigil sigil then return none
    else if sigil = '.' ∨ sigil = '^' then
      .notice (.commandTag body)
      return some (.text "")
    else e.evaluateExpression r depth deeper sigil (.ofChars rest)

def evaluate (e : Engine) (r : Resolver) (depth : Nat) (deeper : Unit → Level) (body : String) :
    Run (Option Value) := do
  .event (.tag body)
  match body.toList with
  | [] => return none
  | sigil :: rest =>
    if isConditional sigil rest then
      let text := String.ofList rest
      match ← conditionalTag r depth deeper text with
      | .error fault => return some (.text fault.annotation)
      | .ok tag =>
        .notice (.conditional text tag)
        e.evaluatePlain r depth deeper tag
    else e.evaluatePlain r depth deeper body

/-- Renders a tag with its braces. A tag without a value stays as it is written, or vanishes. -/
def renderTagAt (e : Engine) (r : Resolver) (depth : Nat) (deeper : Unit → Level) (tag : String) :
    Run String := do
  let body := tagBody tag
  if !body.toList.head?.any isSigil then return tag
  else
    match ← e.evaluate r depth deeper body with
    | some v => return v.display
    | none => return if e.configuration.keepUndefined then tag else ""

/-- Renders a template by rendering its tags. What a tag stands for is not read again. -/
def renderAt (e : Engine) (r : Resolver) (depth : Nat) (deeper : Unit → Level)
    (template : String) : Run String := do
  let parts ← (Piece.pieces template.toList).mapM fun
    | .text s => return String.ofList s
    | .tag s => e.renderTagAt r depth deeper (String.ofList s)
  return String.join parts

/-- Beyond the bound a template is left as it is. -/
def unexpanded (e : Engine) (depth : Nat) (template : String) : Run String := do
  .notice (.renderDepth depth e.configuration.maxDepth)
  return template

/-- Renders a tag beyond the bound. Only the sub-references in its path lead deeper, and these are shorter
than the tag, so that `length` of them nest. -/
def renderTagBeyond (e : Engine) (r : Resolver) : Nat → Nat → String → Run String
  | 0, _, tag => return tag
  | length + 1, depth, tag =>
    e.renderTagAt r depth
      (fun _ => ⟨e.unexpanded (depth + 1), e.renderTagBeyond r length (depth + 1), none⟩) tag

def beyond (e : Engine) (r : Resolver) (depth : Nat) : Level where
  render := e.unexpanded depth
  renderTag tag := e.renderTagBeyond r (tag.length + 1) depth tag
  chain? := none

/-- The level at a depth, from which `room` levels are left down to the bound. -/
def level (e : Engine) (r : Resolver) : Nat → Nat → Level
  | 0, depth => e.beyond r depth
  | room + 1, depth =>
    let deeper := fun _ => e.level r room (depth + 1)
    { render := e.renderAt r depth deeper
      renderTag := e.renderTagAt r depth deeper
      chain? := some (e.applyChain deeper) }

def deeper (e : Engine) (r : Resolver) : Unit → Level :=
  fun _ => e.level r e.configuration.maxDepth 1

def render (e : Engine) (r : Resolver) (template : String) : Run String :=
  e.renderAt r 0 (e.deeper r) template

def renderTag (e : Engine) (r : Resolver) (tag : String) : Run String :=
  e.renderTagAt r 0 (e.deeper r) tag

def evaluateTag (e : Engine) (r : Resolver) (tag : String) : Run (Option Value) :=
  e.evaluate r 0 (e.deeper r) (tagBody tag)

def evaluateChain (e : Engine) (r : Resolver) (chain : String) (input : Option Value) :
    Run (Option Value) := do
  settleOption (e.deeper r) (← e.applyChain (e.deeper r) chain input)

end Engine

end Stencil
