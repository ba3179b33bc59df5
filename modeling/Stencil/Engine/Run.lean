import Stencil.Pattern.Directive

/-!
# Runs

What happens while tags are evaluated: the questions put to a resolver and the notices given, in order, and
the outcome.
-/
namespace Stencil

inductive Severity where
  | warn | debug | trace
  deriving DecidableEq, Repr

/-- What may be worth knowing about a run that goes on. -/
inductive Notice where
  | renderDepth (depth bound : Nat)
  | aliasDepth (name : String) (bound : Nat)
  | customFault (name message : String)
  | unknownFilter (name : String)
  | conditional (body tag : String)
  | commandTag (body : String)
  | notArithmetic (expression : String)
  | notBase64
  | badSplit (fault : Pattern.DirectiveFault)
  | badTest (test : String) (fault : Pattern.DirectiveFault)
  deriving DecidableEq, Repr

namespace Notice

def severity : Notice → Severity
  | renderDepth _ _ | aliasDepth _ _ | customFault _ _ | badSplit _ | badTest _ _ => .warn
  | commandTag _ | notArithmetic _ | notBase64 => .debug
  | unknownFilter _ | conditional _ _ => .trace

def message : Notice → String
  | renderDepth depth bound =>
    "render depth " ++ toString depth ++ " exceeds max_depth " ++ toString bound
      ++ ", leaving text unexpanded"
  | aliasDepth name bound => "filter alias '" ++ name ++ "' exceeded max depth " ++ toString bound
  | customFault name message => "custom filter '" ++ name ++ "' failed: " ++ message
  | unknownFilter name => "unknown filter '" ++ name ++ "', passing input through"
  | conditional body tag => "includeIf '" ++ body ++ "' -> '" ++ tag ++ "'"
  | commandTag body => "command tag '" ++ body ++ "' is not handled here"
  | notArithmetic expression => "calc: not a number: '" ++ expression ++ "'"
  | notBase64 => "base64decode: input is not valid base64 text"
  | badSplit fault => "split: " ++ fault.message
  | badTest test fault => "onmatch: skipping test '" ++ test ++ "': " ++ fault.message

end Notice

inductive Event where
  /-- A tag, without braces, is evaluated. -/
  | tag (body : String)
  /-- The resolver is asked for the value at a path. -/
  | resolve (path : List String) (depth : Nat)
  /-- The resolver is asked for a template. -/
  | template (name : String) (depth : Nat)
  | notice (n : Notice)
  deriving DecidableEq, Repr

inductive Abort where
  /-- A text would have more than `2 ^ 63 - 1` bytes. -/
  | capacityOverflow
  deriving DecidableEq, Repr

def Abort.message : Abort → String
  | capacityOverflow => "capacity overflow"

/-- The events of a run and its outcome. -/
structure Run (α : Type) where
  events : List Event
  outcome : Except Abort α

namespace Run

def pure {α : Type} (a : α) : Run α := ⟨[], .ok a⟩

def bind {α β : Type} (r : Run α) (f : α → Run β) : Run β :=
  match r.outcome with
  | .ok a => ⟨r.events ++ (f a).events, (f a).outcome⟩
  | .error e => ⟨r.events, .error e⟩

instance : Monad Run where
  pure := pure
  bind := bind

theorem id_map_run {α : Type} (r : Run α) : id <$> r = r := by
  obtain ⟨events, outcome⟩ := r
  cases outcome <;> simp [Functor.map, bind, pure]

theorem bind_assoc_run {α β γ : Type} (r : Run α) (f : α → Run β) (g : β → Run γ) :
    r >>= f >>= g = r >>= fun a => f a >>= g := by
  obtain ⟨events, outcome⟩ := r
  cases outcome with
  | error e => simp [Bind.bind, bind]
  | ok a => cases h : (f a).outcome <;> simp [Bind.bind, bind, h]

instance : LawfulMonad Run :=
  LawfulMonad.mk' Run id_map_run (fun a f => by simp [Bind.bind, Pure.pure, bind, pure])
    bind_assoc_run

def event (e : Event) : Run Unit := ⟨[e], .ok ()⟩

def notice (n : Notice) : Run Unit := event (.notice n)

def abort {α : Type} (a : Abort) : Run α := ⟨[], .error a⟩

end Run

end Stencil
