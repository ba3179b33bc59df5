import Stencil.Proofs.Composition
import Stencil.Proofs.SubReference

/-!
# Evaluating tags

The steps in which a tag is evaluated, each under a name of its own: its path is expanded, the resolver is
asked, and then the default and the chain are applied in the order in which they are written.
-/
namespace Stencil.Engine

open Stencil.Text Stencil.Tag

variable (e : Engine) (r : Resolver) (depth : Nat) (deeper : Unit → Level)

theorem expandPath_eq (path : List String) :
    expandPath deeper path = path.mapM fun segment =>
      match inner? segment.toList with
      | some inside => (deeper ()).renderTag ("\x7b" ++ String.ofList inside ++ "\x7d")
      | none => return segment := by
  unfold expandPath
  congr 1
  funext segment
  unfold inner?
  cases segment.toList with
  | nil => rfl
  | cons c rest =>
    by_cases hc : c = '\x60'
    · subst hc
      by_cases hlast : rest.getLast? = some '\x60' <;> simp [hlast]
    · simp [hc]

/-- A path without sub-references stays as it is. -/
theorem expandPath_of_inner?_eq_none {path : List String}
    (h : ∀ segment ∈ path, inner? segment.toList = none) : expandPath deeper path = pure path := by
  rw [expandPath_eq]
  induction path with
  | nil => rfl
  | cons segment path ih =>
    have hsegment := h segment List.mem_cons_self
    have htail := ih fun s hs => h s (List.mem_cons_of_mem segment hs)
    rw [List.mapM_cons, hsegment, htail]
    rfl

def question (sigil : Char) (path : List String) : Run (Option Value) :=
  if sigil = '+' then askTemplate r (".".intercalate path) depth else ask r path depth

def orDefault (x : Expression) : Option Value → Run (Option Value)
  | some v => return some v
  | none => settleOption deeper x.defaultValue?

def throughChain (x : Expression) (v : Option Value) : Run (Option Value) :=
  match x.chain with
  | some chain => e.applyChain deeper chain v
  | none => return v

/-- The default and the chain of a tag, in the order in which they are written. -/
def outputOf (x : Expression) (v : Option Value) : Run (Option Value) :=
  if x.filtersDefault then orDefault deeper x v >>= e.throughChain deeper x
  else e.throughChain deeper x v >>= orDefault deeper x

variable {e} in
theorem outputOf_before {x : Expression} (h : x.filtersDefault = true) (v : Option Value) :
    e.outputOf deeper x v = orDefault deeper x v >>= e.throughChain deeper x := if_pos h

theorem settleOption_none : settleOption deeper none = pure none := rfl

theorem orDefault_bind_settleOption (x : Expression) (v : Option Value) :
    orDefault deeper x v >>= settleOption deeper = settleOption deeper v >>= orDefault deeper x := by
  cases v with
  | none => exact settleOption_settleOption deeper x.defaultValue?
  | some v =>
    have hvalue (w : Value) : orDefault deeper x (some w) = pure (some w) := rfl
    rw [hvalue, pure_bind, settleOption, Option.mapM_some]
    simp [hvalue]

theorem settleOption_some_bind_orDefault (x : Expression) (v : Value) :
    settleOption deeper (some v) >>= orDefault deeper x = settleOption deeper (some v) := by
  rw [← orDefault_bind_settleOption]
  exact pure_bind _ _

theorem orDefault_none {x : Expression} {d : String} (h : x.defaultText = some d) :
    orDefault deeper x none = settleOption deeper (some (referenced d)) := by
  rw [orDefault, Expression.defaultValue?, h]
  rfl

variable {e} in
theorem outputOf_behind {x : Expression} (h : x.filtersDefault = false) (v : Option Value) :
    e.outputOf deeper x v >>= settleOption deeper =
      e.throughChain deeper x v >>= settleOption deeper >>= orDefault deeper x := by
  rw [outputOf, h, if_neg (by decide), bind_assoc, bind_assoc]
  exact bind_congr fun output => orDefault_bind_settleOption deeper x output

theorem evaluateExpression_eq (sigil : Char) (x : Expression) :
    e.evaluateExpression r depth deeper sigil x =
      (do
        let path ← expandPath deeper x.path
        let found ← question r depth sigil path
        let value ← settleOption deeper found
        let output ← e.outputOf deeper x value
        settleOption deeper output) := by
  unfold evaluateExpression question outputOf
  refine bind_congr fun path => ?_
  by_cases hsigil : sigil = '+'
  all_goals
    simp only [hsigil, if_true, if_false]
    refine bind_congr fun found => bind_congr fun value => ?_
    by_cases hplace : x.filtersDefault = true
    · simp only [hplace, if_true, bind_assoc, pure_bind]
      cases value <;> cases hchain : x.chain <;> simp [orDefault, throughChain, hchain]
    · cases hchain : x.chain
      · cases value <;> simp [hplace, orDefault, throughChain, hchain]
      · simp only [hplace, Bool.false_eq_true, if_false, throughChain, hchain, pure_bind, bind_assoc]
        refine bind_congr fun output => ?_
        cases output <;> simp [orDefault]

theorem outcome_ask_bind {α : Type} (path : List String) (f : Option Value → Run α) :
    (ask r path depth >>= f).outcome = (f (r.resolve path depth)).outcome := rfl

/-- What a tag of a value gives, if its path has no sub-references. -/
theorem outcome_evaluateExpression {sigil : Char} (hsigil : sigil ≠ '+') {x : Expression}
    (hx : ∀ segment ∈ x.path, inner? segment.toList = none) :
    (e.evaluateExpression r depth deeper sigil x).outcome =
      (settleOption deeper (r.resolve x.path depth) >>= fun v =>
        e.outputOf deeper x v >>= settleOption deeper).outcome := by
  rw [evaluateExpression_eq, expandPath_of_inner?_eq_none deeper hx, pure_bind, question, if_neg hsigil,
    outcome_ask_bind]

theorem tagBody_braces (s : List Char) :
    tagBody (String.ofList ('\x7b' :: (s ++ ['\x7d']))) = String.ofList s := by
  have htrim : trim ('\x7b' :: (s ++ ['\x7d'])) = '\x7b' :: (s ++ ['\x7d']) := by
    apply trim_of_ends
    · simp [isBlank]
    · rw [← List.cons_append, List.getLast?_concat]
      simp [isBlank]
  unfold tagBody
  rw [String.toList_ofList, htrim]
  dsimp only
  split
  · next rest h =>
    obtain ⟨-, rfl⟩ := List.cons.inj h
    rw [List.getLast?_concat, if_pos rfl, List.dropLast_concat]
  · next h => exact absurd rfl (h _)

theorem outcome_evaluateTag_value {s : List Char}
    (hs : ∀ segment ∈ (Expression.ofChars s).path, inner? segment.toList = none) :
    (e.evaluateTag r (String.ofList ('\x7b' :: ('~' :: s ++ ['\x7d'])))).outcome =
      (settleOption (e.deeper r) (r.resolve (Expression.ofChars s).path 0) >>= fun v =>
        e.outputOf (e.deeper r) (.ofChars s) v >>= settleOption (e.deeper r)).outcome := by
  have hchars : (String.ofList ('~' :: s)).toList = '~' :: s := String.toList_ofList
  have hconditional : isConditional '~' s = false := rfl
  rw [evaluateTag, tagBody_braces, evaluate, hchars, Run.outcome_event_bind]
  dsimp only
  rw [hconditional, if_neg (by decide), evaluatePlain, hchars]
  dsimp only
  rw [if_neg (by decide), if_neg (by decide)]
  exact outcome_evaluateExpression e r 0 (e.deeper r) (by decide) hs

end Stencil.Engine
