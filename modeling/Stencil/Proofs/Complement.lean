import Stencil.Proofs.Equality
import Stencil.Proofs.StockCall

/-!
# Conditions and their negations

A conditional include and the one with the negated condition are complements: one includes its template and
the other gives the empty text. The positive and the negative form of a condition stand for different tags,
but both come down to the same question about the same value.
-/
namespace Stencil

open Stencil.Text Stencil.Tag Stencil.Tag.Grammar

inductive Question where
  | defined (n : PathName)
  | text (n : PathName) (q : Quoted)
  | name (n m : PathName)
  | pattern (n : PathName) (test : Test)

namespace Question

/-- The text of a condition, or of its negation. -/
def print (negated : Bool) : Question → List Char
  | defined n => (if negated then '!' else '~') :: n.text.toList
  | text n q => compared (equality negated) n ('"' :: (q.chars ++ ['"']))
  | name n m => compared (equality negated) n ('~' :: m.text.toList)
  | pattern n test => compared (search negated) n test.print

def condition (negated : Bool) : Question → Condition
  | defined n => if negated then .undefined n.text else .defined n.text
  | text n q => .equals negated n.text (String.ofList q.chars)
  | name n m => .same negated n.text m.text
  | pattern n test => .matchesRegex negated n.text (String.ofList test.print)

/-- The tag that includes a template under a condition, or under its negation. -/
def tag (q : Question) (negated : Bool) (t : TemplateName) : String :=
  "\x7b+(" ++ String.ofList (q.print negated) ++ ")" ++ t.text ++ "\x7d"

def Closes (t : TemplateName) : Question → Prop
  | pattern n test =>
    closingParen true ((pattern n test).print false ++ ')' :: t.chars) =
      some ((pattern n test).print false, t.chars)
  | _ => True

theorem parse_pattern (negated : Bool) (n : PathName) (test : Test) :
    Condition.parse (compared (search negated) n test.print) =
      .ok (.matchesRegex negated n.text (String.ofList test.print)) := by
  have hcut := test.pattern.guarded.cut test.flags.chars
  rw [parse_compared, test.trim_print]
  have hslash : test.print = '/' :: (test.pattern.chars ++ '/' :: test.flags.chars) := rfl
  rw [hslash]
  cases negated <;> simp [search, hcut, Comparison.isNegated]

theorem parse_print (negated : Bool) (q : Question) :
    Condition.parse (q.print negated) = .ok (q.condition negated) := by
  cases q with
  | defined n => exact parse_presence n.isAccepted negated
  | text n q => exact parse_quoted negated n q
  | name n m => exact parse_names negated n m
  | pattern n test => exact parse_pattern negated n test

theorem trim_print (negated : Bool) (q : Question) : trim (q.print negated) = q.print negated := by
  cases q with
  | defined n => exact trim_presence n.isAccepted negated
  | text n q => exact trim_compared_quoted _ n q
  | name n m => exact trim_compared_sigil _ n m
  | pattern n test =>
    refine trim_compared _ n (by simp [Test.print]) ?_
    have hlast := getLast_of_trimEnd (trimEnd_of_trim test.trim_print)
    exact hlast

theorem closingParen_print {q : Question} {t : TemplateName} (hq : q.Closes t) (negated : Bool) :
    closingParen true (q.print negated ++ ')' :: t.chars) = some (q.print negated, t.chars) := by
  cases q with
  | defined n => exact closingParen_presence n.isAccepted negated t.chars
  | text n q =>
    rw [print, compared_append, closingParen_compared, closingParen_quoted_end]
    rfl
  | name n m =>
    rw [print, compared_append, closingParen_compared, closingParen_sigil_end]
    rfl
  | pattern n test =>
    -- the operator is passed alike in both forms
    have hinside : closingParen false (test.print ++ ')' :: t.chars) = some (test.print, t.chars) := by
      rw [Closes, print, compared_append, closingParen_compared] at hq
      obtain ⟨⟨i, a⟩, h, hEq⟩ := Option.map_eq_some_iff.mp hq
      obtain ⟨hi, rfl⟩ := Prod.mk.inj hEq
      have hright : i = test.print := by simpa [compared] using hi
      rw [h, hright]
    rw [print, compared_append, closingParen_compared, hinside]
    rfl

theorem parse_written_print {q : Question} {t : TemplateName} (hq : q.Closes t) (negated : Bool) :
    ConditionalInclude.parse (String.ofList (written (q.print negated) t)) =
      .ok ⟨q.condition negated, t.text⟩ :=
  parse_written_condition t (q.trim_print negated) (closingParen_print hq negated) (q.parse_print negated)

end Question

theorem callArguments_plain (p : Plain) :
    Tag.callArguments ('(' :: (p.chars ++ [')'])) = [String.ofList p.chars] := by
  have h := callArguments_plains (List.cons_ne_nil p []) (by simp [maxArguments])
  rwa [List.map_singleton, commas_singleton] at h

def onDefinedName : Name := ⟨"ondefined".toList, by decide, List.all_eq_true.mp (by decide)⟩

theorem not_prefix_onDefined : ¬"onmatch".toList <+: "ondefined".toList := by decide

def onDefinedCall (output : Plain) : Grammar.Filter := .call onDefinedName not_prefix_onDefined [.plain output]

theorem print_onDefinedCall (output : Plain) :
    (onDefinedCall output).print = "ondefined".toList ++ '(' :: (output.chars ++ [')']) := by
  have h := print_call onDefinedName not_prefix_onDefined [.plain output]
  rw [List.map_singleton, commas_singleton] at h
  exact h

theorem parse_onDefinedCall (output : Plain) :
    (Invocation.parse (onDefinedCall output).text).name = "ondefined" ∧
    (Invocation.parse (onDefinedCall output).text).callArguments = [String.ofList output.chars] := by
  have htrim := Tag.trim_print (onDefinedCall output)
  rw [print_onDefinedCall] at htrim
  have hcall := Invocation.ofChars_call htrim (List.all_eq_true.mp (by decide))
  rw [Invocation.parse, Grammar.toList_text, print_onDefinedCall]
  exact ⟨hcall.1, hcall.2.trans (callArguments_plain output)⟩

theorem referenced_outputWhen (t : TemplateName) (included : Bool) :
    referenced (String.ofList (t.outputWhen included).chars) =
      if included then .snippet ("\x7b+" ++ t.text ++ "\x7d") else .text "" := by
  cases included with
  | true => exact Engine.referenced_output t
  | false => rfl

namespace Engine

variable {e : Engine} (r : Resolver) (deeper : Unit → Level)

theorem settleOption_outputWhen (t : TemplateName) (included : Bool) :
    settleOption deeper (some (referenced (String.ofList (t.outputWhen included).chars))) =
      includeWhen deeper t included := by
  rw [includeWhen, referenced_outputWhen]

theorem filterStep_onDefined (he : e.LeavesStock "ondefined") (output : Plain) (v : Option Value) :
    e.filterStep deeper v (onDefinedCall output).text =
      settleOption deeper ((Filter.filled? v).map fun _ => referenced (String.ofList output.chars)) := by
  obtain ⟨hcall, harguments⟩ := parse_onDefinedCall output
  have hname : Unicode.lowercase (Invocation.parse (onDefinedCall output).text).name = "ondefined" := by
    rw [hcall]
    decide
  have hknown : Stock.ofName? "ondefined" = some .onDefined := by decide
  have happly : e.applyFilter deeper v (onDefinedCall output).text =
      pure ((Filter.filled? v).map fun _ => referenced (String.ofList output.chars)) := by
    rw [applyFilter_of_leavesStock deeper he hname hknown, Stock.apply, Filter.firstArgument,
      Invocation.argument?, harguments]
    rfl
  rw [filterStep, happly, pure_bind]

theorem outcome_evaluatePlain_presence (he : e.LeavesStock "ondefined") {name : String}
    (hname : Accepted name) (output : Plain) (fallback : List Char) (depth : ℕ) {tag : String}
    (htag : tag.toList =
      '~' :: (name.toList ++ '|' :: ((onDefinedCall output).print ++ ':' :: fallback))) :
    (e.evaluatePlain r depth deeper tag).outcome =
      (settleOption deeper (r.resolve (Expression.segmentsOf name.toList) depth) >>= fun v =>
        settleOption deeper (some (referenced (String.ofList
          (if (Filter.filled? v).isSome then output.chars else fallback))))).outcome := by
  have hread := ofChars_pipe hname.isInert ((onDefinedCall output).print ++ ':' :: fallback)
  rw [(readable_print _).splitDefault_colon, hname.trim_eq, chainOf_print] at hread
  unfold evaluatePlain
  rw [htag]
  dsimp only
  rw [if_neg (by decide), if_neg (by decide), outcome_evaluateExpression e r depth deeper (by decide)]
  · rw [congrArg Expression.path hread]
    refine Run.outcome_bind_congr fun v => ?_
    have hstep : e.throughChain deeper
        (.ofChars (name.toList ++ '|' :: ((onDefinedCall output).print ++ ':' :: fallback))) v =
          e.filterStep deeper v (onDefinedCall output).text := by
      rw [throughChain, congrArg Expression.chain hread]
      exact applyChain_text e deeper _ v
    rw [outputOf_behind deeper (congrArg Expression.filtersDefault hread), hstep,
      filterStep_bind_settleOption, filterStep_onDefined deeper he]
    cases Filter.filled? v with
    | none =>
      rw [Option.map_none, settleOption_none, pure_bind,
        orDefault_none deeper (congrArg Expression.defaultText hread)]
      rfl
    | some w =>
      rw [Option.map_some, settleOption_some_bind_orDefault]
      rfl
  · rw [hread]
    exact hname.inner?_eq_none

theorem outcome_evaluatePlain_defined (he : e.LeavesStock "ondefined") (negated : Bool) (n : PathName)
    (t : TemplateName) (depth : ℕ) {tag : String}
    (htag : tag.toList = '~' :: (n.text.toList ++
      '|' :: ((onDefinedCall (t.outputWhen !negated)).print ++ ':' :: (t.outputWhen negated).chars))) :
    (e.evaluatePlain r depth deeper tag).outcome =
      (settleOption deeper (r.resolve (Store.keyPath n.text) depth) >>= fun v =>
        includeWhen deeper t ((Filter.filled? v).isSome != negated)).outcome := by
  rw [outcome_evaluatePlain_presence r deeper he n.isAccepted _ _ depth htag, segmentsOf_name]
  refine Run.outcome_bind_congr fun v => ?_
  rw [← settleOption_outputWhen]
  cases (Filter.filled? v).isSome <;> cases negated <;> rfl

theorem argumentFinds_print (test : Test) : argumentFinds (String.ofList test.print) = test.finds := by
  funext s
  rw [argumentFinds, patternOf_print, Test.finds]

/-- A test that does not compile finds no match, so that the negated form includes the template. -/
theorem outcome_filterStep_testFilter (he : e.HasStockOnMatch) (negated : Bool) (test : Test)
    (t : TemplateName) (v : Option Value) :
    (e.filterStep deeper v (testFilter negated test t).text).outcome =
      (includeWhen deeper t (v.any (fun v => test.finds v.display.toList) != negated)).outcome := by
  have hitems : splitBare (commas (branchItems [⟨test, t.outputWhen !negated⟩])) =
      [String.ofList test.print, String.ofList (t.outputWhen !negated).chars] := by
    rw [splitBare_branches (by simp), if_pos (by simp)]
    rfl
  have hmatch : (Filter.firstMatch (v.map fun v => v.display.toList)
      [String.ofList test.print, String.ofList (t.outputWhen !negated).chars, fallbackMark,
        String.ofList (t.outputWhen negated).chars]).outcome =
      .ok (referenced (String.ofList
        (t.outputWhen (v.any (fun v => test.finds v.display.toList) != negated)).chars)) := by
    rw [outcome_firstMatch_cons _ (ne_fallbackMark rfl), argumentFinds_print, Option.any_map,
      List.headD_cons, List.drop_one, List.tail_cons, firstMatch_fallback, Run.outcome_pure]
    cases v.any fun v => test.finds v.display.toList <;> cases negated <;> rfl
  rw [filterStep, testFilter, applyFilter_onMatch he, hitems, Run.outcome_bind, map_eq_pure_bind,
    Run.outcome_bind]
  simp only [List.cons_append, List.nil_append, hmatch]
  rw [← settleOption_outputWhen]
  rfl

theorem outcome_evaluatePlain_test (he : e.HasStockOnMatch) (negated : Bool) (n : PathName)
    {literal : String} {test : Test} (hliteral : literal.toList = test.print) (t : TemplateName)
    (depth : ℕ) :
    (e.evaluatePlain r depth deeper
      (ConditionalInclude.matchTag negated n.text literal ("+" ++ t.text))).outcome =
        (settleOption deeper (r.resolve (Store.keyPath n.text) depth) >>= fun v =>
          includeWhen deeper t (v.any (fun v => test.finds v.display.toList) != negated)).outcome := by
  unfold evaluatePlain
  rw [toList_testTag negated n.text hliteral]
  dsimp only
  rw [if_neg (by decide), if_neg (by decide), evaluateExpression_filter, bind_assoc, outcome_ask_bind]
  exact Run.outcome_bind_congr fun v => outcome_filterStep_testFilter deeper he negated test t v

/-- What holds of the values that a condition asks about. -/
def holds : Question → Run Bool
  | .defined n => do
    let v ← settleOption deeper (r.resolve (Store.keyPath n.text) 0)
    return (Filter.filled? v).isSome
  | .text n q => do
    let v ← settleOption deeper (r.resolve (Store.keyPath n.text) 0)
    return v.any fun v => (exactTest q.chars).finds v.display.toList
  | .name n m => do
    let current ← settleOption deeper (r.resolve (Store.keyPath n.text) 0)
    let v ← settleOption deeper (r.resolve (Store.keyPath m.text) 0)
    return v.any fun v => (exactTest (Value.displayOr current).toList).finds v.display.toList
  | .pattern n test => do
    let v ← settleOption deeper (r.resolve (Store.keyPath n.text) 0)
    return v.any fun v => test.finds v.display.toList

theorem outcome_evaluateTag_question (hmatch : e.HasStockOnMatch) (hdefined : e.LeavesStock "ondefined")
    {q : Question} {t : TemplateName} (hq : q.Closes t) (negated : Bool) :
    (e.evaluateTag r (q.tag negated t)).outcome =
      (holds r (e.deeper r) q >>= fun b => includeWhen (e.deeper r) t (b != negated)).outcome := by
  have htag : q.tag negated t =
      String.ofList ('\x7b' :: ('+' :: written (q.print negated) t ++ ['\x7d'])) := by
    rw [← String.toList_inj]
    simp [Question.tag, written, Segment.text]
  rw [htag, evaluateTag, tagBody_braces, evaluate_written, conditionalTag, Question.parse_written_print hq]
  cases q with
  | defined n =>
    have htag : (ConditionalInclude.tag ⟨(Question.defined n).condition negated, t.text⟩ "").toList =
        '~' :: (n.text.toList ++ '|' :: ((onDefinedCall (t.outputWhen !negated)).print ++
          ':' :: (t.outputWhen negated).chars)) := by
      rw [print_onDefinedCall]
      cases negated <;>
        simp [Question.condition, ConditionalInclude.tag, TemplateName.outputWhen, TemplateName.output,
          nothing, Segment.text]
    have hplain :
        ConditionalInclude.comparesWith? ⟨(Question.defined n).condition negated, t.text⟩ = none := by
      cases negated <;> rfl
    simp only [hplain, pure_bind]
    rw [outcome_evaluatePlain_defined r _ hdefined negated n t 0 htag, holds, bind_assoc]
    simp only [pure_bind]
  | text n q =>
    have hliteral : (exactly (String.ofList q.chars)).toList = (exactTest q.chars).print := by
      rw [toList_exactly, String.toList_ofList]
    have h := outcome_evaluatePlain_test r (e.deeper r) hmatch negated n hliteral t 0
    simp only [Question.condition, ConditionalInclude.comparesWith?, ConditionalInclude.tag, pure_bind, holds,
      bind_assoc]
    exact h
  | name n m =>
    simp only [Question.condition, ConditionalInclude.comparesWith?, ConditionalInclude.tag, pure_bind, holds,
      bind_assoc]
    rw [outcome_ask_bind]
    refine Run.outcome_bind_congr fun current => ?_
    exact outcome_evaluatePlain_test r (e.deeper r) hmatch negated m (toList_exactly _) t 0
  | pattern n test =>
    have h := outcome_evaluatePlain_test r (e.deeper r) hmatch negated n
      (String.toList_ofList (l := test.print)) t 0
    simp only [Question.condition, ConditionalInclude.comparesWith?, ConditionalInclude.tag, pure_bind, holds,
      bind_assoc]
    exact h

theorem includeWhen_true (t : TemplateName) :
    includeWhen deeper t true = settleOption deeper (some (.snippet ("\x7b+" ++ t.text ++ "\x7d"))) := rfl

/-- Of a conditional include and the one with the negated condition, one gives its template, rendered, and the
other the empty text. A value that cannot be rendered ends both. -/
theorem evaluateTag_complement (hmatch : e.HasStockOnMatch) (hdefined : e.LeavesStock "ondefined")
    {q : Question} {t : TemplateName} (hq : q.Closes t) :
    match (holds r (e.deeper r) q).outcome with
    | .ok true =>
      (e.evaluateTag r (q.tag false t)).outcome =
        (settleOption (e.deeper r) (some (.snippet ("\x7b+" ++ t.text ++ "\x7d")))).outcome ∧
      (e.evaluateTag r (q.tag true t)).outcome = .ok (some (.text ""))
    | .ok false =>
      (e.evaluateTag r (q.tag false t)).outcome = .ok (some (.text "")) ∧
      (e.evaluateTag r (q.tag true t)).outcome =
        (settleOption (e.deeper r) (some (.snippet ("\x7b+" ++ t.text ++ "\x7d")))).outcome
    | .error abort =>
      (e.evaluateTag r (q.tag false t)).outcome = .error abort ∧
      (e.evaluateTag r (q.tag true t)).outcome = .error abort := by
  have hpositive := outcome_evaluateTag_question r hmatch hdefined hq false
  have hnegative := outcome_evaluateTag_question r hmatch hdefined hq true
  rw [Run.outcome_bind] at hpositive hnegative
  cases hholds : (holds r (e.deeper r) q).outcome with
  | error abort =>
    rw [hholds] at hpositive hnegative
    exact ⟨hpositive, hnegative⟩
  | ok b =>
    rw [hholds] at hpositive hnegative
    cases b with
    | true =>
      rw [← includeWhen_true]
      exact ⟨hpositive, hnegative⟩
    | false =>
      rw [← includeWhen_true]
      exact ⟨hpositive, hnegative⟩

def nameX : PathName := ⟨"x", by decide, by decide⟩

def templateT : TemplateName where
  chars := ['t']
  nonempty := by decide
  valid := List.all_eq_true.mp (by decide)
  start := by
    rintro _ ⟨⟩
    decide

def letterZ : Test := ⟨⟨['z'], by decide⟩, .none⟩

theorem closes_letterZ : (Question.pattern nameX letterZ).Closes templateT := by
  have hplain : ∀ c ∈ letterZ.print, isPlain c = true := List.all_eq_true.mp (by decide)
  rw [Question.Closes, Question.print, compared_append, closingParen_compared,
    closingParen_plain_inside hplain, closingParen_end]
  simp

theorem evaluateTag_complement_letter :
    (standard.evaluateTag silent "\x7b+(~x =~ /z/)t\x7d").outcome = .ok (some (.text "")) ∧
    (standard.evaluateTag silent "\x7b+(~x !~ /z/)t\x7d").outcome =
      (settleOption (standard.deeper silent) (some (.snippet "\x7b+t\x7d"))).outcome ∧
    (standard.evaluateTag (everywhere "a.b") "\x7b+(~x)t\x7d").outcome =
      (settleOption (standard.deeper (everywhere "a.b")) (some (.snippet "\x7b+t\x7d"))).outcome ∧
    (standard.evaluateTag (everywhere "a.b") "\x7b+(!x)t\x7d").outcome = .ok (some (.text "")) := by
  have hmatch : standard.HasStockOnMatch := ⟨rfl, rfl⟩
  have hdefined : standard.LeavesStock "ondefined" := ⟨rfl, rfl⟩
  have habsent := evaluateTag_complement silent hmatch hdefined closes_letterZ
  have hthere := evaluateTag_complement (everywhere "a.b") hmatch hdefined
    (q := .defined nameX) (t := templateT) trivial
  have hpattern (negated : Bool) : (Question.pattern nameX letterZ).tag negated templateT =
      "\x7b+(~x " ++ (search negated).symbol ++ " /z/)t\x7d" := by
    cases negated <;> decide
  have hname (negated : Bool) : (Question.defined nameX).tag negated templateT =
      if negated then "\x7b+(!x)t\x7d" else "\x7b+(~x)t\x7d" := by
    cases negated <;> decide
  rw [hpattern, hpattern] at habsent
  rw [hname, hname] at hthere
  exact ⟨habsent.1, habsent.2, hthere.1, hthere.2⟩

end Engine

end Stencil
