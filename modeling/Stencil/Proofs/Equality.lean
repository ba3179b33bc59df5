import Stencil.Engine.Store
import Stencil.Proofs.Evaluation
import Stencil.Proofs.FirstMatch

/-!
# Conditions that compare texts

A conditional include whose condition compares a name with a quoted text, or with another name, includes its
template exactly when the texts are equal.
-/
namespace Stencil

open Stencil.Text Stencil.Tag Stencil.Tag.Grammar

theorem splitAll_dot (s : List Char) :
    splitAll ['.'] s =
      match breakAt? ['.'] s with
      | none => [s]
      | some (before, after) => before :: splitAll ['.'] after :=
  splitAll_eq (by simp) s

/-- Without sub-references a path is split at all of its dots. -/
theorem splitDots_eq_splitAll {s : List Char} (h : '\x60' ∉ s) :
    (Expression.splitDots s).1 :: (Expression.splitDots s).2 = splitAll ['.'] s := by
  induction s with
  | nil =>
    rw [Expression.splitDots, splitAll_dot]
    rfl
  | cons c s ih =>
    simp only [List.mem_cons, not_or] at h
    have hsplit := ih h.2
    rw [Expression.splitDots, splitAll_dot, breakAt?, dropStart?]
    by_cases hc : c = '.'
    · rw [if_pos hc, if_pos hc.symm]
      exact congrArg (List.cons []) hsplit
    · rw [if_neg hc, if_neg (Ne.symm h.1), if_neg (Ne.symm hc)]
      dsimp only
      rw [splitAll_dot] at hsplit
      cases hs : breakAt? ['.'] s with
      | none =>
        rw [hs] at hsplit
        obtain ⟨hfirst, hrest⟩ := List.cons.inj hsplit
        rw [hfirst, hrest]
        rfl
      | some parts =>
        rw [hs] at hsplit
        obtain ⟨hfirst, hrest⟩ := List.cons.inj hsplit
        rw [hfirst, hrest]
        rfl

theorem segmentsOf_name (n : PathName) :
    Expression.segmentsOf n.text.toList = Store.keyPath n.text := by
  unfold Expression.segmentsOf
  split
  · next rest h => exact absurd (by rw [h]; rfl) n.noCommand
  · rw [Store.keyPath, ← splitDots_eq_splitAll n.isAccepted.no_backtick]

namespace Engine

variable (e : Engine) (r : Resolver) (deeper : Unit → Level)

theorem inner?_of_mem_keyPath (n : PathName) :
    ∀ segment ∈ Store.keyPath n.text, inner? segment.toList = none := by
  rw [← segmentsOf_name]
  exact n.isAccepted.inner?_eq_none

/-- A tag of a name and a written filter applies the filter to the value of the name. -/
theorem evaluateExpression_filter (n : PathName) (w : Filter) (depth : ℕ) :
    e.evaluateExpression r depth deeper '~' (.ofChars (n.text.toList ++ '|' :: w.print)) =
      ask r (Store.keyPath n.text) depth >>= settleOption deeper >>= fun v =>
        e.filterStep deeper v w.text := by
  have hread : Expression.ofChars (n.text.toList ++ '|' :: w.print) =
      { path := Store.keyPath n.text, chain := some w.text, defaultText := none,
        filtersDefault := false } := by
    rw [ofChars_pipe n.isAccepted.isInert, splitDefault_print_end, n.isAccepted.trim_eq, segmentsOf_name,
      chainOf_print]
    rfl
  rw [evaluateExpression_eq, hread, expandPath_of_inner?_eq_none deeper (inner?_of_mem_keyPath n),
    pure_bind, question, if_neg (by decide), bind_assoc]
  refine bind_congr fun found => bind_congr fun v => ?_
  rw [outputOf_behind deeper rfl, throughChain]
  dsimp only
  rw [applyChain_text, filterStep_bind_settleOption]
  have hnone : orDefault deeper
      { path := Store.keyPath n.text, chain := some w.text, defaultText := none,
        filtersDefault := false } = pure := by
    funext output
    cases output <;> rfl
  rw [hnone, bind_pure]

/-- Whether the pattern of a text between anchors is within its bound of memory. -/
def WithinLimit (text : String) : Prop :=
  Pattern.compile .standard (Pattern.anchoredSource text.toList) ≠ .error .tooLarge

theorem compile_exactTest {text : String} (h : WithinLimit text) :
    ∃ p, (exactTest text.toList).directive.compile = .ok p ∧
      ∀ s, p.isMatch s = true ↔ s = text.toList := by
  obtain ⟨p, hp, hmatch⟩ := (Pattern.compile_anchored text.toList).resolve_left h
  refine ⟨p, ?_, hmatch⟩
  have hsettings : (exactTest text.toList).directive.settings = .standard := rfl
  have hsource : (exactTest text.toList).directive.pattern = Pattern.anchoredSource text.toList := rfl
  rw [Pattern.Directive.compile, hsettings, hsource, hp]

theorem finds_exactTest {text : String} (h : WithinLimit text) (s : String) :
    (exactTest text.toList).finds s.toList = decide (s = text) := by
  obtain ⟨p, hp, hmatch⟩ := compile_exactTest h
  rw [Test.finds_of_compile hp, Bool.eq_iff_iff, hmatch, decide_eq_true_iff, String.toList_inj]

/-- What a conditional include gives: its template, rendered, or the empty text. -/
def includeWhen (t : TemplateName) (holds : Bool) : Run (Option Value) :=
  settleOption deeper (some (if holds then .snippet ("\x7b+" ++ t.text ++ "\x7d") else .text ""))

theorem referenced_output (t : TemplateName) :
    referenced (String.ofList t.output.chars) = .snippet ("\x7b+" ++ t.text ++ "\x7d") := by
  have hchars : (String.ofList t.output.chars).toList = '+' :: t.chars := String.toList_ofList
  have hbraces : "\x7b" ++ String.ofList t.output.chars ++ "\x7d" = "\x7b+" ++ t.text ++ "\x7d" := by
    rw [← String.toList_inj]
    simp [TemplateName.output, Segment.text]
  rw [referenced, hchars, if_pos t.isReference, hbraces]

theorem chosenText_exactBranch {text : String} (h : WithinLimit text) (t : TemplateName)
    (v : Option Value) :
    referenced (chosenText [exactBranch text.toList t] nothing (v.map fun v => v.display.toList)) =
      if v.map Value.display = some text then .snippet ("\x7b+" ++ t.text ++ "\x7d") else .text "" := by
  cases v with
  | none => rfl
  | some v =>
    have hfinds : (exactBranch text.toList t).test.finds v.display.toList = decide (v.display = text) :=
      finds_exactTest h v.display
    rw [Option.map_some, Option.map_some, chosenText, chosenBranch, Option.bind_some, List.find?_cons,
      hfinds]
    by_cases htext : v.display = text
    · rw [decide_eq_true htext, if_pos (congrArg some htext), ← referenced_output]
      rfl
    · rw [decide_eq_false htext, if_neg (by simpa using htext)]
      rfl

theorem filterStep_exactFilter {e : Engine} (he : e.HasStockOnMatch) {text : String}
    (h : WithinLimit text) (t : TemplateName) (v : Option Value) :
    e.filterStep deeper v (exactFilter text.toList t).text =
      includeWhen deeper t (v.map Value.display = some text) := by
  have hcompiles : ∀ b ∈ [exactBranch text.toList t], b.test.Compiles := by
    intro b hb
    obtain rfl := List.mem_singleton.mp hb
    obtain ⟨p, hp, -⟩ := compile_exactTest h
    exact ⟨p, hp⟩
  rw [filterStep, exactFilter, applyFilter_onMatch he, firstMatch_of_length_le _ (by simp) (by simp) hcompiles,
    chosenText_exactBranch h, includeWhen]
  simp

/-- A tag that stands for a test for one text. -/
theorem outcome_evaluatePlain_exact {e : Engine} (he : e.HasStockOnMatch) {text : String}
    (h : WithinLimit text) (n : PathName) (t : TemplateName) (depth : ℕ) :
    (e.evaluatePlain r depth deeper
      (ConditionalInclude.matchTag false n.text (exactly text) ("+" ++ t.text))).outcome =
        (settleOption deeper (r.resolve (Store.keyPath n.text) depth) >>= fun v =>
          includeWhen deeper t (v.map Value.display = some text)).outcome := by
  unfold evaluatePlain
  rw [toList_matchTag]
  dsimp only
  rw [if_neg (by decide), if_neg (by decide), evaluateExpression_filter, bind_assoc, outcome_ask_bind]
  exact Run.outcome_bind_congr fun v => congrArg Run.outcome (filterStep_exactFilter deeper he h t v)

theorem outcome_evaluate_of_isConditional {sigil : Char} {rest : List Char}
    (h : isConditional sigil rest = true) (depth : ℕ) :
    (e.evaluate r depth deeper (String.ofList (sigil :: rest))).outcome =
      (conditionalTag r depth deeper (String.ofList rest) >>= fun
        | .error fault => pure (some (.text fault.annotation))
        | .ok tag => e.evaluatePlain r depth deeper tag).outcome := by
  have hchars : (String.ofList (sigil :: rest)).toList = sigil :: rest := String.toList_ofList
  unfold evaluate
  rw [hchars, Run.outcome_event_bind]
  dsimp only
  rw [if_pos h]
  refine Run.outcome_bind_congr fun tag => ?_
  cases tag with
  | error fault => rfl
  | ok tag => exact Run.outcome_notice_bind _ _

theorem evaluate_written {s : List Char} (t : TemplateName) (depth : ℕ) :
    (e.evaluate r depth deeper (String.ofList ('+' :: written s t))).outcome =
      (conditionalTag r depth deeper (String.ofList (written s t)) >>= fun
        | .error fault => pure (some (.text fault.annotation))
        | .ok tag => e.evaluatePlain r depth deeper tag).outcome :=
  outcome_evaluate_of_isConditional e r deeper (Spelling.plus.isConditional_body s t.target) depth

theorem conditionalTag_textCondition (n : PathName) (q : Quoted) (t : TemplateName) (depth : ℕ) :
    conditionalTag r depth deeper (String.ofList (textCondition n q t)) =
      pure (.ok (ConditionalInclude.matchTag false n.text (exactly (String.ofList q.chars))
        ("+" ++ t.text))) := by
  unfold conditionalTag
  rw [parse_textCondition]
  rfl

theorem outcome_conditionalTag_nameCondition (n m : PathName) (t : TemplateName) (depth : ℕ) :
    (conditionalTag r depth deeper (String.ofList (nameCondition n m t))).outcome =
      (settleOption deeper (r.resolve (Store.keyPath n.text) depth) >>= fun v =>
        pure (Except.ok (ConditionalInclude.matchTag false m.text (exactly (Value.displayOr v))
          ("+" ++ t.text)))).outcome := by
  unfold conditionalTag
  rw [parse_nameCondition]
  rfl

theorem outcome_evaluateTag_text {e : Engine} (he : e.HasStockOnMatch) (n : PathName) (q : Quoted)
    (t : TemplateName) (h : WithinLimit (String.ofList q.chars)) :
    (e.evaluateTag r (String.ofList ('\x7b' :: ('+' :: textCondition n q t ++ ['\x7d'])))).outcome =
      (settleOption (e.deeper r) (r.resolve (Store.keyPath n.text) 0) >>= fun v =>
        includeWhen (e.deeper r) t (v.map Value.display = some (String.ofList q.chars))).outcome := by
  rw [evaluateTag, tagBody_braces, textCondition, evaluate_written, ← textCondition,
    conditionalTag_textCondition, pure_bind]
  exact outcome_evaluatePlain_exact r _ he h n t 0

theorem outcome_evaluateTag_names {e : Engine} (he : e.HasStockOnMatch) (n m : PathName)
    (t : TemplateName)
    (h : ∀ current, (settleOption (e.deeper r) (r.resolve (Store.keyPath n.text) 0)).outcome = .ok current →
      WithinLimit (Value.displayOr current)) :
    (e.evaluateTag r (String.ofList ('\x7b' :: ('+' :: nameCondition n m t ++ ['\x7d'])))).outcome =
      (settleOption (e.deeper r) (r.resolve (Store.keyPath n.text) 0) >>= fun current =>
        settleOption (e.deeper r) (r.resolve (Store.keyPath m.text) 0) >>= fun v =>
          includeWhen (e.deeper r) t (v.map Value.display = some (Value.displayOr current))).outcome := by
  rw [evaluateTag, tagBody_braces, nameCondition, evaluate_written, ← nameCondition, Run.outcome_bind,
    outcome_conditionalTag_nameCondition, Run.outcome_bind, Run.outcome_bind]
  cases hcurrent : (settleOption (e.deeper r) (r.resolve (Store.keyPath n.text) 0)).outcome with
  | error abort => rfl
  | ok current => exact outcome_evaluatePlain_exact r _ he (h current hcurrent) m t 0

/-- A condition that compares a name with a quoted text includes the template when the name has that text,
and one that compares a name with a second one when the second has the current text of the first. -/
theorem evaluateTag_equality {e : Engine} (he : e.HasStockOnMatch) (r : Resolver) (n : PathName)
    (t : TemplateName) :
    (∀ literal : String, '"' ∉ literal.toList → '\\' ∉ literal.toList → WithinLimit literal →
      (e.evaluateTag r
        ("\x7b+(~" ++ n.text ++ " == \"" ++ literal ++ "\")" ++ t.text ++ "\x7d")).outcome =
          (settleOption (e.deeper r) (r.resolve (Store.keyPath n.text) 0) >>= fun v =>
            includeWhen (e.deeper r) t (v.map Value.display = some literal)).outcome) ∧
    ∀ m : PathName,
      (∀ current,
        (settleOption (e.deeper r) (r.resolve (Store.keyPath n.text) 0)).outcome = .ok current →
          WithinLimit (Value.displayOr current)) →
      (e.evaluateTag r
        ("\x7b+(~" ++ n.text ++ " == ~" ++ m.text ++ ")" ++ t.text ++ "\x7d")).outcome =
          (settleOption (e.deeper r) (r.resolve (Store.keyPath n.text) 0) >>= fun current =>
            settleOption (e.deeper r) (r.resolve (Store.keyPath m.text) 0) >>= fun v =>
              includeWhen (e.deeper r) t
                (v.map Value.display = some (Value.displayOr current))).outcome := by
  constructor
  · intro literal hquote hback h
    have hvalid : ∀ c ∈ literal.toList, c ≠ '\\' ∧ c ≠ '"' :=
      fun c hc => ⟨fun hd => hback (hd ▸ hc), fun hd => hquote (hd ▸ hc)⟩
    have hliteral : String.ofList literal.toList = literal := String.ofList_toList
    have htag : "\x7b+(~" ++ n.text ++ " == \"" ++ literal ++ "\")" ++ t.text ++ "\x7d" =
        String.ofList ('\x7b' :: ('+' :: textCondition n ⟨literal.toList, hvalid⟩ t ++ ['\x7d'])) := by
      rw [← String.toList_inj]
      simp [textCondition, written, comparison, Segment.text]
    have hrun := outcome_evaluateTag_text r he n ⟨literal.toList, hvalid⟩ t (by rwa [hliteral])
    rwa [← htag, hliteral] at hrun
  · intro m h
    have htag : "\x7b+(~" ++ n.text ++ " == ~" ++ m.text ++ ")" ++ t.text ++ "\x7d" =
        String.ofList ('\x7b' :: ('+' :: nameCondition n m t ++ ['\x7d'])) := by
      rw [← String.toList_inj]
      simp [nameCondition, written, comparison, Segment.text]
    rw [htag]
    exact outcome_evaluateTag_names r he n m t h

def everywhere (text : String) : Resolver := ⟨fun _ _ => some (.text text), fun _ _ => none⟩

theorem withinLimit_dot : WithinLimit "a.b" := by
  obtain ⟨p, hp⟩ : ∃ p, Pattern.compile .standard (Pattern.anchoredSource "a.b".toList) = .ok p :=
    ⟨_, rfl⟩
  rw [WithinLimit, hp]
  nofun

theorem evaluateTag_equality_dot :
    (standard.evaluateTag (everywhere "a.b") "\x7b+(~x == \"a.b\")t\x7d").outcome =
      (settleOption (standard.deeper (everywhere "a.b")) (some (.snippet "\x7b+t\x7d"))).outcome ∧
    (standard.evaluateTag (everywhere "axb") "\x7b+(~x == \"a.b\")t\x7d").outcome =
      .ok (some (.text "")) ∧
    (standard.evaluateTag (everywhere "a.b") "\x7b+(~x == ~y)t\x7d").outcome =
      (settleOption (standard.deeper (everywhere "a.b")) (some (.snippet "\x7b+t\x7d"))).outcome := by
  have hstart : ∀ c ∈ ['t'].head?, (c.isAlpha || c == '_') = true := by
    rintro _ ⟨⟩
    decide
  have h := fun text => evaluateTag_equality (e := standard) ⟨rfl, rfl⟩ (everywhere text)
    ⟨"x", by decide, by decide⟩ ⟨⟨['t'], by decide, List.all_eq_true.mp (by decide)⟩, hstart⟩
  refine ⟨?_, ?_, ?_⟩
  · exact (h "a.b").1 "a.b" (by decide) (by decide) withinLimit_dot
  · exact (h "axb").1 "a.b" (by decide) (by decide) withinLimit_dot
  · refine (h "a.b").2 ⟨"y", by decide, by decide⟩ fun current hcurrent => ?_
    obtain rfl : some (.text "a.b") = current := Except.ok.inj hcurrent
    exact withinLimit_dot

end Engine

end Stencil
