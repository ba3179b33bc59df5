import Stencil.Proofs.AliasLevel
import Stencil.Proofs.Complement
import Stencil.Proofs.Layout

/-!
# Includes under a condition

A conditional include whose condition holds gives what the include itself gives with one level less. That the
target is an include is judged twice: behind the plus of a tag anything is one, but in the argument of
`ondefined` and in a default a plus begins an include only before a letter or an underscore. Before any other
character the plus and the target stay text.
-/
namespace Stencil

open Stencil.Text Stencil.Tag Stencil.Tag.Grammar

namespace Piece

/-- Without braces and backslashes a tag is closed by the brace behind it. -/
theorem throughBrace?_free {s : List Char} (h : ∀ c ∈ s, c ∉ ['\\', '\x7b', '\x7d']) :
    throughBrace? 0 (s ++ ['\x7d']) = some (s ++ ['\x7d'], []) := by
  induction s with
  | nil => rfl
  | cons c s ih =>
    obtain ⟨hback, hopen, hclose⟩ : c ≠ '\\' ∧ c ≠ '\x7b' ∧ c ≠ '\x7d' := by
      simpa using h c List.mem_cons_self
    rw [List.cons_append, throughBrace?, if_neg (fun hc => hclose hc.1), if_neg hopen, if_neg hclose,
      ih fun d hd => h d (List.mem_cons_of_mem c hd)]
    · rfl
    · exact fun hc => absurd hc hback
    · exact fun _ _ hc => absurd hc hback

end Piece

def WrittenTag.ofFree {sigil : Char} {s : List Char} (hsigil : isSigil sigil = true)
    (h : ∀ c ∈ sigil :: s, c ∉ ['\\', '\x7b', '\x7d']) : WrittenTag where
  inside := sigil :: s ++ ['\x7d']
  sigil := hsigil
  closed := Piece.throughBrace?_free h

namespace Engine

variable (e : Engine) (r : Resolver)

/-- A template that is one tag gives what the tag gives. -/
theorem render_writtenTag (g : WrittenTag) : e.render r g.text = e.renderTag r g.text := by
  have hpieces := renderPieces_tag e r 0 (e.deeper r) g []
  have hchars : g.text.toList = '\x7b' :: g.inside ++ [] := by simp [WrittenTag.text]
  rw [render, renderAt_eq, hchars, hpieces, Piece.pieces, renderPieces_nil]
  simp [renderTag]

theorem renderTag_eq {tag : String} (h : (tagBody tag).toList.head?.any isSigil = true) :
    e.renderTag r tag = e.evaluateTag r tag >>= fun
      | some v => pure v.display
      | none => pure (if e.configuration.keepUndefined then tag else "") := by
  unfold renderTag renderTagAt evaluateTag
  dsimp only
  rw [h]
  rfl

end Engine

namespace Tag.Spelling

def tag (w : Spelling) (condition : List Char) (t : Target) : String :=
  String.ofList ('\x7b' :: (w.sigil :: w.body condition t ++ ['\x7d']))

theorem isSigil_sigil (w : Spelling) : isSigil w.sigil = true := by
  cases w <;> rfl

theorem isSigil_tagBody (w : Spelling) (condition : List Char) (t : Target) :
    (tagBody (w.tag condition t)).toList.head?.any isSigil = true := by
  rw [tag, Engine.tagBody_braces, String.toList_ofList]
  exact w.isSigil_sigil

theorem free_presence (w : Spelling) {name : String} (hname : Accepted name) (negated : Bool) (t : Target) :
    ∀ c ∈ w.sigil :: w.body (presence negated name) t, c ∉ ['\\', '\x7b', '\x7d'] := by
  have hplain : ∀ c, isPlain c = true → c ∉ ['\\', '\x7b', '\x7d'] :=
    fun c hc => not_mem_of_class hc (by decide)
  have hsigil : w.sigil ∉ ['\\', '\x7b', '\x7d'] := by cases w <;> decide
  have hword : ∀ c ∈ w.word.toList, c ∉ ['\\', '\x7b', '\x7d'] := by cases w <;> simp [word]
  have hgap : ∀ c ∈ w.gap, c ∉ ['\\', '\x7b', '\x7d'] := by cases w <;> simp [gap]
  have hcondition : ∀ c ∈ presence negated name, c ∉ ['\\', '\x7b', '\x7d'] :=
    List.forall_mem_cons.mpr ⟨by cases negated <;> decide, fun c hc => hplain c (hname.isPlain c hc)⟩
  refine List.forall_mem_cons.mpr ⟨hsigil, List.forall_mem_append.mpr ⟨hword, ?_⟩⟩
  refine List.forall_mem_cons.mpr ⟨by decide, List.forall_mem_append.mpr ⟨hcondition, ?_⟩⟩
  refine List.forall_mem_cons.mpr ⟨by decide, List.forall_mem_append.mpr ⟨hgap, ?_⟩⟩
  exact fun c hc => hplain c (t.plain c hc)

end Tag.Spelling

/-- What a conditional include gives for a value: its target, or nothing. -/
def chosen (negated : Bool) (t : Target) (v : Option Value) : List Char :=
  if (Filter.filled? v).isSome != negated then '+' :: t.chars else []

theorem parse_presence_body (w : Spelling) {name : String} (hname : Accepted name) (negated : Bool)
    (t : Target) :
    ConditionalInclude.parse (String.ofList (w.body (presence negated name) t)) =
      .ok ⟨if negated then .undefined name else .defined name, t.text⟩ :=
  w.parse_body t (trim_presence hname negated) (closingParen_presence hname negated _)
    (parse_presence hname negated)

/-- The tag that such a condition stands for: the target is the output of the filter, or the default. -/
theorem toList_tag_presence (negated : Bool) (name : String) (t : Target) :
    (ConditionalInclude.tag ⟨if negated then .undefined name else .defined name, t.text⟩ "").toList =
      '~' :: (name.toList ++ '|' :: ((onDefinedCall (if negated then nothing else t.output)).print ++
        ':' :: if negated then t.output.chars else [])) := by
  rw [print_onDefinedCall]
  cases negated <;> simp [ConditionalInclude.tag, Target.output, Target.text, nothing]

namespace Engine

variable {e : Engine} {r : Resolver}

theorem outcome_evaluateTag_presence (he : e.LeavesStock "ondefined") (w : Spelling) (t : Target)
    {name : String} (hname : Accepted name) (negated : Bool) :
    (e.evaluateTag r (w.tag (presence negated name) t)).outcome =
      (settleOption (e.deeper r) (r.resolve (Expression.segmentsOf name.toList) 0) >>= fun v =>
        settleOption (e.deeper r) (some (referenced (String.ofList (chosen negated t v))))).outcome := by
  have hcompares : ConditionalInclude.comparesWith?
      ⟨if negated then .undefined name else .defined name, t.text⟩ = none := by
    cases negated <;> rfl
  rw [evaluateTag, Spelling.tag, tagBody_braces,
    outcome_evaluate_of_isConditional e r (e.deeper r) (w.isConditional_body _ t), conditionalTag,
    parse_presence_body w hname]
  simp only [hcompares, pure_bind]
  rw [outcome_evaluatePlain_presence r (e.deeper r) he hname _ _ 0 (toList_tag_presence negated name t)]
  refine Run.outcome_bind_congr fun v => ?_
  have hchosen : (if (Filter.filled? v).isSome then (if negated then nothing else t.output).chars
      else if negated then t.output.chars else []) = chosen negated t v := by
    unfold chosen
    cases (Filter.filled? v).isSome <;> cases negated <;> rfl
  rw [hchosen]

/-- A target behind a plus is the tag of its include, or text. -/
theorem referenced_target (t : Target) :
    referenced (String.ofList ('+' :: t.chars)) =
      if isReference ('+' :: t.chars) then .snippet ("\x7b+" ++ t.text ++ "\x7d")
      else .text ("+" ++ t.text) := by
  have htext : String.ofList ('+' :: t.chars) = "+" ++ t.text := by
    rw [← String.toList_inj]
    simp [Target.text]
  rw [referenced, String.toList_ofList, htext]
  rfl

theorem display_settleOption_target (deeper : Unit → Level) (t : Target) (undefined : String) :
    (settleOption deeper (some (referenced (String.ofList ('+' :: t.chars)))) >>= fun
        | some v => pure v.display
        | none => pure undefined) =
      if isReference ('+' :: t.chars) then (deeper ()).render ("\x7b+" ++ t.text ++ "\x7d")
      else pure ("+" ++ t.text) := by
  rw [referenced_target]
  split
  · rw [settleOption_snippet, map_eq_pure_bind, bind_assoc]
    simp only [pure_bind, Value.display, bind_pure]
  · rfl

theorem outcome_deeper_render (hr : r.IgnoresDepth) (bound : ℕ) (template : String) :
    (((e.withMaxDepth (bound + 1)).deeper r ()).render template).outcome =
      ((e.withMaxDepth bound).render r template).outcome := by
  have h : ((e.withMaxDepth (bound + 1)).deeper r ()).render template =
      ((e.withMaxDepth bound).render r template).deeper :=
    (aligned_deeper e hr bound).renderAt (fun _ _ _ _ => trivial) template
  rw [h]
  rfl

theorem outcome_render_presence (he : e.LeavesStock "ondefined") (w : Spelling) (t : Target) {name : String}
    (hname : Accepted name) (negated : Bool) {v : Option Value}
    (hv : (settleOption (e.deeper r) (r.resolve (Expression.segmentsOf name.toList) 0)).outcome = .ok v)
    (hholds : (Filter.filled? v).isSome = !negated) :
    (e.render r (w.tag (presence negated name) t)).outcome =
      if isReference ('+' :: t.chars) then
        ((e.deeper r ()).render ("\x7b+" ++ t.text ++ "\x7d")).outcome
      else .ok ("+" ++ t.text) := by
  have halone : e.render r (w.tag (presence negated name) t) =
      e.renderTag r (w.tag (presence negated name) t) :=
    render_writtenTag e r (.ofFree w.isSigil_sigil (w.free_presence hname negated t))
  have hchosen : chosen negated t v = '+' :: t.chars := by
    rw [chosen, hholds, if_pos (by cases negated <;> rfl)]
  -- where the condition holds the tag gives what its target stands for
  have hvalue : (e.evaluateTag r (w.tag (presence negated name) t)).outcome =
      (settleOption (e.deeper r) (some (referenced (String.ofList ('+' :: t.chars))))).outcome := by
    rw [outcome_evaluateTag_presence he w t hname negated, Run.outcome_bind, hv, ← hchosen]
    rfl
  rw [halone, renderTag_eq e r (w.isSigil_tagBody _ t), Run.outcome_bind, hvalue, ← Run.outcome_bind,
    display_settleOption_target]
  split <;> rfl

/-- A conditional include whose condition holds, in each of its spellings, renders what the include renders
with one level less, if the target begins with a letter or an underscore. Any other target is rendered as text
behind its plus. -/
theorem render_conditional (he : e.LeavesStock "ondefined") (hr : r.IgnoresDepth) (bound : ℕ)
    (w : Spelling) (t : Target) {name : String} (hname : Accepted name) (negated : Bool) {v : Option Value}
    (hv : (settleOption ((e.withMaxDepth (bound + 1)).deeper r)
      (r.resolve (Expression.segmentsOf name.toList) 0)).outcome = .ok v)
    (hholds : (Filter.filled? v).isSome = !negated) :
    ((e.withMaxDepth (bound + 1)).render r (w.tag (presence negated name) t)).outcome =
      if isReference ('+' :: t.chars) then
        ((e.withMaxDepth bound).render r ("\x7b+" ++ t.text ++ "\x7d")).outcome
      else .ok ("+" ++ t.text) := by
  have hstock : (e.withMaxDepth (bound + 1)).LeavesStock "ondefined" := he
  rw [outcome_render_presence hstock w t hname negated hv hholds, outcome_deeper_render hr]

def site : Resolver where
  resolve path _ := if path = ["x"] then some (.text "Ada") else none
  template name _ := if name = "card" ∨ name = "1st" then some (.snippet "Hi \x7b~x\x7d!") else none

def card : Segment := ⟨"card".toList, by decide, List.all_eq_true.mp (by decide)⟩

def first : Segment := ⟨"1st".toList, by decide, List.all_eq_true.mp (by decide)⟩

theorem settled_site (deeper : Unit → Level) :
    (settleOption deeper (site.resolve (Expression.segmentsOf "x".toList) 0)).outcome =
      .ok (some (.text "Ada")) ∧
    (settleOption deeper (site.resolve (Expression.segmentsOf "y".toList) 0)).outcome = .ok none := by
  have hx : Expression.segmentsOf "x".toList = ["x"] := by decide +kernel
  have hy : Expression.segmentsOf "y".toList = ["y"] := by decide +kernel
  rw [hx, hy]
  exact ⟨rfl, rfl⟩

theorem render_conditional_card :
    standard.LeavesStock "ondefined" ∧ site.IgnoresDepth ∧ Accepted "x" ∧ Accepted "y" ∧
    ((standard.withMaxDepth 2).render site "\x7b+(~x)card\x7d").outcome =
      ((standard.withMaxDepth 1).render site "\x7b+card\x7d").outcome ∧
    ((standard.withMaxDepth 2).render site "\x7b.includeIf(~x).card\x7d").outcome =
      ((standard.withMaxDepth 1).render site "\x7b+card\x7d").outcome ∧
    ((standard.withMaxDepth 2).render site "\x7b^includeIf(~x).card\x7d").outcome =
      ((standard.withMaxDepth 1).render site "\x7b+card\x7d").outcome ∧
    ((standard.withMaxDepth 2).render site "\x7b+(!y)card\x7d").outcome =
      ((standard.withMaxDepth 1).render site "\x7b+card\x7d").outcome := by
  have he : standard.LeavesStock "ondefined" := ⟨rfl, rfl⟩
  have hr : site.IgnoresDepth := ⟨fun _ _ _ => rfl, fun _ _ _ => rfl⟩
  have hx : Accepted "x" := by decide
  have hy : Accepted "y" := by decide
  have hdefined (w : Spelling) := render_conditional he hr 1 w card.target hx false
    (settled_site _).1 rfl
  have hundefined := render_conditional he hr 1 .plus card.target hy true (settled_site _).2 rfl
  refine ⟨he, hr, hx, hy, ?_, ?_, ?_, ?_⟩
  · exact hdefined .plus
  · exact hdefined .dot
  · exact hdefined .caret
  · exact hundefined

/-- A target that begins with a digit is an include behind the plus of a tag, and text under a condition. -/
theorem render_conditional_digit :
    ((standard.withMaxDepth 2).render site "\x7b+(~x)1st\x7d").outcome = .ok "+1st" ∧
    ((standard.withMaxDepth 1).render site "\x7b+1st\x7d").outcome = .ok "Hi Ada!" := by
  have he : (standard.withMaxDepth 2).LeavesStock "ondefined" := ⟨rfl, rfl⟩
  have hx : Accepted "x" := by decide
  constructor
  · exact outcome_render_presence he .plus first.target hx false (settled_site _).1 rfl
  · decide +kernel

end Engine

end Stencil
