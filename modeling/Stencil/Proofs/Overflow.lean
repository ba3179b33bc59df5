import Stencil.Proofs.Parallel
import Stencil.Proofs.StockCall

/-!
# Runs that return

An engine gives a result for all texts and values, with one exception: an indentation that does not fit into
memory ends the run. The exception is measured against an engine whose indentation fails instead, as custom
filters may: the run is the one of the careful engine, up to the first indentation that fails.
-/
namespace Stencil

open Stencil.Tag

def Event.isIndentFault : Event → Bool
  | .notice (.customFault name _) => Unicode.lowercase name = "indent"
  | _ => false

namespace Run

variable {α β : Type}

def Returns (x : Run α) : Prop := ∃ a, x.outcome = .ok a

instance (x : Run α) : Decidable x.Returns :=
  match h : x.outcome with
  | .ok a => .isTrue ⟨a, h⟩
  | .error abort => .isFalse fun ⟨a, ha⟩ => by
    rw [h] at ha
    nomatch ha

/-- The run up to the first indentation that fails, where it ends without a result. -/
def cutShort (x : Run α) : Run α :=
  if x.events.any Event.isIndentFault then
    ⟨x.events.takeWhile (!Event.isIndentFault ·), .error .capacityOverflow⟩
  else x

theorem returns_pure (a : α) : (Pure.pure a : Run α).Returns := ⟨a, rfl⟩

theorem returns_notice (n : Notice) : (notice n).Returns := ⟨(), rfl⟩

theorem Returns.bind {x : Run α} {f : α → Run β} (hx : x.Returns) (hf : ∀ a, (f a).Returns) :
    (x >>= f).Returns := by
  obtain ⟨a, ha⟩ := hx
  obtain ⟨b, hb⟩ := hf a
  exact ⟨b, by rw [outcome_bind, ha]; exact hb⟩

theorem cutShort_of_faultless {x : Run α} (h : ∀ ev ∈ x.events, ev.isIndentFault = false) :
    x.cutShort = x := by
  have hany : ¬ x.events.any Event.isIndentFault = true := by simpa using h
  rw [cutShort, if_neg hany]

theorem takeWhile_append_of_any {events : List Event} (h : events.any Event.isIndentFault = true)
    (later : List Event) :
    (events ++ later).takeWhile (!Event.isIndentFault ·) =
      events.takeWhile (!Event.isIndentFault ·) := by
  rw [List.takeWhile_append, if_neg]
  intro hlength
  have hall := (List.takeWhile_prefix _).eq_of_length hlength
  obtain ⟨ev, hev, hfault⟩ := List.any_eq_true.mp h
  have hnone := List.takeWhile_eq_self_iff.mp hall ev hev
  simp [hfault] at hnone

/-- A run that returns is cut short where the first of its parts is. -/
theorem cutShort_bind {x : Run α} (hx : x.Returns) (f : α → Run β) :
    (x >>= f).cutShort = x.cutShort >>= fun a => (f a).cutShort := by
  obtain ⟨events, outcome⟩ := x
  obtain ⟨a, rfl⟩ := hx
  by_cases hfirst : events.any Event.isIndentFault = true
  -- behind the first failure nothing counts, on either side
  · simp [cutShort, Bind.bind, Run.bind, hfirst, takeWhile_append_of_any hfirst]
  · have hbefore : ∀ ev ∈ events, (!ev.isIndentFault) = true := by simpa using hfirst
    by_cases hthen : (f a).events.any Event.isIndentFault = true
    · simp [cutShort, Bind.bind, Run.bind, hfirst, hthen, List.takeWhile_append_of_pos hbefore]
    · simp [cutShort, Bind.bind, Run.bind, hfirst, hthen]

end Run

def RunRelation.returns : RunRelation where
  Holds x y := x = y ∧ x.Returns
  Supposes _ := True
  pure a := ⟨rfl, Run.returns_pure a⟩
  notice _ := ⟨rfl, Run.returns_notice _⟩
  tag h := by
    obtain ⟨rfl, hreturns⟩ := h trivial
    exact ⟨rfl, .bind ⟨(), rfl⟩ fun _ => hreturns⟩
  bind {_ _ x y f g} hx hf := by
    obtain ⟨rfl, hreturns⟩ := hx
    exact ⟨bind_congr fun a => (hf a).1, hreturns.bind fun a => (hf a).2⟩

/-- The first run returns, and the second one is the same up to the first indentation that fails. -/
def RunRelation.guards : RunRelation where
  Holds x y := x.Returns ∧ y = x.cutShort
  Supposes _ := True
  pure a := ⟨Run.returns_pure a, rfl⟩
  notice {n} hn := by
    refine ⟨Run.returns_notice n, (Run.cutShort_of_faultless fun ev hev => ?_).symm⟩
    obtain rfl := List.mem_singleton.mp hev
    cases n <;> first | exact Bool.noConfusion hn | rfl
  tag {_ body x _} h := by
    obtain ⟨hreturns, rfl⟩ := h trivial
    have htag : (Run.event (.tag body)).Returns := ⟨(), rfl⟩
    exact ⟨htag.bind fun _ => hreturns, (Run.cutShort_bind htag fun _ => x).symm⟩
  bind {_ _ x y f g} hx hf := by
    obtain ⟨hreturns, rfl⟩ := hx
    have hg : g = fun a => (f a).cutShort := funext fun a => (hf a).2
    exact ⟨hreturns.bind fun a => (hf a).1, by rw [hg, Run.cutShort_bind hreturns f]⟩

namespace Engine

variable {e : Engine} {r : Resolver}

theorem indent_of_ofName? {name : String} (h : Stock.ofName? name = some .indent) : name = "indent" := by
  simpa [Stock.names] using Stock.mem_names_of_ofName? h

theorem companions_returns (h : ¬ e.LeavesStock "indent") : Companions .returns e e r r 0 where
  filter hlevel v _ := by
    refine hlevel.applyFilter rfl rfl rfl (fun _ => ⟨rfl, Run.returns_notice _⟩) ?_ v
    intro hcustom haliases hstock
    rw [indent_of_ofName? hstock] at hcustom haliases
    exact absurd ⟨hcustom, haliases⟩ h
  ask path depth := ⟨rfl, .bind ⟨(), rfl⟩ fun _ => Run.returns_pure _⟩
  askTemplate name depth := ⟨rfl, .bind ⟨(), rfl⟩ fun _ => Run.returns_pure _⟩
  keepUndefined := rfl
  renderDepth _ := ⟨rfl, Run.returns_notice _⟩
  aliasDepth _ := ⟨rfl, Run.returns_notice _⟩

/-- The stock indentation, except that it fails where the padding does not fit into memory. -/
def carefulIndent : CustomFilter := fun input arguments =>
  match (Filter.indentBy input ⟨"indent", arguments, none, .call, ""⟩).outcome with
  | .ok output => .ok output
  | .error abort => .error abort.message

def careful (e : Engine) : Engine := e.register "indent" carefulIndent

theorem indentBy_congr {call call' : Invocation} (h : call.callArguments = call'.callArguments)
    (input : Option Value) : Filter.indentBy input call = Filter.indentBy input call' := by
  unfold Filter.indentBy Filter.padding Invocation.argument?
  rw [h]

section Indent

variable {filter : String} (hname : Unicode.lowercase (Invocation.parse filter).name = "indent")
include hname

theorem applyFilter_indent (h : e.LeavesStock "indent") (deeper : Unit → Level) (v : Option Value) :
    e.applyFilter deeper v filter = Filter.indentBy v (Invocation.parse filter) := by
  have hknown : Stock.ofName? "indent" = some .indent := by decide
  rw [applyFilter_of_leavesStock deeper h hname hknown]
  rfl

theorem applyFilter_careful_indent (deeper : Unit → Level) (v : Option Value) :
    e.careful.applyFilter deeper v filter =
      match (Filter.indentBy v (Invocation.parse filter)).outcome with
      | .ok output => pure output
      | .error abort =>
        Run.notice (.customFault (Invocation.parse filter).name abort.message) >>= fun _ => pure v := by
  have hcustom : Table.get? "indent" e.careful.registry.custom = some carefulIndent :=
    Table.get?_insert_self "indent" carefulIndent e.registry.custom
  have hcall : Filter.indentBy v ⟨"indent", (Invocation.parse filter).callArguments, none, .call, ""⟩ =
      Filter.indentBy v (Invocation.parse filter) := by
    refine indentBy_congr ?_ v
    rfl
  unfold applyFilter
  dsimp only
  rw [hname, hcustom]
  dsimp only
  rw [carefulIndent, hcall]
  cases (Filter.indentBy v (Invocation.parse filter)).outcome <;> rfl

/-- A stock indentation either gives what the careful one gives, or ends the run where the careful one fails. -/
theorem guards_applyFilter_indent (h : e.LeavesStock "indent") (deeper deeper' : Unit → Level)
    (v : Option Value) :
    RunRelation.guards.Holds (e.careful.applyFilter deeper v filter) (e.applyFilter deeper' v filter) := by
  rw [applyFilter_indent hname h, applyFilter_careful_indent hname]
  obtain ⟨output, heq⟩ | heq := Filter.indentBy_cases v (Invocation.parse filter)
  · rw [heq]
    exact RunRelation.guards.pure output
  · rw [heq]
    refine ⟨.bind (Run.returns_notice _) fun _ => Run.returns_pure v, ?_⟩
    simp [Run.abort, Run.cutShort, Run.notice, Run.event, Bind.bind, Run.bind, Event.isIndentFault, hname]

end Indent

theorem companions_guards (h : e.LeavesStock "indent") : Companions .guards e.careful e r r 0 where
  filter {deeper deeper'} hlevel v filter := by
    by_cases hname : Unicode.lowercase (Invocation.parse filter).name = "indent"
    · exact guards_applyFilter_indent hname h deeper deeper' v
    · refine hlevel.applyFilter rfl ?_ rfl (fun message => ?_) (fun _ _ hstock => ?_) v
      · exact Table.get?_insert_of_ne hname carefulIndent e.registry.custom
      · refine ⟨Run.returns_notice _, (Run.cutShort_of_faultless fun ev hev => ?_).symm⟩
        obtain rfl := List.mem_singleton.mp hev
        simpa [Event.isIndentFault] using hname
      · exact absurd (indent_of_ofName? hstock) hname
  ask path depth := ⟨.bind ⟨(), rfl⟩ fun _ => Run.returns_pure _, rfl⟩
  askTemplate name depth := ⟨.bind ⟨(), rfl⟩ fun _ => Run.returns_pure _, rfl⟩
  keepUndefined := rfl
  renderDepth _ := ⟨Run.returns_notice _, rfl⟩
  aliasDepth _ := ⟨Run.returns_notice _, rfl⟩

/-- An engine gives a result for all texts and values if its indentation is replaced. With the stock indentation
the careful engine gives a result for all of them, and the engine itself runs alike up to the first indentation
that fails there. -/
theorem returns_or_overflows (e : Engine) (r : Resolver) :
    (¬ e.LeavesStock "indent" →
      (∀ template, (e.render r template).Returns) ∧ (∀ tag, (e.renderTag r tag).Returns) ∧
      (∀ tag, (e.evaluateTag r tag).Returns) ∧ ∀ chain v, (e.evaluateChain r chain v).Returns) ∧
    (e.LeavesStock "indent" →
      (∀ template, (e.careful.render r template).Returns ∧
        e.render r template = (e.careful.render r template).cutShort) ∧
      (∀ tag, (e.careful.renderTag r tag).Returns ∧
        e.renderTag r tag = (e.careful.renderTag r tag).cutShort) ∧
      (∀ tag, (e.careful.evaluateTag r tag).Returns ∧
        e.evaluateTag r tag = (e.careful.evaluateTag r tag).cutShort) ∧
      ∀ chain v, (e.careful.evaluateChain r chain v).Returns ∧
        e.evaluateChain r chain v = (e.careful.evaluateChain r chain v).cutShort) := by
  constructor
  · intro h
    have hanswers : Answers .returns e e r r := (companions_returns h).answers rfl
    exact ⟨fun template => (hanswers.render template).2, fun tag => (hanswers.renderTag tag).2,
      fun tag => (hanswers.evaluateTag tag).2, fun chain v => (hanswers.evaluateChain chain v).2⟩
  · intro h
    have hanswers : Answers .guards e.careful e r r := (companions_guards h).answers rfl
    exact ⟨hanswers.render, hanswers.renderTag, hanswers.evaluateTag, hanswers.evaluateChain⟩

def replaced : Engine := standard.register "indent" fun v _ => .ok v

theorem returns_or_overflows_standard :
    (¬ replaced.LeavesStock "indent" ∧ (replaced.render silent "{~x}").Returns) ∧
    standard.LeavesStock "indent" ∧
      (standard.careful.evaluateChain silent "indent(9223372036854775808)" none).Returns ∧
      standard.evaluateChain silent "indent(9223372036854775808)" none =
        (standard.careful.evaluateChain silent "indent(9223372036854775808)" none).cutShort := by
  have hreplaced : ¬ replaced.LeavesStock "indent" := fun h => nomatch h.1
  have hstandard : standard.LeavesStock "indent" := ⟨rfl, rfl⟩
  have hreturns := (replaced.returns_or_overflows silent).1 hreplaced
  have hoverflows := (standard.returns_or_overflows silent).2 hstandard
  exact ⟨⟨hreplaced, hreturns.1 _⟩, hstandard, hoverflows.2.2.2 _ none⟩

/-- A padding of `2 ^ 63` bytes ends the run, even where there is nothing to indent. -/
theorem not_returns_indent :
    ¬ (standard.evaluateChain silent "indent(9223372036854775808)" none).Returns ∧
    ¬ (standard.render silent "a {~x|indent(9223372036854775808)} b").Returns := by
  decide +kernel

end Engine

end Stencil
