import Mathlib.Data.List.MinMax
import Stencil.Proofs.Parallel

/-!
# The depth of questions

Whatever a resolver answers, a run asks it at no greater depth than the bound of the engine, plus the pairs of
backticks of one of the tags that the run evaluates: only sub-references lead beyond the bound.
-/
namespace Stencil

open Stencil.Text Stencil.Tag

def Event.depth? : Event → Option Nat
  | .resolve _ depth => some depth
  | .template _ depth => some depth
  | _ => none

/-- How deep the sub-references of a tag that is evaluated can nest. -/
def Event.nesting : Event → Nat
  | .tag body => Tag.nesting body
  | _ => 0

def Event.backtickPairs : Event → Nat
  | .tag body => Tag.backtickPairs body
  | _ => 0

namespace Run

variable {α β : Type} {limit most : Nat}

/-- A run in which no question is deeper than a limit, provided that the sub-references of its tags nest at
most so deep. -/
def Within (limit most : Nat) (x : Run α) : Prop :=
  (∀ ev ∈ x.events, ev.nesting ≤ most) → ∀ ev ∈ x.events, ∀ d ∈ ev.depth?, d ≤ limit

theorem within_pure (a : α) : (Pure.pure a : Run α).Within limit most := by
  intro _ ev hev
  simp [Pure.pure, Run.pure] at hev

theorem within_abort (a : Abort) : (Run.abort a : Run α).Within limit most := by
  intro _ ev hev
  simp [Run.abort] at hev

theorem within_event {ev : Event} (h : ev.nesting ≤ most → ∀ d ∈ ev.depth?, d ≤ limit) :
    (Run.event ev).Within limit most := by
  intro hmost ev' hev'
  obtain rfl : ev' = ev := by simpa [Run.event] using hev'
  exact h (hmost ev' hev')

theorem within_notice (n : Notice) : (Run.notice n).Within limit most :=
  within_event (by simp [Event.depth?])

theorem Within.bind {x : Run α} {f : α → Run β} (hx : x.Within limit most)
    (hf : ∀ a, (f a).Within limit most) : (x >>= f).Within limit most := by
  intro hmost ev hev
  rw [events_bind] at hmost hev
  rcases List.mem_append.mp hev with hev | hev
  · exact hx (fun ev' hev' => hmost ev' (List.mem_append_left _ hev')) ev hev
  · cases houtcome : x.outcome with
    | error abort => simp [houtcome] at hev
    | ok a =>
      rw [houtcome] at hmost hev
      exact hf a (fun ev' hev' => hmost ev' (List.mem_append_right _ hev')) ev hev

theorem within_tag {body : String} {x : Run α} (h : Tag.nesting body ≤ most → x.Within limit most) :
    (Run.event (.tag body) >>= fun _ => x).Within limit most := by
  intro hmost
  have hbody : Tag.nesting body ≤ most := hmost (.tag body) (by simp [events_bind, Run.event])
  have htag : (Run.event (.tag body)).Within limit most := within_event (by simp [Event.depth?])
  exact htag.bind (fun _ => h hbody) hmost

end Run

open Run

def RunRelation.within (limit most : Nat) : RunRelation where
  Holds x _ := x.Within limit most
  Supposes body := nesting body ≤ most
  pure a := within_pure a
  bind hx hf := hx.bind hf
  notice _ := within_notice _
  tag h := within_tag h

namespace Engine

variable {limit most : Nat} {e : Engine} {r : Resolver} {deeper : Unit → Level} {depth : Nat}

/-- A tag that can be rendered at a depth, as there is room for its sub-references within a limit. -/
def LeavesRoom (limit depth : Nat) (tag : String) : Prop := depth + nesting (tagBody tag) ≤ limit

abbrev Level.Within (limit most depth : Nat) (e : Engine) (l : Level) : Prop :=
  Level.Related (.within limit most) (LeavesRoom limit depth) e e l l

theorem within_ask (hdepth : depth ≤ limit) (path : List String) :
    (ask r path depth).Within limit most := by
  have hquestion : (Run.event (.resolve path depth)).Within limit most :=
    within_event (by simpa [Event.depth?] using fun _ => hdepth)
  exact hquestion.bind fun _ => within_pure _

theorem within_askTemplate (hdepth : depth ≤ limit) (name : String) :
    (askTemplate r name depth).Within limit most := by
  have hquestion : (Run.event (.template name depth)).Within limit most :=
    within_event (by simpa [Event.depth?] using fun _ => hdepth)
  exact hquestion.bind fun _ => within_pure _

/-- A tag asks at its own depth, and its sub-references ask below it. -/
theorem Level.Within.aligned (h : Level.Within limit most (depth + 1) e (deeper ()))
    (hdepth : depth ≤ limit) :
    Aligned (.within limit most) (LeavesRoom limit (depth + 1)) e e r r depth depth deeper deeper where
  level := h
  filter v _ := h.applyFilter rfl rfl rfl (fun _ => within_notice _)
    (fun _ _ _ => RunRelation.indentBy (within_abort _)) v
  ask := within_ask hdepth
  askTemplate := within_askTemplate hdepth
  keepUndefined := rfl

theorem leavesRoom_subReferences {body : String} (h : depth + nesting body ≤ limit) :
    SubTags (LeavesRoom limit (depth + 1)) body := by
  intro inside hinside
  have hnest := nesting_subReference hinside
  unfold LeavesRoom
  omega

theorem within_unexpanded (template : String) : (e.unexpanded depth template).Within limit most :=
  (within_notice _).bind fun _ => within_pure _

theorem within_aliasUnexpanded (name : String) (v : Option Value) :
    (Run.notice (.aliasDepth name e.configuration.maxDepth) >>= fun _ => Pure.pure v).Within limit most :=
  (within_notice _).bind fun _ => within_pure _

/-- Beyond the bound each sub-reference is one level deeper and nests one level less. -/
theorem within_renderTagBeyond (length : Nat) {tag : String} (htag : LeavesRoom limit depth tag) :
    (e.renderTagBeyond r length depth tag).Within limit most := by
  induction length generalizing depth tag with
  | zero => exact within_pure _
  | succ length ih =>
    have hdepth : depth ≤ limit := Nat.le_trans (Nat.le_add_right depth _) htag
    have hlevel : Level.Within limit most (depth + 1) e
        ⟨e.unexpanded (depth + 1), e.renderTagBeyond r length (depth + 1), none⟩ :=
      ⟨fun _ => within_unexpanded _, fun _ => ih, fun name _ => within_aliasUnexpanded name⟩
    have haligned : Aligned (.within limit most) (LeavesRoom limit (depth + 1)) e e r r depth depth
        (fun _ => ⟨e.unexpanded (depth + 1), e.renderTagBeyond r length (depth + 1), none⟩) (fun _ => _) :=
      hlevel.aligned hdepth
    exact haligned.renderTagAt fun _ => leavesRoom_subReferences htag

theorem within_beyond : Level.Within limit most depth e (e.beyond r depth) where
  render _ := within_unexpanded _
  renderTag _ htag := within_renderTagBeyond _ htag
  throughAlias name _ := within_aliasUnexpanded name

/-- Each level within the bound leaves room for the sub-references of its tags. -/
theorem within_level (room : Nat) (hroom : depth + room + most ≤ limit + 1) :
    Level.Within limit most depth e (e.level r room depth) := by
  induction room generalizing depth with
  | zero => exact within_beyond
  | succ room ih =>
    have hlevel : Level.Within limit most (depth + 1) e (e.level r room (depth + 1)) := ih (by omega)
    have haligned : Aligned (.within limit most) (LeavesRoom limit (depth + 1)) e e r r depth depth
        (fun _ => e.level r room (depth + 1)) (fun _ => _) := hlevel.aligned (by omega)
    exact haligned.related
      (fun body (hbody : nesting body ≤ most) => leavesRoom_subReferences (by omega))
      fun tag htag _ => leavesRoom_subReferences htag

/-- For every bound on how deep sub-references nest. -/
theorem within_answers (e : Engine) (r : Resolver) (most : Nat) :
    Answers (.within (e.configuration.maxDepth + most) most) e e r r := by
  have hlevel : Level.Within (e.configuration.maxDepth + most) most 1 e (e.deeper r ()) :=
    within_level _ (by omega)
  refine (hlevel.aligned (Nat.zero_le _)).answers fun body (hbody : nesting body ≤ most) => ?_
  exact leavesRoom_subReferences (by omega)

theorem within_render (most : Nat) (template : String) :
    (e.render r template).Within (e.configuration.maxDepth + most) most :=
  (within_answers e r most).render template

theorem within_renderTag (most : Nat) (tag : String) :
    (e.renderTag r tag).Within (e.configuration.maxDepth + most) most :=
  (within_answers e r most).renderTag tag

theorem within_evaluateTag (most : Nat) (tag : String) :
    (e.evaluateTag r tag).Within (e.configuration.maxDepth + most) most :=
  (within_answers e r most).evaluateTag tag

theorem within_evaluateChain (most : Nat) (chain : String) (v : Option Value) :
    (e.evaluateChain r chain v).Within (e.configuration.maxDepth + most) most :=
  (within_answers e r most).evaluateChain chain v

end Engine

namespace Run

variable {α : Type}

def mostBacktickPairs (x : Run α) : Nat :=
  (x.events.map Event.backtickPairs).foldr max 0

/-- No question of a run is deeper than a bound by more levels than one of the tags that the run evaluates has
pairs of backticks, and none is deeper than the bound if these tags have no sub-references. -/
def DepthBounded (bound : Nat) (x : Run α) : Prop :=
  ∀ ev ∈ x.events, ∀ d ∈ ev.depth?,
    d ≤ bound + x.mostBacktickPairs ∧
      ((∀ body, .tag body ∈ x.events → subReferences body = []) → d ≤ bound)

theorem nesting_le_mostBacktickPairs {x : Run α} {ev : Event} (hev : ev ∈ x.events) :
    ev.nesting ≤ x.mostBacktickPairs := by
  have hpairs : ev.nesting ≤ ev.backtickPairs := by
    cases ev with
    | tag body => exact nesting_le body
    | _ => exact Nat.le_refl 0
  exact List.le_max_of_le' 0 (List.mem_map_of_mem hev) hpairs

theorem depthBounded_of_within {bound : Nat} {x : Run α}
    (h : ∀ most, x.Within (bound + most) most) : x.DepthBounded bound := by
  intro ev hev d hd
  constructor
  · exact h x.mostBacktickPairs (fun ev' hev' => nesting_le_mostBacktickPairs hev') ev hev d hd
  · intro hnone
    refine h 0 (fun ev' hev' => ?_) ev hev d hd
    cases ev' with
    | tag body => exact (if_pos (hnone body hev')).le
    | _ => exact Nat.le_refl 0

end Run

namespace Engine

/-- Whatever a resolver answers, and whatever aliases an engine has, the depth of questions is bounded. -/
theorem depth_bounded (e : Engine) (r : Resolver) :
    (∀ template, (e.render r template).DepthBounded e.configuration.maxDepth) ∧
      (∀ tag, (e.renderTag r tag).DepthBounded e.configuration.maxDepth) ∧
      (∀ tag, (e.evaluateTag r tag).DepthBounded e.configuration.maxDepth) ∧
      ∀ chain v, (e.evaluateChain r chain v).DepthBounded e.configuration.maxDepth := by
  refine ⟨fun template => ?_, fun tag => ?_, fun tag => ?_, fun chain v => ?_⟩
  · exact Run.depthBounded_of_within fun most => within_render most template
  · exact Run.depthBounded_of_within fun most => within_renderTag most tag
  · exact Run.depthBounded_of_within fun most => within_evaluateTag most tag
  · exact Run.depthBounded_of_within fun most => within_evaluateChain most chain v

end Engine

end Stencil
