import Stencil.Proofs.Parallel

/-!
# Raising the bound

A run that never meets the bound on levels is the same under every higher bound: the bound acts only where a
notice tells of it.
-/
namespace Stencil

open Stencil.Tag

def Event.isBoundNotice : Event → Bool
  | .notice (.renderDepth _ _) | .notice (.aliasDepth _ _) => true
  | _ => false

namespace Run

variable {α β : Type}

/-- A run that the bound on levels never cuts short. -/
def Unhindered (x : Run α) : Prop := ∀ ev ∈ x.events, ev.isBoundNotice = false

instance (x : Run α) : Decidable x.Unhindered := List.decidableBAll _ x.events

theorem Unhindered.of_bind {x : Run α} {f : α → Run β} (h : (x >>= f).Unhindered) :
    x.Unhindered ∧ ∀ a, x.outcome = .ok a → (f a).Unhindered := by
  unfold Unhindered at h
  rw [events_bind] at h
  constructor
  · exact fun ev hev => h ev (List.mem_append_left _ hev)
  · intro a ha ev hev
    rw [ha] at h
    exact h ev (List.mem_append_right _ hev)

theorem not_unhindered_bind {n : Notice} (hn : (Event.notice n).isBoundNotice = true)
    (f : Unit → Run α) : ¬ (Run.notice n >>= f).Unhindered := by
  intro h
  have hnotice := h.of_bind.1 (.notice n) (by simp [Run.notice, Run.event])
  rw [hn] at hnotice
  exact Bool.noConfusion hnotice

end Run

/-- The second run is the first one, unless the bound cuts the first one short. -/
def RunRelation.extends : RunRelation where
  Holds x y := x.Unhindered → y = x
  Supposes _ := True
  pure _ _ := rfl
  notice _ _ := rfl
  tag h hx := by rw [h trivial (hx.of_bind.2 () rfl)]
  bind {α β x y f g} hx hf h := by
    obtain ⟨hfirst, hthen⟩ := h.of_bind
    rw [hx hfirst]
    obtain ⟨events, outcome⟩ := x
    cases outcome with
    | error abort => rfl
    | ok a =>
      have hrest := hf a (hthen a rfl)
      simp only [Bind.bind, Run.bind, hrest]

def RunRelation.same : RunRelation where
  Holds x y := x = y
  Supposes _ := True
  pure _ := rfl
  notice _ := rfl
  tag h := bind_congr fun _ => h trivial
  bind hx hf := hx ▸ bind_congr hf

namespace Engine

variable (e : Engine) (r : Resolver)

/-- Sub-references are shorter than their tags, so that no tag nests deeper than it is long. -/
theorem renderTagBeyond_eq {length : Nat} {tag : String} (h : tag.length < length) (depth : Nat) :
    e.renderTagBeyond r length depth tag =
      e.renderTagAt r depth (fun _ => e.level r 0 (depth + 1)) tag := by
  induction length using Nat.strongRecOn generalizing tag depth with
  | ind length ih =>
    obtain ⟨length, rfl⟩ := Nat.exists_eq_succ_of_ne_zero (Nat.ne_zero_of_lt h)
    have hlevel : Level.Related .same (fun t => t.length < tag.length) e e
        ⟨e.unexpanded (depth + 1), e.renderTagBeyond r length (depth + 1), none⟩
        (e.level r 0 (depth + 1)) := {
      render := fun template => Eq.refl (e.unexpanded (depth + 1) template)
      renderTag := fun t ht => by
        -- either side is as long as it takes for the shorter tag
        have hlt : t.length < length := by omega
        have hlong := ih length (Nat.lt_succ_self _) hlt (depth + 1)
        have hshort := ih (t.length + 1) (by omega) (Nat.lt_succ_self _) (depth + 1)
        unfold level beyond
        dsimp only
        exact hlong.trans hshort.symm
      throughAlias := fun name _ v =>
        Eq.refl (Run.notice (.aliasDepth name e.configuration.maxDepth) >>= fun _ => Pure.pure v) }
    have haligned : Aligned .same (fun t => t.length < tag.length) e e r r depth depth
        (fun _ => ⟨e.unexpanded (depth + 1), e.renderTagBeyond r length (depth + 1), none⟩)
        (fun _ => e.level r 0 (depth + 1)) :=
      .of_related (fun _ => rfl) rfl rfl hlevel
    rw [renderTagBeyond]
    exact haligned.renderTagAt fun _ _ => length_subReference

/-- At every level a tag is rendered with the level below, beyond the bound too. -/
theorem renderTag_level (room depth : Nat) (tag : String) :
    (e.level r room depth).renderTag tag =
      e.renderTagAt r depth (fun _ => e.level r (room - 1) (depth + 1)) tag := by
  cases room with
  | zero =>
    rw [← renderTagBeyond_eq e r (Nat.lt_succ_self tag.length) depth, level, beyond]
  | succ room => simp only [level, Nat.add_sub_cancel]

section Bounds

variable (bound bound' : Nat)

theorem extends_refl {α : Type} (x : Run α) : RunRelation.extends.Holds x x := fun _ => rfl

/-- Beyond the lower bound nothing but the sub-references of tags comes about without a notice. -/
theorem extends_beyond {P : String → Prop} {depth room' : Nat}
    (hrenderTag : ∀ tag, P tag →
      RunRelation.extends.Holds (((e.withMaxDepth bound).level r 0 depth).renderTag tag)
        (((e.withMaxDepth bound').level r room' depth).renderTag tag)) :
    Level.Related .extends P (e.withMaxDepth bound) (e.withMaxDepth bound')
      ((e.withMaxDepth bound).level r 0 depth) ((e.withMaxDepth bound').level r room' depth) where
  render _ hx := absurd hx (Run.not_unhindered_bind rfl _)
  renderTag := hrenderTag
  throughAlias _ _ _ hx := absurd hx (Run.not_unhindered_bind rfl _)

theorem extends_renderTag_beyond (room' depth : Nat) (tag : String) :
    RunRelation.extends.Holds (((e.withMaxDepth bound).level r 0 depth).renderTag tag)
      (((e.withMaxDepth bound').level r room' depth).renderTag tag) := by
  induction hn : tag.length using Nat.strongRecOn generalizing room' depth tag with
  | ind n ih =>
    subst hn
    have hlevel := extends_beyond e r bound bound' (P := fun t => t.length < tag.length)
      fun t ht => ih t.length ht (room' - 1) (depth + 1) t rfl
    have haligned : Aligned .extends (fun t => t.length < tag.length) (e.withMaxDepth bound)
        (e.withMaxDepth bound') r r depth depth (fun _ => _) (fun _ => _) :=
      .of_related extends_refl rfl rfl hlevel
    rw [renderTag_level, renderTag_level]
    exact haligned.renderTagAt fun _ _ => length_subReference

/-- With more levels left, an engine does the same until fewer levels would have been met. -/
theorem extends_level {room room' : Nat} (h : room ≤ room') (depth : Nat) :
    Level.Related .extends (fun _ => True) (e.withMaxDepth bound) (e.withMaxDepth bound')
      ((e.withMaxDepth bound).level r room depth) ((e.withMaxDepth bound').level r room' depth) := by
  induction room generalizing room' depth with
  | zero =>
    exact extends_beyond e r bound bound' fun tag _ =>
      extends_renderTag_beyond e r bound bound' room' depth tag
  | succ room ih =>
    obtain ⟨room', rfl⟩ := Nat.exists_eq_succ_of_ne_zero (Nat.ne_zero_of_lt h)
    have haligned : Aligned .extends (fun _ => True) (e.withMaxDepth bound)
        (e.withMaxDepth bound') r r depth depth (fun _ => _) (fun _ => _) :=
      .of_related extends_refl rfl rfl (ih (Nat.le_of_succ_le_succ h) (depth + 1))
    exact haligned.related (fun _ _ _ _ => trivial) fun _ _ _ _ _ => trivial

end Bounds

/-- A render that the bound does not cut short is the same under every higher bound: its text, its questions
with their depths, and its notices. -/
theorem render_withMaxDepth_of_unhindered {bound bound' : Nat} (h : bound ≤ bound') (template : String)
    (hx : ((e.withMaxDepth bound).render r template).Unhindered) :
    (e.withMaxDepth bound').render r template = (e.withMaxDepth bound).render r template := by
  have haligned : Aligned .extends (fun _ => True) (e.withMaxDepth bound) (e.withMaxDepth bound')
      r r 0 0 ((e.withMaxDepth bound).deeper r) ((e.withMaxDepth bound').deeper r) :=
    .of_related extends_refl rfl rfl (extends_level e r bound bound' h 1)
  exact haligned.renderAt (fun _ _ _ _ => trivial) template hx

def nested : Resolver where
  resolve path _ := if path = ["x"] then some (.snippet "\x7b~y\x7d") else some (.text "b")
  template _ _ := none

theorem render_withMaxDepth_of_unhindered_nested :
    1 ≤ 8 ∧ ((standard.withMaxDepth 1).render nested "\x7b~x\x7d").Unhindered ∧
    (standard.withMaxDepth 8).render nested "\x7b~x\x7d" =
      (standard.withMaxDepth 1).render nested "\x7b~x\x7d" := by
  have hx : ((standard.withMaxDepth 1).render nested "\x7b~x\x7d").Unhindered := by decide +kernel
  exact ⟨by decide, hx, standard.render_withMaxDepth_of_unhindered nested (by decide) _ hx⟩

end Engine

end Stencil
