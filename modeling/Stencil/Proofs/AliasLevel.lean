import Stencil.Proofs.Parallel

/-!
# Aliases as chains

An alias is the chain that it stands for, applied one level deeper. A resolver that pays no heed to depths gives
the same values at all levels, so that an alias costs an engine one level of its bound and nothing else.
-/
namespace Stencil

open Stencil.Text Stencil.Tag

namespace Tag

/-- A text that is read as the bare name of a filter. -/
structure IsBareName (name : String) : Prop where
  nonempty : name ≠ ""
  trimmed : trimmed name = name
  no_bar : '|' ∉ name.toList
  no_paren : '(' ∉ name.toList
  no_slash : '/' ∉ name.toList

namespace IsBareName

variable {name : String} (h : IsBareName name)
include h

theorem trim_toList : trim name.toList = name.toList := by
  have htrim := congrArg String.toList h.trimmed
  rwa [Text.trimmed, String.toList_ofList] at htrim

theorem filters_eq : filters name = [name] := by
  have hcut : cut '|' (false && (afterShape name.toList).length == name.toList.length)
      (afterShape name.toList) = none := by
    refine cut_eq_none_iff.mpr fun before after heq => ?_
    have hbar : '|' ∈ afterShape name.toList := by simp [heq]
    exact absurd ((afterShape_suffix name.toList).subset hbar) h.no_bar
  have hbar : atBoundary? false name.toList = none := by
    rw [atBoundary?]
    dsimp only
    rw [hcut, Option.map_none]
  rw [filters, segments_of_none hbar, List.map_singleton, h.trim_toList, String.ofList_toList]

theorem parse_name : (Invocation.parse name).name = name := by
  have hne : ∀ c ∈ name.toList, c ≠ '(' ∧ c ≠ '/' := fun c hc =>
    ⟨fun heq => h.no_paren (heq ▸ hc), fun heq => h.no_slash (heq ▸ hc)⟩
  have hsplit := splitHead_of_ne hne (t := []) (by simp)
  rw [List.append_nil] at hsplit
  rw [Invocation.parse, Invocation.ofChars, h.trim_toList, hsplit]
  exact String.ofList_toList

end IsBareName

end Tag

/-- The same event one level deeper, in an engine whose bound is one level deeper as well. -/
def Event.deeper : Event → Event
  | .resolve path depth => .resolve path (depth + 1)
  | .template name depth => .template name (depth + 1)
  | .notice (.renderDepth depth bound) => .notice (.renderDepth (depth + 1) (bound + 1))
  | .notice (.aliasDepth name bound) => .notice (.aliasDepth name (bound + 1))
  | ev => ev

namespace Run

variable {α β : Type}

def deeper (x : Run α) : Run α := ⟨x.events.map Event.deeper, x.outcome⟩

theorem deeper_pure (a : α) : (Pure.pure a : Run α).deeper = Pure.pure a := rfl

theorem deeper_bind (x : Run α) (f : α → Run β) :
    (x >>= f).deeper = x.deeper >>= fun a => (f a).deeper := by
  obtain ⟨events, outcome⟩ := x
  cases outcome <;> simp [deeper, Bind.bind, Run.bind]

theorem deeper_notice {n : Notice} (hn : n.isOrdinary = true) : (notice n).deeper = notice n := by
  cases n <;> first | rfl | exact Bool.noConfusion hn

end Run

def RunRelation.deeper : RunRelation where
  Holds x y := x = y.deeper
  Supposes _ := True
  pure a := (Run.deeper_pure a).symm
  notice hn := (Run.deeper_notice hn).symm
  tag h := by
    rw [Run.deeper_bind, h trivial]
    rfl
  bind hx hf := by rw [Run.deeper_bind, hx, funext hf]

structure Resolver.IgnoresDepth (r : Resolver) : Prop where
  resolve : ∀ path depth depth', r.resolve path depth = r.resolve path depth'
  template : ∀ name depth depth', r.template name depth = r.template name depth'

namespace Engine

variable (e : Engine) {r : Resolver}

theorem deeper_ask (hr : r.IgnoresDepth) (path : List String) (depth : Nat) :
    ask r path (depth + 1) = (ask r path depth).deeper := by
  unfold ask
  rw [Run.deeper_bind, hr.resolve path (depth + 1) depth]
  rfl

theorem deeper_askTemplate (hr : r.IgnoresDepth) (name : String) (depth : Nat) :
    askTemplate r name (depth + 1) = (askTemplate r name depth).deeper := by
  unfold askTemplate
  rw [Run.deeper_bind, hr.template name (depth + 1) depth]
  rfl

theorem companions_deeper (hr : r.IgnoresDepth) (bound : Nat) :
    Companions .deeper (e.withMaxDepth (bound + 1)) (e.withMaxDepth bound) r r 1 where
  filter hlevel v _ := hlevel.applyFilter rfl rfl rfl (fun _ => rfl)
    (fun _ _ _ => RunRelation.indentBy rfl) v
  ask := deeper_ask hr
  askTemplate := deeper_askTemplate hr
  keepUndefined := rfl
  renderDepth _ := rfl
  aliasDepth _ := rfl

/-- With one level more, an engine does below its first level what it does with one level less at the first. -/
theorem aligned_deeper (hr : r.IgnoresDepth) (bound : Nat) :
    Aligned .deeper (fun _ => True) (e.withMaxDepth (bound + 1)) (e.withMaxDepth bound) r r 1 0
      (fun _ => (e.withMaxDepth (bound + 1)).level r bound 2) ((e.withMaxDepth bound).deeper r) := by
  have h := companions_deeper e hr bound
  exact h.aligned 0 (h.level bound 1)

theorem settled_settleOption {deeper : Unit → Level} {v w : Option Value}
    (h : (settleOption deeper v).outcome = .ok w) : Settled w := by
  by_cases hv : Settled v
  · rw [settleOption_of_settled deeper hv] at h
    exact Except.ok.inj h ▸ hv
  · obtain ⟨template, rfl⟩ : ∃ template, v = some (.snippet template) := by
      simpa [Settled] using hv
    rw [settleOption_snippet, map_eq_pure_bind] at h
    obtain ⟨s, -, hs⟩ := Run.exists_of_outcome_bind h
    obtain rfl := Except.ok.inj hs
    simp [Settled]

/-- A chain that is given a settled value ends with one, even if it has no filters. -/
theorem settled_applyChain {e : Engine} {deeper : Unit → Level} {chain : String} {v w : Option Value}
    (hv : Settled v) (h : (e.applyChain deeper chain v).outcome = .ok w) : Settled w := by
  rw [applyChain_eq] at h
  generalize (filters chain).filter (· ≠ "") = fs at h
  -- each filter leaves a settled value to those behind it
  induction fs generalizing v with
  | nil => exact Except.ok.inj h ▸ hv
  | cons f fs ih =>
    rw [List.foldlM_cons] at h
    obtain ⟨u, hstep, hrest⟩ := Run.exists_of_outcome_bind h
    rw [← filterStep_bind_settleOption] at hstep
    obtain ⟨u', -, hsettle⟩ := Run.exists_of_outcome_bind hstep
    exact ih (settled_settleOption hsettle) hrest

theorem bind_settleOption_of_settled {x : Run (Option Value)} (deeper : Unit → Level)
    (h : ∀ v, x.outcome = .ok v → Settled v) : x >>= settleOption deeper = x := by
  obtain ⟨events, outcome⟩ := x
  cases outcome with
  | error abort => rfl
  | ok v =>
    have hsettle := settleOption_of_settled deeper (h v rfl)
    simp [Bind.bind, Run.bind, hsettle, Pure.pure, Run.pure]

/-- A name that stands for a chain, as no custom filter has it. -/
structure IsAlias (e : Engine) (name chain : String) : Prop extends IsBareName name where
  custom : Table.get? (Unicode.lowercase name) e.registry.custom = none
  aliases : Table.get? (Unicode.lowercase name) e.registry.aliases = some chain

variable {e} {name chain : String} (h : e.IsAlias name chain)
include h

theorem IsAlias.applyFilter (deeper : Unit → Level) (v : Option Value) :
    e.applyFilter deeper v name = e.throughAlias (deeper ()) (Unicode.lowercase name) chain v := by
  unfold Engine.applyFilter
  dsimp only
  rw [h.parse_name, h.custom, h.aliases]
  rfl

theorem IsAlias.withMaxDepth (bound : Nat) : (e.withMaxDepth bound).IsAlias name chain :=
  ⟨h.toIsBareName, h.custom, h.aliases⟩

omit h in
theorem settled_throughAlias {v w : Option Value} (hv : Settled v)
    (hw : (e.throughAlias (e.deeper r ()) name chain v).outcome = .ok w) : Settled w := by
  unfold Engine.deeper at hw
  cases hbound : e.configuration.maxDepth with
  | zero =>
    rw [hbound] at hw
    exact Except.ok.inj hw ▸ hv
  | succ bound =>
    rw [hbound] at hw
    exact settled_applyChain hv hw

/-- Applying an alias to a settled value is passing it through the level below. -/
theorem IsAlias.evaluateChain {v : Option Value} (hv : Settled v) :
    e.evaluateChain r name v =
      e.throughAlias (e.deeper r ()) (Unicode.lowercase name) chain v := by
  have hsettled : ∀ w, (e.throughAlias (e.deeper r ()) (Unicode.lowercase name) chain v).outcome =
      .ok w → Settled w := fun _ => settled_throughAlias hv
  rw [evaluateChain_single _ _ h.filters_eq h.nonempty, filterStep, h.applyFilter,
    bind_settleOption_of_settled _ hsettled]

omit h in
theorem evaluateChain_of_settled {v : Option Value} (hv : Settled v) :
    e.evaluateChain r chain v = e.applyChain (e.deeper r) chain v :=
  bind_settleOption_of_settled _ fun _ => settled_applyChain hv

/-- An alias is its chain, one level deeper: with one level more the alias gives what the chain gives, and tells
of the same events one level deeper. Without levels it leaves its input as it is. -/
theorem evaluateChain_alias (hr : r.IgnoresDepth) {v : Option Value} (hv : Settled v) :
    (∀ bound,
      ((e.withMaxDepth (bound + 1)).evaluateChain r name v).outcome =
        ((e.withMaxDepth bound).evaluateChain r chain v).outcome ∧
      ((e.withMaxDepth (bound + 1)).evaluateChain r name v).events =
        ((e.withMaxDepth bound).evaluateChain r chain v).events.map Event.deeper) ∧
    ((e.withMaxDepth 0).evaluateChain r name v).outcome = .ok v := by
  constructor
  · intro bound
    have hdeeper : (e.withMaxDepth (bound + 1)).evaluateChain r name v =
        ((e.withMaxDepth bound).evaluateChain r chain v).deeper := by
      rw [(h.withMaxDepth (bound + 1)).evaluateChain hv, evaluateChain_of_settled hv]
      exact (aligned_deeper e hr bound).applyChain chain v
    rw [hdeeper]
    exact ⟨rfl, rfl⟩
  · rw [(h.withMaxDepth 0).evaluateChain hv]
    rfl

omit h

/-- An alias of a chain that uses the alias itself. -/
def circular : Engine := standard.addAlias "Loop" "default({~x})|loop"

theorem circular_isAlias : circular.IsAlias "LOOP" "default({~x})|loop" where
  nonempty := by decide
  trimmed := by decide +kernel
  no_bar := by decide
  no_paren := by decide
  no_slash := by decide
  custom := by decide +kernel
  aliases := by decide +kernel

theorem evaluateChain_alias_circular :
    circular.IsAlias "LOOP" "default({~x})|loop" ∧ silent.IgnoresDepth ∧ Settled none ∧
    (∀ bound,
      ((circular.withMaxDepth (bound + 1)).evaluateChain silent "LOOP" none).outcome =
        ((circular.withMaxDepth bound).evaluateChain silent "default({~x})|loop" none).outcome ∧
      ((circular.withMaxDepth (bound + 1)).evaluateChain silent "LOOP" none).events =
        ((circular.withMaxDepth bound).evaluateChain silent
          "default({~x})|loop" none).events.map Event.deeper) ∧
    ((circular.withMaxDepth 0).evaluateChain silent "LOOP" none).outcome = .ok none := by
  have hr : silent.IgnoresDepth := ⟨fun _ _ _ => rfl, fun _ _ _ => rfl⟩
  have hv : Settled none := fun _ => nofun
  exact ⟨circular_isAlias, hr, hv, evaluateChain_alias circular_isAlias hr hv⟩

end Engine

end Stencil
