import Stencil.Engine
import Stencil.Proofs.ChainText
import Stencil.Proofs.Invocation

/-!
# Chains as compositions

Applying a chain is applying its parts one after the other. Each filter leaves a settled value, so that
nothing is rendered twice where two parts meet. Filters that an engine does not know, and custom filters
that fail, change nothing but what a snippet before them would be rendered later.
-/
namespace Stencil

namespace Run

variable {α β : Type}

theorem outcome_pure (a : α) : (Pure.pure a : Run α).outcome = .ok a := rfl

theorem outcome_bind (x : Run α) (f : α → Run β) :
    (x >>= f).outcome = x.outcome.bind fun a => (f a).outcome := by
  obtain ⟨events, outcome⟩ := x
  cases outcome <;> rfl

theorem exists_of_outcome_bind {x : Run α} {f : α → Run β} {b : β} (h : (x >>= f).outcome = .ok b) :
    ∃ a, x.outcome = .ok a ∧ (f a).outcome = .ok b := by
  rw [outcome_bind] at h
  cases hx : x.outcome with
  | error abort =>
    rw [hx] at h
    cases h
  | ok a =>
    rw [hx] at h
    exact ⟨a, rfl, h⟩

theorem outcome_event_bind (ev : Event) (f : Unit → Run β) :
    (event ev >>= f).outcome = (f ()).outcome := rfl

theorem outcome_notice_bind (n : Notice) (f : Unit → Run β) :
    (notice n >>= f).outcome = (f ()).outcome := outcome_event_bind _ f

theorem outcome_bind_congr {x : Run α} {f g : α → Run β} (h : ∀ a, (f a).outcome = (g a).outcome) :
    (x >>= f).outcome = (x >>= g).outcome := by
  rw [outcome_bind, outcome_bind]
  exact congrArg x.outcome.bind (funext h)

end Run

namespace Engine

open Stencil.Text Stencil.Tag Stencil.Tag.Grammar

variable (e : Engine) (r : Resolver) (deeper : Unit → Level)

def Settled (v : Option Value) : Prop := ∀ template, v ≠ some (.snippet template)

theorem settle_of_settled {v : Value} (h : Settled (some v)) : settle deeper v = pure v := by
  cases v with
  | snippet template => exact absurd rfl (h template)
  | text s => rfl
  | list items => rfl
  | map entries => rfl

theorem settleOption_of_settled {v : Option Value} (h : Settled v) :
    settleOption deeper v = pure v := by
  cases v with
  | none => rfl
  | some v =>
    rw [settleOption, Option.mapM_some, settle_of_settled deeper h]
    rfl

theorem settleOption_snippet (template : String) :
    settleOption deeper (some (.snippet template)) =
      (fun s => some (.text s)) <$> (deeper ()).render template := by
  rw [settleOption, Option.mapM_some, settle]
  simp

/-- Rendering leaves nothing to render. -/
theorem settleOption_settleOption (v : Option Value) :
    settleOption deeper v >>= settleOption deeper = settleOption deeper v := by
  by_cases h : Settled v
  · rw [settleOption_of_settled deeper h, pure_bind, settleOption_of_settled deeper h]
  · obtain ⟨template, rfl⟩ : ∃ template, v = some (.snippet template) := by
      simpa [Settled] using h
    rw [settleOption_snippet, map_eq_pure_bind, bind_assoc]
    rfl

/-- Applies one filter and renders what it produces. -/
def filterStep (v : Option Value) (filter : String) : Run (Option Value) := do
  settleOption deeper (← e.applyFilter deeper v filter)

theorem applyChain_eq (chain : String) (v : Option Value) :
    e.applyChain deeper chain v =
      ((filters chain).filter (· ≠ "")).foldlM (e.filterStep deeper) v := rfl

theorem applyChain_of_filters {chain : String} {fs : List String} (hfilters : filters chain = fs)
    (hne : ∀ f ∈ fs, f ≠ "") (v : Option Value) :
    e.applyChain deeper chain v = fs.foldlM (e.filterStep deeper) v := by
  have hall : fs.filter (· ≠ "") = fs := List.filter_eq_self.mpr fun f hf => by simpa using hne f hf
  rw [applyChain_eq, hfilters, hall]

theorem applyChain_single {s : String} (hs : filters s = [s]) (hne : s ≠ "") (v : Option Value) :
    e.applyChain deeper s v = e.filterStep deeper v s := by
  rw [applyChain_of_filters e deeper hs (by simpa using hne), List.foldlM_cons]
  simp

theorem filterStep_bind_settleOption (v : Option Value) (filter : String) :
    e.filterStep deeper v filter >>= settleOption deeper = e.filterStep deeper v filter := by
  rw [filterStep, bind_assoc]
  congr 1
  funext w
  exact settleOption_settleOption deeper w

/-- After one filter at least the value is settled. -/
theorem foldlM_bind_settleOption {fs : List String} (hfs : fs ≠ []) (v : Option Value) :
    fs.foldlM (e.filterStep deeper) v >>= settleOption deeper =
      fs.foldlM (e.filterStep deeper) v := by
  induction fs generalizing v with
  | nil => exact absurd rfl hfs
  | cons f fs ih =>
    rw [List.foldlM_cons, bind_assoc]
    cases fs with
    | nil =>
      simp only [List.foldlM_nil, pure_bind, bind_pure]
      exact filterStep_bind_settleOption e deeper v f
    | cons f' fs =>
      congr 1
      funext w
      exact ih (by simp) w

theorem evaluateChain_single {s : String} (hs : filters s = [s]) (hne : s ≠ "") (v : Option Value) :
    e.evaluateChain r s v = e.filterStep (e.deeper r) v s := by
  rw [evaluateChain, applyChain_single e (e.deeper r) hs hne]
  exact filterStep_bind_settleOption e (e.deeper r) v s

theorem text_ne_empty (w : Filter) : w.text ≠ "" := by
  intro h
  have hchars := congrArg String.toList h
  rw [toList_text] at hchars
  exact print_ne_nil w hchars

theorem ne_empty_of_mem_texts (ws : List Filter) : ∀ s ∈ ws.map Filter.text, s ≠ "" := by
  intro s hs
  obtain ⟨w, -, rfl⟩ := List.mem_map.mp hs
  exact text_ne_empty w

theorem filter_texts (ws : List Filter) :
    (ws.map Filter.text).filter (· ≠ "") = ws.map Filter.text :=
  List.filter_eq_self.mpr fun s hs => by simpa using ne_empty_of_mem_texts ws s hs

theorem evaluateChain_chainText {ws : List Filter} (hws : ws ≠ []) (v : Option Value) :
    e.evaluateChain r (chainText ws) v =
      (ws.map Filter.text).foldlM (e.filterStep (e.deeper r)) v := by
  rw [evaluateChain, applyChain_of_filters e _ (filters_chainText hws) (ne_empty_of_mem_texts ws)]
  exact foldlM_bind_settleOption e _ (by simpa using hws) v

theorem applyChain_text (w : Filter) (v : Option Value) :
    e.applyChain deeper w.text v = e.filterStep deeper v w.text :=
  applyChain_single e deeper (filters_text w) (text_ne_empty w) v

theorem evaluateChain_text (w : Filter) (v : Option Value) :
    e.evaluateChain r w.text v = e.filterStep (e.deeper r) v w.text :=
  evaluateChain_single e r (filters_text w) (text_ne_empty w) v

/-- Whatever follows a chain of written filters takes up what the chain produces. -/
theorem evaluateChain_chainText_append {ws : List Filter} (hws : ws ≠ []) (c : String)
    (v : Option Value) :
    e.evaluateChain r (chainText ws ++ "|" ++ c) v =
      e.evaluateChain r (chainText ws) v >>= e.evaluateChain r c := by
  rw [evaluateChain_chainText e r hws, evaluateChain, applyChain_eq, filters_chainText_append hws,
    List.filter_append, filter_texts, List.foldlM_append, bind_assoc]
  rfl

theorem evaluateChain_bind_settleOption (chain : String) (v : Option Value) :
    e.evaluateChain r chain v >>= settleOption (e.deeper r) = e.evaluateChain r chain v := by
  rw [evaluateChain, bind_assoc]
  congr 1
  funext w
  exact settleOption_settleOption (e.deeper r) w

/-- A filter without effect: no filter has its name, or a custom filter has it that fails on every input. -/
inductive Ignored (u : Filter) : Prop where
  | unknown {name : Name} (written : u.name? = some name)
      (custom : Table.get? (Unicode.lowercase (String.ofList name.chars)) e.registry.custom = none)
      (aliases : Table.get? (Unicode.lowercase (String.ofList name.chars)) e.registry.aliases = none)
      (stock : Stock.ofName? (Unicode.lowercase (String.ofList name.chars)) = none)
  | failing {name : Name} {f : CustomFilter} (written : u.name? = some name)
      (custom : Table.get? (Unicode.lowercase (String.ofList name.chars)) e.registry.custom = some f)
      (fails : ∀ v, ∃ message, f v (Invocation.parse u.text).callArguments = .error message)

variable {e}

theorem applyFilter_of_ignored {u : Filter} (h : e.Ignored u) (v : Option Value) :
    ∃ n, e.applyFilter deeper v u.text = Run.notice n >>= fun _ => pure v := by
  cases h with
  | @unknown name written custom aliases stock =>
    refine ⟨.unknownFilter (String.ofList name.chars), ?_⟩
    unfold applyFilter
    dsimp only
    rw [parse_text_name written, custom, aliases, stock]
  | @failing name f written custom fails =>
    obtain ⟨message, hmessage⟩ := fails v
    refine ⟨.customFault (String.ofList name.chars) message, ?_⟩
    unfold applyFilter
    dsimp only
    rw [parse_text_name written, custom]
    dsimp only
    rw [hmessage]

/-- All that a filter without effect does is to have its input rendered. -/
theorem outcome_evaluateChain_of_ignored {u : Filter} (h : e.Ignored u) (v : Option Value) :
    (e.evaluateChain r u.text v).outcome = (settleOption (e.deeper r) v).outcome := by
  obtain ⟨n, hn⟩ := applyFilter_of_ignored (e.deeper r) h v
  rw [evaluateChain_text, filterStep, hn, bind_assoc, Run.outcome_notice_bind, pure_bind]

theorem outcome_evaluateChain_ignored_append {u : Filter} (h : e.Ignored u) (c : String)
    (v : Option Value) :
    (e.evaluateChain r (u.text ++ "|" ++ c) v).outcome =
      (settleOption (e.deeper r) v >>= e.evaluateChain r c).outcome := by
  have hchain := evaluateChain_chainText_append e r (List.cons_ne_nil u []) c v
  rw [chainText_singleton] at hchain
  rw [hchain, Run.outcome_bind, outcome_evaluateChain_of_ignored r h, ← Run.outcome_bind]

variable (e)

/-- A chain is the composition of its parts, and a filter without effect can be left out: behind another
filter always, and before the first one where the input is settled. A snippet before it is rendered first. -/
theorem evaluateChain_composes {ws : List Filter} (hws : ws ≠ []) (c : String) (v : Option Value) :
    e.evaluateChain r (chainText ws ++ "|" ++ c) v =
      e.evaluateChain r (chainText ws) v >>= e.evaluateChain r c ∧
    ∀ u, e.Ignored u →
      (e.evaluateChain r (chainText ws ++ "|" ++ (u.text ++ "|" ++ c)) v).outcome =
        (e.evaluateChain r (chainText ws ++ "|" ++ c) v).outcome ∧
      (e.evaluateChain r (chainText ws ++ "|" ++ u.text) v).outcome =
        (e.evaluateChain r (chainText ws) v).outcome ∧
      (Settled v → (e.evaluateChain r (u.text ++ "|" ++ c) v).outcome =
        (e.evaluateChain r c v).outcome) ∧
      (e.evaluateChain r (u.text ++ "|" ++ c) v).outcome =
        (settleOption (e.deeper r) v >>= e.evaluateChain r c).outcome := by
  have hparts := fun c => evaluateChain_chainText_append e r hws c v
  have hsettled := evaluateChain_bind_settleOption e r (chainText ws) v
  refine ⟨hparts c, fun u hu => ⟨?_, ?_, ?_, outcome_evaluateChain_ignored_append r hu c v⟩⟩
  · calc (e.evaluateChain r (chainText ws ++ "|" ++ (u.text ++ "|" ++ c)) v).outcome
      _ = (e.evaluateChain r (chainText ws) v >>=
            e.evaluateChain r (u.text ++ "|" ++ c)).outcome := by rw [hparts]
      _ = (e.evaluateChain r (chainText ws) v >>= fun w =>
            settleOption (e.deeper r) w >>= e.evaluateChain r c).outcome :=
          Run.outcome_bind_congr fun w => outcome_evaluateChain_ignored_append r hu c w
      _ = (e.evaluateChain r (chainText ws ++ "|" ++ c) v).outcome := by
          rw [← bind_assoc, hsettled, hparts]
  · calc (e.evaluateChain r (chainText ws ++ "|" ++ u.text) v).outcome
      _ = (e.evaluateChain r (chainText ws) v >>= e.evaluateChain r u.text).outcome := by rw [hparts]
      _ = (e.evaluateChain r (chainText ws) v >>= settleOption (e.deeper r)).outcome :=
          Run.outcome_bind_congr fun w => outcome_evaluateChain_of_ignored r hu w
      _ = (e.evaluateChain r (chainText ws) v).outcome := by rw [hsettled]
  · intro hv
    rw [outcome_evaluateChain_ignored_append r hu, settleOption_of_settled _ hv, pure_bind]

def silent : Resolver := ⟨fun _ _ => none, fun _ _ => none⟩

def nosuch : Filter := .bare ⟨"nosuch".toList, by decide, List.all_eq_true.mp (by decide)⟩

theorem ignored_nosuch : standard.Ignored nosuch := .unknown rfl rfl (by decide) (by decide)

theorem evaluateChain_composes_nosuch :
    standard.evaluateChain silent "nosuch|type" (some (.text "a")) =
      (standard.evaluateChain silent "nosuch" (some (.text "a")) >>=
        standard.evaluateChain silent "type") ∧
    (standard.evaluateChain silent "nosuch|nosuch|type" (some (.text "a"))).outcome =
      (standard.evaluateChain silent "nosuch|type" (some (.text "a"))).outcome := by
  have htext : chainText [nosuch] = "nosuch" := by decide
  have htext' : nosuch.text = "nosuch" := by decide
  have h := standard.evaluateChain_composes silent
    (List.cons_ne_nil nosuch []) "type" (some (.text "a"))
  rw [htext] at h
  have hinsert := (h.2 nosuch ignored_nosuch).1
  rw [htext'] at hinsert
  exact ⟨h.1, hinsert⟩

def bareType : Filter := .bare ⟨"type".toList, by decide, List.all_eq_true.mp (by decide)⟩

theorem evaluateChain_type (r : Resolver) (v : Option Value) :
    standard.evaluateChain r "type" v = pure (some (.text (Value.kindOr v))) := by
  have htext : bareType.text = "type" := by decide
  rw [← htext, evaluateChain_text]
  rfl

theorem settleOption_empty (r : Resolver) :
    settleOption (standard.deeper r) (some (.snippet "")) = pure (some (.text "")) := by
  have hpieces : Piece.pieces "".toList = [] := by simp [Piece.pieces]
  have hrender : ((standard.deeper r) ()).render "" = pure "" := by
    change standard.renderAt r 1 _ "" = pure ""
    rw [renderAt, hpieces]
    rfl
  rw [settleOption_snippet, hrender]
  rfl

/-- Before the first filter an unknown name is seen: a snippet is rendered that the chain takes as it is. -/
theorem ignored_before_snippet :
    standard.Ignored nosuch ∧
    (standard.evaluateChain silent "nosuch|type"
      (some (.snippet ""))).outcome = .ok (some (.text "STRING")) ∧
    (standard.evaluateChain silent "type"
      (some (.snippet ""))).outcome = .ok (some (.text "CHUNK")) := by
  have htext : nosuch.text = "nosuch" := by decide
  have h := outcome_evaluateChain_ignored_append silent ignored_nosuch
    "type" (some (.snippet ""))
  rw [htext, settleOption_empty, pure_bind, evaluateChain_type] at h
  rw [evaluateChain_type]
  exact ⟨ignored_nosuch, h, rfl⟩

end Engine

end Stencil
