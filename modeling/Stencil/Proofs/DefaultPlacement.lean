import Stencil.Proofs.Evaluation
import Stencil.Proofs.StockCall

/-!
# The place of a default

A default before the chain of a tag is filtered, and one behind it is not. The chain runs in both cases, so
that a default behind it is used only if the chain leaves the missing value absent.
-/
namespace Stencil

open Stencil.Text Stencil.Tag Stencil.Tag.Grammar

open Expression (splitDefault chainOf)

theorem splitDefault_colon_inert {d : List Char} (hd : ∀ c ∈ d, isInert c = true) :
    splitDefault (':' :: d) = ([], some d) := by
  have hshape : afterShape (':' :: d) = ':' :: d := by
    have hword : dropStart? "onmatch".toList (':' :: d) = none := rfl
    unfold afterShape
    dsimp only
    rw [trimStart_of_head (by simp [isBlank]), hword]
    rfl
  have hbar : cut '|' false (':' :: d) = none := by
    have hback : '\\' ∉ ':' :: d := by
      intro h
      rcases List.mem_cons.mp h with h | h
      · exact absurd h (by decide)
      · exact isInert_ne (hd _ h) (by simp) rfl
    have hmark : '|' ∉ ':' :: d := by
      intro h
      rcases List.mem_cons.mp h with h | h
      · exact absurd h (by decide)
      · exact isInert_ne (hd _ h) (by simp) rfl
    have h := cut_append_of_not_mem hmark hback []
    simpa [cut] using h
  have hboundary : atBoundary? false (':' :: d) = none := by
    rw [atBoundary?, hshape]
    dsimp only
    rw [Bool.false_and, hbar]
    rfl
  have hcolon : cut ':' false (':' :: d) = some ([], d) := by simp [cut]
  rw [splitDefault, hshape]
  dsimp only
  split
  · next h _ => simp [hcolon] at h
  · next loose d' h _ =>
    rw [hcolon] at h
    obtain ⟨rfl, rfl⟩ := Prod.mk.inj (Option.some.inj h)
    simp
  · next h => simp [hboundary] at h

theorem splitDefault_chain_colon (us : List StockCall) {d : List Char} (hd : ∀ c ∈ d, isInert c = true) :
    splitDefault ((StockCall.chain us).toList ++ ':' :: d) = ((StockCall.chain us).toList, some d) := by
  rw [StockCall.chain, String.toList_ofList]
  by_cases hus : us = []
  · rw [hus]
    exact splitDefault_colon_inert hd
  · exact splitDefault_bars_colon (StockCall.readable_of_mem us) (by simpa using hus) d

theorem inner?_of_mem_segments (path : List Segment) :
    ∀ segment ∈ path.map Segment.text, inner? segment.toList = none := by
  intro segment hsegment
  obtain ⟨s, -, rfl⟩ := List.mem_map.mp hsegment
  rw [Segment.text, String.toList_ofList]
  exact inner?_eq_none fun h => (s.ne_separator _ h).2 rfl

namespace Engine

variable (e : Engine) (r : Resolver) (deeper : Unit → Level)

theorem filters_empty : filters "" = [""] := by
  have hsegments : segments [] = [[]] := by
    rw [segments]
    rfl
  rw [filters, String.toList_empty, hsegments]
  rfl

theorem applyChain_empty (v : Option Value) : e.applyChain deeper "" v = pure v := by
  rw [applyChain_eq, filters_empty]
  rfl

theorem throughChain_calls {x : Expression} (us : List StockCall)
    (hx : x.chain = chainOf (StockCall.chain us).toList) (v : Option Value) :
    e.throughChain deeper x v = e.applyChain deeper (StockCall.chain us) v := by
  by_cases hus : us = []
  · subst hus
    have hempty : StockCall.chain [] = "" := rfl
    rw [throughChain, hx, hempty, applyChain_empty]
    rfl
  · have hchain := chainOf_bars (StockCall.readable_of_mem us) (by simpa using hus)
    rw [StockCall.chain, String.toList_ofList, hchain] at hx
    rw [throughChain, hx]
    rfl

variable {path : List Segment} (hpath : path ≠ []) (habsent : r.resolve (path.map Segment.text) 0 = none)
  (us : List StockCall) {d : String} (hd : ∀ c ∈ d.toList, isInert c = true)
include hpath habsent hd

theorem outcome_evaluateTag_before :
    (e.evaluateTag r
      ("\x7b~" ++ pathText path ++ ":" ++ d ++ "|" ++ StockCall.chain us ++ "\x7d")).outcome =
        (settleOption (e.deeper r) (some (referenced d)) >>=
          e.evaluateChain r (StockCall.chain us)).outcome := by
  have htag : "\x7b~" ++ pathText path ++ ":" ++ d ++ "|" ++ StockCall.chain us ++ "\x7d" =
      String.ofList ('\x7b' :: ('~' :: ((pathText path).toList ++
        ':' :: (d.toList ++ '|' :: (StockCall.chain us).toList)) ++ ['\x7d'])) := by
    rw [← String.toList_inj]
    simp
  have hread := ofChars_colon_pipe (isInert_pathText path) hd (StockCall.chain us).toList
  rw [trim_pathText, segmentsOf_pathText hpath, String.ofList_toList] at hread
  have hchain := throughChain_calls e (e.deeper r) us (congrArg Expression.chain hread)
  rw [htag, outcome_evaluateTag_value]
  · rw [congrArg Expression.path hread, habsent, settleOption_none, pure_bind,
      outputOf_before _ (congrArg Expression.filtersDefault hread), bind_assoc,
      orDefault_none _ (congrArg Expression.defaultText hread)]
    refine Run.outcome_bind_congr fun v => ?_
    rw [hchain, evaluateChain]
  · rw [hread]
    exact inner?_of_mem_segments path

theorem outcome_evaluateTag_behind :
    (e.evaluateTag r
      ("\x7b~" ++ pathText path ++ "|" ++ StockCall.chain us ++ ":" ++ d ++ "\x7d")).outcome =
        (e.evaluateChain r (StockCall.chain us) none >>= fun
          | some v => pure (some v)
          | none => settleOption (e.deeper r) (some (referenced d))).outcome := by
  have htag : "\x7b~" ++ pathText path ++ "|" ++ StockCall.chain us ++ ":" ++ d ++ "\x7d" =
      String.ofList ('\x7b' :: ('~' :: ((pathText path).toList ++
        '|' :: ((StockCall.chain us).toList ++ ':' :: d.toList)) ++ ['\x7d'])) := by
    rw [← String.toList_inj]
    simp
  have hread := ofChars_pipe (isInert_pathText path) ((StockCall.chain us).toList ++ ':' :: d.toList)
  rw [trim_pathText, segmentsOf_pathText hpath, splitDefault_chain_colon us hd, Option.map_some,
    String.ofList_toList] at hread
  have hchain := throughChain_calls e (e.deeper r) us (congrArg Expression.chain hread)
  rw [htag, outcome_evaluateTag_value]
  · rw [congrArg Expression.path hread, habsent, settleOption_none, pure_bind,
      outputOf_behind _ (congrArg Expression.filtersDefault hread), hchain, ← evaluateChain]
    refine Run.outcome_bind_congr fun v => ?_
    cases v with
    | some v => rfl
    | none => rw [orDefault_none _ (congrArg Expression.defaultText hread)]
  · rw [hread]
    exact inner?_of_mem_segments path

omit habsent hpath hd in
theorem evaluateChain_none {e : Engine} {us : List StockCall}
    (hstock : ∀ u ∈ us, e.LeavesStock (Unicode.lowercase (String.ofList u.name.chars)))
    (hkeeps : ∀ u ∈ us, u.KeepsNull) : e.evaluateChain r (StockCall.chain us) none = pure none := by
  have hchain : e.applyChain (e.deeper r) (StockCall.chain us) none = pure none := by
    by_cases hus : us = []
    · subst hus
      exact applyChain_empty e _ none
    · exact applyChain_none _ hus hstock hkeeps
  rw [evaluateChain, hchain, pure_bind, settleOption_none]

/-- A default before the chain of a tag is put through the chain. One behind it takes the place of what the
chain leaves absent, as a chain does whose filters leave an absent value absent. -/
theorem evaluateTag_default :
    (e.evaluateTag r
      ("\x7b~" ++ pathText path ++ ":" ++ d ++ "|" ++ StockCall.chain us ++ "\x7d")).outcome =
        (settleOption (e.deeper r) (some (referenced d)) >>=
          e.evaluateChain r (StockCall.chain us)).outcome ∧
    (e.evaluateTag r
      ("\x7b~" ++ pathText path ++ "|" ++ StockCall.chain us ++ ":" ++ d ++ "\x7d")).outcome =
        (e.evaluateChain r (StockCall.chain us) none >>= fun
          | some v => pure (some v)
          | none => settleOption (e.deeper r) (some (referenced d))).outcome ∧
    ((∀ u ∈ us, e.LeavesStock (Unicode.lowercase (String.ofList u.name.chars)) ∧ u.KeepsNull) →
      (e.evaluateTag r
        ("\x7b~" ++ pathText path ++ "|" ++ StockCall.chain us ++ ":" ++ d ++ "\x7d")).outcome =
          (settleOption (e.deeper r) (some (referenced d))).outcome) := by
  have hbehind := outcome_evaluateTag_behind e r hpath habsent us hd
  refine ⟨outcome_evaluateTag_before e r hpath habsent us hd, hbehind, fun h => ?_⟩
  rw [hbehind, evaluateChain_none r (fun u hu => (h u hu).1) fun u hu => (h u hu).2, pure_bind]

omit habsent hpath hd

def pathX : List Segment := [⟨['x'], by decide, List.all_eq_true.mp (by decide)⟩]

theorem pathX_ne_nil : pathX ≠ [] := by simp [pathX]

theorem inert_d : ∀ c ∈ "d".toList, isInert c = true := List.all_eq_true.mp (by decide)

def lowerCall : StockCall where
  name := ⟨"lower".toList, by decide, List.all_eq_true.mp (by decide)⟩
  stock := .lower
  known := by decide
  arguments := none

theorem evaluateTag_default_lower :
    (standard.evaluateTag silent "\x7b~x:d|lower\x7d").outcome =
      (settleOption (standard.deeper silent) (some (referenced "d")) >>=
        standard.evaluateChain silent "lower").outcome ∧
    (standard.evaluateTag silent "\x7b~x|lower:d\x7d").outcome = .ok (some (.text "d")) := by
  have hpath : pathText pathX = "x" := by decide
  have hchain : StockCall.chain [lowerCall] = "lower" := by decide
  have hnull : ∀ u ∈ [lowerCall],
      standard.LeavesStock (Unicode.lowercase (String.ofList u.name.chars)) ∧ u.KeepsNull := by
    intro u hu
    obtain rfl := List.mem_singleton.mp hu
    exact ⟨⟨rfl, rfl⟩, trivial⟩
  have h := evaluateTag_default standard silent pathX_ne_nil rfl [lowerCall] inert_d
  rw [hpath, hchain] at h
  exact ⟨h.1, h.2.2 hnull⟩

def lengthCall : StockCall where
  name := ⟨"length".toList, by decide, List.all_eq_true.mp (by decide)⟩
  stock := .length
  known := by decide
  arguments := none

/-- A filter that counts gives a number for a missing value, and the default behind it is not used. -/
theorem default_behind_length :
    silent.resolve ["x"] 0 = none ∧ Stock.ofName? "length" = some .length ∧
    (standard.evaluateTag silent "\x7b~x|length:d\x7d").outcome = .ok (some (.text "0")) ∧
    (settleOption (standard.deeper silent) (some (referenced "d"))).outcome = .ok (some (.text "d")) := by
  have hpath : pathText pathX = "x" := by decide
  have hchain : StockCall.chain [lengthCall] = "length" := by decide
  have hrun : standard.applyChain (standard.deeper silent) (StockCall.chain [lengthCall]) none =
      pure (some (.text "0")) := by
    rw [applyChain_eq, filters_chain (by simp)]
    rfl
  have h := outcome_evaluateTag_behind standard silent pathX_ne_nil rfl [lengthCall] inert_d
  rw [evaluateChain, hrun, hpath, hchain] at h
  exact ⟨rfl, lengthCall.known, h, rfl⟩

end Engine

end Stencil
