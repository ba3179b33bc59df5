import Stencil.Proofs.Shape
import Stencil.Tag.Expression

/-!
# Chains of written filters

A chain is cut exactly at the bars between its written filters, whatever stands behind them, and a default
behind it begins at the first colon after its last filter.
-/
namespace Stencil.Tag

open Stencil.Text Grammar

theorem take_eq_shape {s shape : List Char} (hs : shape ++ afterShape s = s) :
    s.take (s.length - (afterShape s).length) = shape :=
  List.append_cancel_right ((take_append_afterShape s).trans hs.symm)

theorem atBoundary?_eq {s shape : List Char} (hs : shape ++ afterShape s = s) :
    atBoundary? false s =
      (cut '|' false (afterShape s)).map fun (loose, rest) => (shape ++ loose, rest) := by
  rw [atBoundary?, take_eq_shape hs]
  simp only [Bool.false_and]

/-- The next segment begins behind the bar. -/
theorem next_place {text : String} {front s filter rest : List Char} (htext : text.toList = front ++ s)
    (hbar : atBoundary? false s = some (filter, rest)) :
    text.toList = (front ++ filter ++ ['|']) ++ rest ∧
      byteLength front + byteLength filter + 1 = byteLength (front ++ filter ++ ['|']) := by
  constructor
  · rw [htext, eq_of_atBoundary? hbar]
    simp
  · rw [byteLength_append, byteLength_append]
    rfl

theorem segments_of_none {s : List Char} (h : atBoundary? false s = none) : segments s = [s] := by
  unfold segments
  split
  · rfl
  · next hbar => simp [h] at hbar

theorem segments_of_some {s filter rest : List Char} (h : atBoundary? false s = some (filter, rest)) :
    segments s = filter :: segments rest := by
  rw [segments]
  split
  · next hbar => simp [h] at hbar
  · next filter' rest' hbar =>
    rw [h] at hbar
    obtain ⟨rfl, rfl⟩ := Prod.mk.inj (Option.some.inj hbar)
    rfl

theorem segments_ne_nil (s : List Char) : segments s ≠ [] := by
  rw [segments]
  split <;> simp

open Expression (splitDefault)

def Within (s front : List Char) : Prop :=
  ∀ filter rest, atBoundary? false s = some (filter, rest) → front.length < filter.length

theorem within_iff {s front filter rest : List Char} (h : atBoundary? false s = some (filter, rest)) :
    Within s front ↔ front.length < filter.length := by
  simp [Within, h]

/-- A default begins in the first segment, or in the segments behind it, or there is none. -/
theorem splitDefault_cases {s shape : List Char} (hs : shape ++ afterShape s = s) :
    (∃ loose default_, cut ':' false (afterShape s) = some (loose, default_) ∧
      Within s (shape ++ loose) ∧ splitDefault s = (shape ++ loose, some default_)) ∨
    (∃ filter rest, atBoundary? false s = some (filter, rest) ∧
      (∀ loose default_, cut ':' false (afterShape s) = some (loose, default_) →
        ¬Within s (shape ++ loose)) ∧
      splitDefault s = (filter ++ '|' :: (splitDefault rest).1, (splitDefault rest).2)) ∨
    (atBoundary? false s = none ∧ cut ':' false (afterShape s) = none ∧
      splitDefault s = (s, none)) := by
  rw [splitDefault, take_eq_shape hs]
  dsimp only
  split
  · next hcolon hbar => exact .inr (.inr ⟨hbar, hcolon, rfl⟩)
  · next loose default_ hcolon hbar =>
    exact .inl ⟨loose, default_, hcolon, by simp [Within, hbar], rfl⟩
  · next filter rest hbar =>
    split
    · next loose default_ hcolon =>
      split
      · next hlt => exact .inl ⟨loose, default_, hcolon, (within_iff hbar).mpr hlt, rfl⟩
      · next hlt =>
        refine .inr (.inl ⟨filter, rest, hbar, fun loose' default' heq => ?_, rfl⟩)
        rw [hcolon] at heq
        obtain ⟨rfl, -⟩ := Prod.mk.inj (Option.some.inj heq)
        rwa [within_iff hbar]
    · next hcolon =>
      exact .inr (.inl ⟨filter, rest, hbar, by simp [hcolon], rfl⟩)

/-- A text that is read as one filter: whatever may follow it, its shape leaves name characters at most. -/
structure Readable (s : List Char) : Prop where
  nonempty : s ≠ []
  head : ∀ c ∈ s.head?, isBlank c = false
  last : ∀ c ∈ s.getLast?, isBlank c = false
  shape : ∀ t, Stops t → ∃ loose, loose <:+ s ∧ (∀ c ∈ loose, isNameChar c = true) ∧
    afterShape (s ++ t) = loose ++ t

theorem readable_print (w : Filter) : Readable w.print where
  nonempty := print_ne_nil w
  head := by simpa using print_append_head w []
  last := print_getLast w
  shape _ ht := afterShape_print w ht

theorem cut_nameChars {mark : Char} (hm : isNameChar mark = false) {loose : List Char}
    (h : ∀ c ∈ loose, isNameChar c = true) (t : List Char) :
    cut mark false (loose ++ t) = (cut mark false t).map fun (x, y) => (loose ++ x, y) :=
  cut_append_of_not_mem (fun hc => ne_of_class (h mark hc) hm rfl)
    (fun hc => ne_of_class (h '\\' hc) (by decide) rfl) t

namespace Readable

variable {s : List Char} (h : Readable s)
include h

theorem trim_eq : trim s = s := trim_of_ends h.head h.last

/-- A filter is its shape and loose name characters, whatever it is that stops it. -/
theorem eq_shape_append {t : List Char} (ht : Stops t) :
    ∃ shape loose, s = shape ++ loose ∧ (∀ c ∈ loose, isNameChar c = true) ∧
      afterShape (s ++ t) = loose ++ t ∧ shape ++ afterShape (s ++ t) = s ++ t := by
  obtain ⟨loose, ⟨shape, hshape⟩, hname, hafter⟩ := h.shape t ht
  refine ⟨shape, loose, hshape.symm, hname, hafter, ?_⟩
  rw [hafter, ← List.append_assoc, hshape]

theorem atBoundary?_pipe (rest : List Char) :
    atBoundary? false (s ++ '|' :: rest) = some (s, rest) := by
  obtain ⟨shape, loose, hprint, hname, hafter, hs⟩ := h.eq_shape_append (stops_pipe rest)
  have hcut : cut '|' false (loose ++ '|' :: rest) = some (loose, rest) := by
    rw [cut_nameChars (by decide) hname]
    simp [cut]
  rw [atBoundary?_eq hs, hafter, hcut, hprint]
  rfl

theorem atBoundary?_end : atBoundary? false s = none := by
  obtain ⟨shape, loose, -, hname, hafter, hs⟩ := h.eq_shape_append stops_nil
  have hcut : cut '|' false (loose ++ []) = none := by
    rw [cut_nameChars (by decide) hname]
    rfl
  rw [List.append_nil] at hafter hs
  rw [atBoundary?_eq hs, hafter, hcut]
  rfl

/-- A bar in a default stands behind the filter before it. -/
theorem within_colon (d : List Char) : Within (s ++ ':' :: d) s := by
  obtain ⟨shape, loose, hprint, hname, hafter, hs⟩ := h.eq_shape_append (stops_colon d)
  intro filter rest hbar
  rw [atBoundary?_eq hs, hafter, cut_nameChars (by decide) hname, cut, if_neg (by decide)] at hbar
  obtain ⟨⟨x, y⟩, hx, hEq⟩ := Option.map_eq_some_iff.mp hbar
  obtain ⟨⟨x', y'⟩, hx', hEq'⟩ := Option.map_eq_some_iff.mp hx
  obtain ⟨⟨x'', y''⟩, -, hEq''⟩ := Option.map_eq_some_iff.mp hx'
  simp only [Prod.mk.injEq] at hEq hEq' hEq''
  rw [← hEq.1, ← hEq'.1, ← hEq''.1, hprint]
  simp

theorem segments_end : segments s = [s] := segments_of_none h.atBoundary?_end

theorem segments_pipe (rest : List Char) : segments (s ++ '|' :: rest) = s :: segments rest :=
  segments_of_some (h.atBoundary?_pipe rest)

theorem splitDefault_end : splitDefault s = (s, none) := by
  obtain ⟨shape, loose, -, hname, hafter, hs⟩ := h.eq_shape_append stops_nil
  rw [List.append_nil] at hafter hs
  have hcut : cut ':' false (afterShape s) = none := by
    have hmark : isNameChar ':' = false := by decide
    rw [hafter]
    simpa [cut] using cut_nameChars hmark hname []
  rcases splitDefault_cases hs with ⟨_, _, hcolon, -⟩ | ⟨_, _, hbar, -⟩ | ⟨-, -, heq⟩
  · simp [hcut] at hcolon
  · simp [h.atBoundary?_end] at hbar
  · exact heq

/-- A colon behind a filter begins the default, whatever the default holds. -/
theorem splitDefault_colon (d : List Char) : splitDefault (s ++ ':' :: d) = (s, some d) := by
  obtain ⟨shape, loose, hprint, hname, hafter, hs⟩ := h.eq_shape_append (stops_colon d)
  have hcut : cut ':' false (afterShape (s ++ ':' :: d)) = some (loose, d) := by
    rw [hafter, cut_nameChars (by decide) hname]
    simp [cut]
  rcases splitDefault_cases hs with ⟨_, _, hcolon, -, heq⟩ | ⟨_, _, -, hbeyond, -⟩ | ⟨-, hnone, -⟩
  · rw [hcut] at hcolon
    obtain ⟨rfl, rfl⟩ := Prod.mk.inj (Option.some.inj hcolon)
    rw [heq, hprint]
  · exact absurd (hprint ▸ h.within_colon d) (hbeyond loose d hcut)
  · simp [hcut] at hnone

theorem splitDefault_pipe (rest : List Char) :
    splitDefault (s ++ '|' :: rest) = (s ++ '|' :: (splitDefault rest).1, (splitDefault rest).2) := by
  obtain ⟨shape, loose, hprint, hname, hafter, hs⟩ := h.eq_shape_append (stops_pipe rest)
  have hbar := h.atBoundary?_pipe rest
  rcases splitDefault_cases hs with ⟨x, _, hcolon, hwithin, -⟩ | ⟨_, _, hbar', -, heq⟩ | ⟨hnone, -, -⟩
  · -- the colon was found behind the bar
    rw [hafter, cut_nameChars (by decide) hname, cut, if_neg (by decide)] at hcolon
    obtain ⟨⟨y, z⟩, -, hEq⟩ := Option.map_eq_some_iff.mp hcolon
    rw [within_iff hbar, ← (Prod.mk.inj hEq).1, ← List.append_assoc, ← hprint,
      List.length_append] at hwithin
    omega
  · rw [hbar] at hbar'
    obtain ⟨rfl, rfl⟩ := Prod.mk.inj (Option.some.inj hbar')
    exact heq
  · simp [hbar] at hnone

end Readable

def bars (items : List (List Char)) : List Char := ['|'].intercalate items

@[simp] theorem bars_singleton (s : List Char) : bars [s] = s := by
  simp [bars]

theorem bars_cons {items : List (List Char)} (s : List Char) (h : items ≠ []) :
    bars (s :: items) = s ++ '|' :: bars items := by
  obtain ⟨t, items, rfl⟩ := List.exists_cons_of_ne_nil h
  simp [bars, List.intercalate_cons_cons]

section Bars

variable {items : List (List Char)} (hitems : ∀ s ∈ items, Readable s) (hne : items ≠ [])
include hitems hne

theorem segments_bars_append (rest : List Char) :
    segments (bars items ++ '|' :: rest) = items ++ segments rest := by
  induction items with
  | nil => exact absurd rfl hne
  | cons s items ih =>
    have hs := hitems s (by simp)
    by_cases hnil : items = []
    · rw [hnil, bars_singleton, hs.segments_pipe, List.singleton_append]
    · rw [bars_cons s hnil, List.append_assoc, List.cons_append, hs.segments_pipe,
        ih (fun t ht => hitems t (by simp [ht])) hnil, List.cons_append]

theorem segments_bars : segments (bars items) = items := by
  induction items with
  | nil => exact absurd rfl hne
  | cons s items ih =>
    have hs := hitems s (by simp)
    by_cases hnil : items = []
    · rw [hnil, bars_singleton, hs.segments_end]
    · rw [bars_cons s hnil, hs.segments_pipe, ih (fun t ht => hitems t (by simp [ht])) hnil]

theorem bars_head : ∀ c ∈ (bars items).head?, isBlank c = false := by
  obtain ⟨s, items, rfl⟩ := List.exists_cons_of_ne_nil hne
  have hs := hitems s (by simp)
  obtain ⟨c, rest, rfl⟩ := List.exists_cons_of_ne_nil hs.nonempty
  by_cases hnil : items = []
  · rw [hnil, bars_singleton]
    exact hs.head
  · rw [bars_cons _ hnil]
    exact hs.head

theorem bars_getLast : ∀ c ∈ (bars items).getLast?, isBlank c = false := by
  induction items with
  | nil => exact absurd rfl hne
  | cons s items ih =>
    have hs := hitems s (by simp)
    by_cases hnil : items = []
    · rw [hnil, bars_singleton]
      exact hs.last
    · intro c hc
      rw [bars_cons s hnil, List.getLast?_append, List.getLast?_cons] at hc
      cases hlast : (bars items).getLast? with
      | none =>
        rw [hlast, Option.getD_none, Option.some_or, Option.mem_some_iff] at hc
        exact hc ▸ by decide
      | some d =>
        rw [hlast, Option.getD_some, Option.some_or, Option.mem_some_iff] at hc
        exact hc ▸ ih (fun t ht => hitems t (by simp [ht])) hnil d hlast

theorem trim_bars : trim (bars items) = bars items :=
  trim_of_ends (bars_head hitems hne) (bars_getLast hitems hne)

theorem bars_ne_nil : bars items ≠ [] := by
  obtain ⟨s, items, rfl⟩ := List.exists_cons_of_ne_nil hne
  by_cases hnil : items = []
  · rw [hnil, bars_singleton]
    exact (hitems s (by simp)).nonempty
  · rw [bars_cons s hnil]
    simp

theorem filters_bars : filters (String.ofList (bars items)) = items.map String.ofList := by
  rw [filters, String.toList_ofList, segments_bars hitems hne]
  exact List.map_congr_left fun s hs => by rw [(hitems s hs).trim_eq]

theorem chainOf_bars : Expression.chainOf (bars items) = some (String.ofList (bars items)) := by
  rw [Expression.chainOf, trim_bars hitems hne]
  split
  · next hnil => exact absurd hnil (bars_ne_nil hitems hne)
  · rfl

theorem splitDefault_bars : splitDefault (bars items) = (bars items, none) := by
  induction items with
  | nil => exact absurd rfl hne
  | cons s items ih =>
    have hs := hitems s (by simp)
    by_cases hnil : items = []
    · rw [hnil, bars_singleton, hs.splitDefault_end]
    · rw [bars_cons s hnil, hs.splitDefault_pipe, ih (fun t ht => hitems t (by simp [ht])) hnil]

theorem splitDefault_bars_colon (d : List Char) :
    splitDefault (bars items ++ ':' :: d) = (bars items, some d) := by
  induction items with
  | nil => exact absurd rfl hne
  | cons s items ih =>
    have hs := hitems s (by simp)
    by_cases hnil : items = []
    · rw [hnil, bars_singleton, hs.splitDefault_colon]
    · rw [bars_cons s hnil, List.append_assoc, List.cons_append, hs.splitDefault_pipe,
        ih (fun t ht => hitems t (by simp [ht])) hnil]

end Bars

theorem toList_chainText {ws : List Filter} (hws : ws ≠ []) :
    (chainText ws).toList = bars (ws.map Filter.print) := by
  induction ws with
  | nil => exact absurd rfl hws
  | cons w ws ih =>
    by_cases hnil : ws = []
    · rw [hnil, chainText_singleton, toList_text, List.map_singleton, bars_singleton]
    · rw [chainText_cons w hnil, List.map_cons, bars_cons _ (by simpa using hnil), ← ih hnil]
      simp

theorem ofList_bars_print {ws : List Filter} (hws : ws ≠ []) :
    String.ofList (bars (ws.map Filter.print)) = chainText ws := by
  rw [← toList_chainText hws, String.ofList_toList]

theorem readable_of_mem_print (ws : List Filter) : ∀ s ∈ ws.map Filter.print, Readable s := by
  intro s hs
  obtain ⟨w, -, rfl⟩ := List.mem_map.mp hs
  exact readable_print w

theorem filters_text (w : Filter) : filters w.text = [w.text] := by
  have hs := readable_print w
  rw [filters, toList_text, hs.segments_end, List.map_singleton, hs.trim_eq]
  rfl

section ChainText

variable {ws : List Filter} (hws : ws ≠ [])
include hws

theorem filters_chainText : filters (chainText ws) = ws.map Filter.text := by
  have h := filters_bars (readable_of_mem_print ws) (by simpa using hws)
  rwa [ofList_bars_print hws, List.map_map] at h

/-- Whatever follows written filters, the bar behind them separates. -/
theorem filters_chainText_append (rest : String) :
    filters (chainText ws ++ "|" ++ rest) = ws.map Filter.text ++ filters rest := by
  have hchars : (chainText ws ++ "|" ++ rest).toList =
      bars (ws.map Filter.print) ++ '|' :: rest.toList := by
    rw [← toList_chainText hws]
    simp
  have htrim : (ws.map Filter.print).map (fun s => String.ofList (trim s)) = ws.map Filter.text := by
    rw [List.map_map]
    exact List.map_congr_left fun w _ => congrArg String.ofList (trim_print w)
  rw [filters, hchars, segments_bars_append (readable_of_mem_print ws) (by simpa using hws),
    List.map_append, htrim]
  rfl

theorem chainOf_chainText : Expression.chainOf (chainText ws).toList = some (chainText ws) := by
  rw [toList_chainText hws, chainOf_bars (readable_of_mem_print ws) (by simpa using hws),
    ofList_bars_print hws]

theorem splitDefault_chainText : splitDefault (chainText ws).toList = ((chainText ws).toList, none) := by
  rw [toList_chainText hws, splitDefault_bars (readable_of_mem_print ws) (by simpa using hws)]

theorem splitDefault_chainText_colon (d : List Char) :
    splitDefault ((chainText ws).toList ++ ':' :: d) = ((chainText ws).toList, some d) := by
  rw [toList_chainText hws, splitDefault_bars_colon (readable_of_mem_print ws) (by simpa using hws)]

end ChainText

theorem chainOf_print (w : Filter) : Expression.chainOf w.print = some w.text := by
  have h := chainOf_chainText (List.cons_ne_nil w [])
  rwa [chainText_singleton, toList_text] at h

theorem splitDefault_print_end (w : Filter) : Expression.splitDefault w.print = (w.print, none) :=
  (readable_print w).splitDefault_end

end Stencil.Tag
