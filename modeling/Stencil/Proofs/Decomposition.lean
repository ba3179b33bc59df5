import Stencil.Proofs.ArgumentList
import Stencil.Proofs.SubReference

/-!
# One decomposition of chains

The filters of a chain are found by offsets of the whole text, by taking off one filter after the other, and by the
reader of tags behind a path. Every text, well formed or not, is cut at the same bars by all three: the bar before a
filter is not escaped and what follows a shape is not either, so that no scan depends on where it was begun.
-/
namespace Stencil.Tag

open Stencil.Text Expression

/-- A part at the end of a text before which nothing escapes. -/
def FreeEnd (t s : List Char) : Prop := t = [] ∨ t = s ∨ ∃ c, c ≠ '\\' ∧ c :: t <:+ s

namespace FreeEnd

variable {s t u : List Char}

theorem refl (s : List Char) : FreeEnd s s := .inr (.inl rfl)

theorem of_suffix {c : Char} (hc : c ≠ '\\') (h : c :: t <:+ s) : FreeEnd t s :=
  .inr (.inr ⟨c, hc, h⟩)

theorem trans (hu : FreeEnd u t) (ht : FreeEnd t s) : FreeEnd u s := by
  rcases hu with rfl | rfl | ⟨c, hc, hsuffix⟩
  · exact .inl rfl
  · exact ht
  · rcases ht with rfl | rfl | ⟨d, hd, hsuffix'⟩
    · exact absurd (List.suffix_nil.mp hsuffix) (List.cons_ne_nil c u)
    · exact of_suffix hc hsuffix
    · exact of_suffix hc (hsuffix.trans ((List.suffix_cons d t).trans hsuffix'))

theorem dropWhile {p : Char → Bool} (hp : p '\\' = false) (s : List Char) :
    FreeEnd (s.dropWhile p) s := by
  induction s with
  | nil => exact refl []
  | cons c s ih =>
    by_cases hc : p c = true
    · have hslash : c ≠ '\\' := ne_of_class hc hp
      rw [List.dropWhile_cons_of_pos hc]
      exact ih.trans (of_suffix hslash List.suffix_rfl)
    · rw [List.dropWhile_cons_of_neg hc]
      exact refl (c :: s)

theorem of_cut {mark : Char} (hm : mark ≠ '\\') {b : Bool} {before : List Char}
    (h : cut mark b s = some (before, t)) : FreeEnd t s :=
  of_suffix hm ⟨before, (eq_of_cut h).symm⟩

theorem of_closing {opener closer : Char} (hm : closer ≠ '\\') {depth : Nat} {argStart : Bool}
    {inside : List Char} (h : closing opener closer depth argStart s = some (inside, t)) :
    FreeEnd t s :=
  of_suffix hm ⟨inside, (eq_of_closing h).symm⟩

theorem escapedAfter_eq_false {front : List Char} (h : FreeEnd t (front ++ t)) (ht : t ≠ []) :
    escapedAfter front.reverse = false := by
  rcases h with hnil | heq | ⟨c, hc, before, hbefore⟩
  · exact absurd hnil ht
  · obtain rfl := List.self_eq_append_left.mp heq
    rfl
  · have hfront : before ++ [c] = front := by
      rw [List.append_cons] at hbefore
      exact List.append_cancel_right hbefore
    rw [← hfront]
    exact escapedAfter_concat hc before

end FreeEnd

theorem freeEnd_trimStart (s : List Char) : FreeEnd (trimStart s) s :=
  FreeEnd.dropWhile (by decide) s

theorem freeEnd_afterSubstitution? {s t : List Char} (h : afterSubstitution? s = some t) :
    FreeEnd t s := by
  obtain ⟨⟨pattern, mid⟩, hpattern, rfl⟩ := Option.map_eq_some_iff.mp h
  refine FreeEnd.trans ?_ (.of_cut (by decide) hpattern)
  dsimp only
  split
  · exact .refl mid
  · next replacement tail htail =>
    exact (FreeEnd.dropWhile (by decide) tail).trans (.of_cut (by decide) htail)

theorem freeEnd_afterMatchList (s : List Char) : FreeEnd (afterMatchList s) s := by
  refine FreeEnd.trans ?_ (freeEnd_trimStart s)
  unfold afterMatchList
  split
  · next inside hs =>
    rw [hs]
    split
    · exact .inl rfl
    · next rest hpairs =>
      have hrest : FreeEnd rest ('(' :: inside) :=
        .of_suffix (by decide) ((paren_suffix_of_afterPairs? hpairs).trans (List.suffix_cons _ _))
      split
      · exact hrest
      · next clause hclause =>
        split
        · next htail =>
          have hparen : '(' :: clause <:+ trimStart rest :=
            ⟨"nomatch".toList, (dropStart?_eq_some.mp hclause).symm⟩
          have hstart := (freeEnd_trimStart rest).trans hrest
          exact (FreeEnd.of_closing (by decide) htail).trans
            ((FreeEnd.of_suffix (by decide) hparen).trans hstart)
        · exact .inl rfl
  · exact .refl _

theorem freeEnd_afterShape (s : List Char) : FreeEnd (afterShape s) s := by
  have hslash {rest : List Char} (h : '/' :: rest <:+ trimStart s) :
      FreeEnd ((afterSubstitution? rest).getD (trimStart s)) s := by
    refine FreeEnd.trans ?_ (freeEnd_trimStart s)
    cases hafter : afterSubstitution? rest with
    | none => exact .refl _
    | some tail => exact (freeEnd_afterSubstitution? hafter).trans (.of_suffix (by decide) h)
  unfold afterShape
  dsimp only
  split
  · next rest hs => exact hslash (hs ▸ List.suffix_rfl)
  · next rest hs => exact hslash (hs ▸ List.suffix_cons 's' ('/' :: rest))
  · refine FreeEnd.trans ?_ (freeEnd_trimStart s)
    split
    · next rest hword =>
      have hlast : 'h' :: rest <:+ trimStart s :=
        ⟨"onmatc".toList, (dropStart?_eq_some.mp hword).symm⟩
      exact (freeEnd_afterMatchList rest).trans (.of_suffix (by decide) hlast)
    · have hname := FreeEnd.dropWhile (p := isNameChar) (by decide) (trimStart s)
      split
      · next rest hrest =>
        rw [hrest] at hname
        split
        · next htail =>
          exact ((FreeEnd.of_closing (by decide) htail).trans
            (.of_suffix (by decide) List.suffix_rfl)).trans hname
        · exact hname
      · exact hname

theorem escapedAfter_shape {front s shape : List Char} (hfront : escapedAfter front.reverse = false)
    (hs : shape ++ afterShape s = s) (hne : afterShape s ≠ []) :
    escapedAfter (front ++ shape).reverse = false := by
  have hend : FreeEnd (afterShape s) (shape ++ afterShape s) := by
    rw [hs]
    exact freeEnd_afterShape s
  rw [escapedAfter_append hfront, hend.escapedAfter_eq_false hne]

theorem bars_segments (s : List Char) : bars (segments s) = s := by
  fun_induction segments s with
  | case1 s => exact bars_singleton s
  | case2 s filter rest h ih => rw [bars_cons filter (segments_ne_nil rest), ih, eq_of_atBoundary? h]

def heads (chain : String) : List String :=
  match _h : firstFilter chain with
  | (filter, none) => [filter]
  | (filter, some rest) => filter :: heads rest
termination_by chain.toList.length
decreasing_by
  rw [firstFilter] at _h
  split at _h
  · next hbar =>
    obtain ⟨-, heq⟩ := Prod.mk.inj _h
    rw [← Option.some.inj heq, String.toList_ofList]
    exact length_lt_of_atBoundary? hbar
  · simp at _h

theorem heads_ofList (s : List Char) :
    heads (String.ofList s) = (segments s).map fun t => String.ofList (trim t) := by
  fun_induction segments s with
  | case1 s h =>
    have hfirst : firstFilter (String.ofList s) = (String.ofList (trim s), none) := by
      rw [firstFilter, String.toList_ofList, h, trimmed, String.toList_ofList]
    rw [heads]
    split
    · next filter heq => simp_all
    · next filter rest heq => simp_all
  | case2 s filter rest h ih =>
    have hfirst : firstFilter (String.ofList s) =
        (String.ofList (trim filter), some (String.ofList rest)) := by
      rw [firstFilter, String.toList_ofList, h]
    rw [heads]
    split
    · next heq => simp_all
    · next heq => simp_all

theorem filters_eq_heads (chain : String) : filters chain = heads chain := by
  rw [filters, ← heads_ofList, String.ofList_toList]

/-- Where the texts begin and end that lie behind the offset `start` with bars between them. -/
def spansFrom : Nat → List (List Char) → List (Nat × Nat)
  | _, [] => []
  | start, part :: parts =>
    (start, start + byteLength part) :: spansFrom (start + byteLength part + 1) parts

def spans (chain : String) : List (Nat × Nat) := spansFrom 0 (segments chain.toList)

theorem spansFrom_add (n start : Nat) (parts : List (List Char)) :
    spansFrom (n + start) parts = (spansFrom start parts).map fun (a, b) => (n + a, n + b) := by
  induction parts generalizing start with
  | nil => rfl
  | cons part parts ih =>
    rw [spansFrom, spansFrom, List.map_cons, ← ih]
    simp only [Nat.add_assoc]

/-- The walk over a whole text from the offset `start` on: a segment ends where the filter that begins there
is bounded, and the next one begins behind the bar. -/
inductive Walk (text : String) : Nat → List (Nat × Nat) → Prop
  | last {start : Nat} : boundary? text start = none →
      Walk text start [(start, byteLength text.toList)]
  | bar {start stop : Nat} {later : List (Nat × Nat)} : boundary? text start = some stop →
      Walk text (stop + 1) later → Walk text start ((start, stop) :: later)

theorem escapedAfter_bar (front : List Char) : escapedAfter (front ++ ['|']).reverse = false :=
  escapedAfter_concat (by decide) front

section Place

variable {text : String} {front s : List Char} (htext : text.toList = front ++ s)
  (hfront : escapedAfter front.reverse = false)
include htext hfront

theorem nextUnescaped_shapeEnd {mark : Char} {shape : List Char} (hs : shape ++ afterShape s = s) :
    nextUnescaped mark text (shapeEnd text (byteLength front)) =
      (cut mark false (afterShape s)).map fun (loose, _) => byteLength (front ++ shape ++ loose) := by
  have hchars : text.toList = (front ++ shape) ++ afterShape s := by
    rw [htext, List.append_assoc, hs]
  rw [shapeEnd_append htext hs, nextUnescaped, hchars, splitAtByte_append]
  simp only [Option.bind_eq_bind, Option.bind_some, byteLength_append]
  by_cases hne : afterShape s = []
  · rw [hne]
    rfl
  · rw [escapedAfter_shape hfront hs hne]
    cases cut mark false (afterShape s) <;> rfl

theorem boundary?_eq_nextUnescaped :
    boundary? text (byteLength front) =
      nextUnescaped '|' text (shapeEnd text (byteLength front)) := by
  obtain ⟨shape, hs⟩ := afterShape_suffix s
  rw [boundary?_append htext hfront, nextUnescaped_shapeEnd htext hfront hs, atBoundary?_eq hs,
    Option.map_map]
  simp only [Function.comp_def, List.append_assoc]

/-- A filter is bounded by an unescaped bar at or behind the end of its shape. -/
theorem bar_of_boundary? {stop : Nat} (h : boundary? text (byteLength front) = some stop) :
    shapeEnd text (byteLength front) ≤ stop ∧
      ∃ before after, FreeMark '|' text.toList before after ∧ byteLength before = stop := by
  obtain ⟨shape, hs⟩ := afterShape_suffix s
  rw [boundary?_eq_nextUnescaped htext hfront, nextUnescaped_shapeEnd htext hfront hs] at h
  obtain ⟨⟨loose, rest⟩, hcut, rfl⟩ := Option.map_eq_some_iff.mp h
  have hne : afterShape s ≠ [] := by
    rintro hnil
    simp [hnil, cut] at hcut
  have hbar := (freeMark_append_iff (escapedAfter_shape hfront hs hne)).mpr (freeMark_of_cut hcut)
  rw [List.append_assoc, hs, ← htext] at hbar
  refine ⟨?_, _, _, hbar, rfl⟩
  rw [shapeEnd_append htext hs]
  exact byteLength_le_of_prefix (List.prefix_append _ _)

theorem walk_spansFrom : Walk text (byteLength front) (spansFrom (byteLength front) (segments s)) := by
  fun_induction segments s generalizing front with
  | case1 s h =>
    have hlast : byteLength text.toList = byteLength front + byteLength s := by
      rw [htext, byteLength_append]
    have hnone : boundary? text (byteLength front) = none := by
      rw [boundary?_append htext hfront, h]
      rfl
    rw [spansFrom, spansFrom, ← hlast]
    exact .last hnone
  | case2 s filter rest h ih =>
    obtain ⟨hrest, hstart⟩ := next_place htext h
    have hsome : boundary? text (byteLength front) = some (byteLength (front ++ filter)) := by
      rw [boundary?_append htext hfront, h]
      rfl
    have hlater := ih hrest (escapedAfter_bar _)
    rw [← hstart, ← byteLength_append] at hlater
    rw [spansFrom, ← byteLength_append]
    exact .bar hsome hlater

omit htext hfront in
/-- Each segment begins at a place that is not escaped. -/
theorem exists_of_mem_spansFrom {front s : List Char} (hfront : escapedAfter front.reverse = false)
    {span : Nat × Nat} (h : span ∈ spansFrom (byteLength front) (segments s)) :
    ∃ inner rest, s = inner ++ rest ∧ escapedAfter (front ++ inner).reverse = false ∧
      span.1 = byteLength (front ++ inner) := by
  fun_induction segments s generalizing front with
  | case1 s =>
    rw [spansFrom, spansFrom, List.mem_singleton] at h
    exact ⟨[], s, rfl, by simpa using hfront, by simp [h]⟩
  | case2 s filter rest hbar ih =>
    rw [spansFrom, List.mem_cons] at h
    rcases h with rfl | hlater
    · exact ⟨[], s, rfl, by simpa using hfront, by simp⟩
    · have hstart : byteLength front + byteLength filter + 1 = byteLength (front ++ filter ++ ['|']) := by
        rw [byteLength_append, byteLength_append]
        rfl
      rw [hstart] at hlater
      obtain ⟨inner, later, rfl, hfree, hspan⟩ := ih (escapedAfter_bar _) hlater
      refine ⟨filter ++ '|' :: inner, later, ?_, ?_, ?_⟩
      · rw [eq_of_atBoundary? hbar]
        simp
      · simpa using hfree
      · simpa using hspan

end Place

/-- A colon that may begin a default, in the first segment behind the shape of its filter or in a later one. -/
inductive Colon : List Char → List Char → List Char → Prop
  | here {s shape loose after : List Char} : shape ++ afterShape s = s →
      FreeMark ':' (afterShape s) loose after → Within s (shape ++ loose) →
      Colon s (shape ++ loose) after
  | later {s filter rest before after : List Char} : atBoundary? false s = some (filter, rest) →
      Colon rest before after → Colon s (filter ++ '|' :: before) after

theorem colon_of_splitDefault {s chain default_ : List Char}
    (h : splitDefault s = (chain, some default_)) : Colon s chain default_ := by
  -- by length, as the reader goes on behind the bar where it finds no colon before it
  induction hlen : s.length using Nat.strong_induction_on generalizing s chain with
  | _ n ih =>
    obtain ⟨shape, hs⟩ := afterShape_suffix s
    rcases splitDefault_cases hs with ⟨loose, d, hcut, hwithin, heq⟩ | ⟨filter, rest, hbar, -, heq⟩ |
      ⟨-, -, heq⟩
    · obtain ⟨rfl, hdefault⟩ := Prod.mk.inj (heq.symm.trans h)
      obtain rfl := Option.some.inj hdefault
      exact .here hs (freeMark_of_cut hcut) hwithin
    · obtain ⟨rfl, hdefault⟩ := Prod.mk.inj (heq.symm.trans h)
      have hrest : splitDefault rest = ((splitDefault rest).1, some default_) :=
        Prod.ext rfl hdefault
      exact .later hbar (ih _ (hlen ▸ length_lt_of_atBoundary? hbar) hrest rfl)
    · simp [heq] at h

/-- The reader of tags takes the first such colon. -/
theorem exists_splitDefault_of_colon {s before after : List Char} (h : Colon s before after) :
    ∃ chain default_, splitDefault s = (chain, some default_) ∧ chain.length ≤ before.length := by
  induction h with
  | @here s shape loose after hs hmark hwithin =>
    -- the colon that is found first may stand before this one, but in the same segment
    obtain ⟨first, d, hcut⟩ := hmark.exists_cut
    have hfirst : (shape ++ first).length ≤ (shape ++ loose).length := by
      have hle := hmark.length_le hcut
      rw [List.length_append, List.length_append]
      omega
    rcases splitDefault_cases hs with ⟨first', d', hcut', -, heq⟩ | ⟨filter, rest, hbar, hbeyond, -⟩ |
      ⟨-, hnone, -⟩
    · rw [hcut] at hcut'
      obtain ⟨rfl, rfl⟩ := Prod.mk.inj (Option.some.inj hcut')
      exact ⟨_, _, heq, hfirst⟩
    · have hlt := (within_iff hbar).mp hwithin
      exact absurd ((within_iff hbar).mpr (hfirst.trans_lt hlt)) (hbeyond first d hcut)
    · simp [hcut] at hnone
  | @later s filter rest before after hbar _ ih =>
    obtain ⟨shape, hs⟩ := afterShape_suffix s
    rcases splitDefault_cases hs with ⟨loose, d, -, hwithin, heq⟩ | ⟨filter', rest', hbar', -, heq⟩ |
      ⟨hnone, -, -⟩
    · have hlt := (within_iff hbar).mp hwithin
      refine ⟨_, d, heq, hlt.le.trans ?_⟩
      simp
    · rw [hbar] at hbar'
      obtain ⟨rfl, rfl⟩ := Prod.mk.inj (Option.some.inj hbar')
      obtain ⟨chain, d, hrest, hle⟩ := ih
      rw [hrest] at heq
      refine ⟨_, d, heq, ?_⟩
      simpa using hle
    · simp [hbar] at hnone

theorem within_iff_byteLength {s inner first : List Char} (hinner : inner <+: s)
    (hlt : inner.length < s.length) (hfirst : (segments s).head? = some first) :
    Within s inner ↔ byteLength inner < byteLength first := by
  cases hbar : atBoundary? false s with
  | none =>
    rw [segments_of_none hbar, List.head?_cons, Option.some.injEq] at hfirst
    subst hfirst
    have hbytes := byteLength_lt_of_length_lt hinner List.prefix_rfl hlt
    exact iff_of_true (by simp [Within, hbar]) hbytes
  | some p =>
    obtain ⟨filter, rest⟩ := p
    rw [segments_of_some hbar, List.head?_cons, Option.some.injEq] at hfirst
    subst hfirst
    have hfilter : filter <+: s := ⟨_, (eq_of_atBoundary? hbar).symm⟩
    rw [within_iff hbar]
    exact ⟨byteLength_lt_of_length_lt hinner hfilter, length_lt_of_byteLength_lt hinner hfilter⟩

/-- An unescaped colon that lies in a segment at or behind the end of the shape of the filter there. -/
structure DefaultColon (chain : String) (before after : List Char) : Prop
    extends FreeMark ':' chain.toList before after where
  placed : ∃ span ∈ spans chain,
    shapeEnd chain span.1 ≤ byteLength before ∧ byteLength before < span.2

theorem mem_spansFrom_head {parts : List (List Char)} {first : List Char}
    (hfirst : parts.head? = some first) (start : Nat) :
    (start, start + byteLength first) ∈ spansFrom start parts := by
  cases parts with
  | nil => simp at hfirst
  | cons part parts =>
    rw [List.head?_cons, Option.some.injEq] at hfirst
    rw [hfirst, spansFrom]
    exact List.mem_cons_self

section Place

variable {text : String} {front s : List Char} (htext : text.toList = front ++ s)
  (hfront : escapedAfter front.reverse = false)
include htext hfront

theorem colon_of_first {before after first : List Char} (hmark : FreeMark ':' text.toList before after)
    (hfirst : (segments s).head? = some first)
    (hle : shapeEnd text (byteLength front) ≤ byteLength before)
    (hlt : byteLength before < byteLength front + byteLength first) :
    ∃ inner, before = front ++ inner ∧ Colon s inner after := by
  obtain ⟨shape, hs⟩ := afterShape_suffix s
  have hchars : text.toList = (front ++ shape) ++ afterShape s := by
    rw [htext, List.append_assoc, hs]
  rw [shapeEnd_append htext hs] at hle
  obtain ⟨loose, rfl⟩ := prefix_of_byteLength_le ⟨_, hchars.symm⟩ ⟨_, hmark.eq.symm⟩ hle
  have hrest : afterShape s = loose ++ ':' :: after := by
    have heq := hchars.symm.trans hmark.eq
    rw [List.append_assoc (front ++ shape)] at heq
    exact List.append_cancel_left heq
  rw [hchars, freeMark_append_iff (escapedAfter_shape hfront hs (by simp [hrest]))] at hmark
  refine ⟨shape ++ loose, List.append_assoc .., .here hs hmark ?_⟩
  have heq : s = (shape ++ loose) ++ ':' :: after := by
    rw [List.append_assoc, ← hrest, hs]
  rw [within_iff_byteLength ⟨_, heq.symm⟩ (by simp [heq]) hfirst]
  rw [List.append_assoc, byteLength_append] at hlt
  omega

theorem first_of_within {shape loose after first : List Char} (hs : shape ++ afterShape s = s)
    (hmark : FreeMark ':' (afterShape s) loose after) (hwithin : Within s (shape ++ loose))
    (hfirst : (segments s).head? = some first) :
    FreeMark ':' text.toList (front ++ (shape ++ loose)) after ∧
      shapeEnd text (byteLength front) ≤ byteLength (front ++ (shape ++ loose)) ∧
      byteLength (front ++ (shape ++ loose)) < byteLength front + byteLength first := by
  have hchars : text.toList = (front ++ shape) ++ afterShape s := by
    rw [htext, List.append_assoc, hs]
  have heq : s = (shape ++ loose) ++ ':' :: after := by
    rw [List.append_assoc, ← hmark.eq, hs]
  have hbytes := (within_iff_byteLength ⟨_, heq.symm⟩ (by simp [heq]) hfirst).mp hwithin
  rw [shapeEnd_append htext hs, ← List.append_assoc]
  refine ⟨?_, byteLength_le_of_prefix (List.prefix_append _ loose), ?_⟩
  · rw [hchars, freeMark_append_iff (escapedAfter_shape hfront hs (by simp [hmark.eq]))]
    exact hmark
  · rw [List.append_assoc, byteLength_append]
    omega

theorem colon_of_placed {before after : List Char} (hmark : FreeMark ':' text.toList before after)
    {span : Nat × Nat} (hmem : span ∈ spansFrom (byteLength front) (segments s))
    (hle : shapeEnd text span.1 ≤ byteLength before) (hlt : byteLength before < span.2) :
    ∃ inner, before = front ++ inner ∧ Colon s inner after := by
  fun_induction segments s generalizing front with
  | case1 s hbar =>
    have hfirst : (segments s).head? = some s := by rw [segments_of_none hbar, List.head?_cons]
    rw [spansFrom, spansFrom, List.mem_singleton] at hmem
    subst hmem
    exact colon_of_first htext hfront hmark hfirst hle hlt
  | case2 s filter rest hbar ih =>
    have hfirst : (segments s).head? = some filter := by rw [segments_of_some hbar, List.head?_cons]
    obtain ⟨hrest, hstart⟩ := next_place htext hbar
    rw [spansFrom, List.mem_cons] at hmem
    rcases hmem with rfl | hlater
    · exact colon_of_first htext hfront hmark hfirst hle hlt
    · rw [hstart] at hlater
      obtain ⟨inner, rfl, hcolon⟩ := ih hrest (escapedAfter_bar _) hlater
      exact ⟨filter ++ '|' :: inner, by simp, .later hbar hcolon⟩

theorem placed_of_colon {inner after : List Char} (h : Colon s inner after) :
    FreeMark ':' text.toList (front ++ inner) after ∧
    ∃ span ∈ spansFrom (byteLength front) (segments s),
      shapeEnd text span.1 ≤ byteLength (front ++ inner) ∧ byteLength (front ++ inner) < span.2 := by
  induction h generalizing front with
  | @here s shape loose after hs hmark hwithin =>
    obtain ⟨first, hfirst⟩ := Option.isSome_iff_exists.mp (List.isSome_head?.mpr (segments_ne_nil s))
    obtain ⟨hcolon, hplace⟩ := first_of_within htext hfront hs hmark hwithin hfirst
    exact ⟨hcolon, _, mem_spansFrom_head hfirst _, hplace⟩
  | @later s filter rest before after hbar _ ih =>
    obtain ⟨hrest, hstart⟩ := next_place htext hbar
    have happend : front ++ filter ++ ['|'] ++ before = front ++ (filter ++ '|' :: before) := by simp
    obtain ⟨hmark, span, hmem, hplace⟩ := ih hrest (escapedAfter_bar _)
    rw [happend] at hmark hplace
    refine ⟨hmark, span, ?_, hplace⟩
    rw [segments_of_some hbar, spansFrom, hstart]
    exact List.mem_cons_of_mem _ hmem

end Place

theorem defaultColon_iff {chain : String} {before after : List Char} :
    DefaultColon chain before after ↔ Colon chain.toList before after := by
  have hstart : escapedAfter ([] : List Char).reverse = false := rfl
  constructor
  · rintro ⟨hmark, span, hmem, hle, hlt⟩
    obtain ⟨inner, rfl, hcolon⟩ := colon_of_placed rfl hstart hmark hmem hle hlt
    exact hcolon
  · intro hcolon
    obtain ⟨hmark, hplaced⟩ := placed_of_colon rfl hstart hcolon
    exact ⟨hmark, hplaced⟩

/-- The text behind the first colon is the default. -/
theorem splitDefault_eq_some_iff {chain : String} {default_ : List Char} :
    (splitDefault chain.toList).2 = some default_ ↔
      ∃ before, DefaultColon chain before default_ ∧
        ∀ earlier after, DefaultColon chain earlier after → before.length ≤ earlier.length := by
  constructor
  · intro h
    have hsplit : splitDefault chain.toList = ((splitDefault chain.toList).1, some default_) :=
      Prod.ext rfl h
    refine ⟨_, defaultColon_iff.mpr (colon_of_splitDefault hsplit), fun earlier after hcolon => ?_⟩
    obtain ⟨first, d, hfirst, hle⟩ := exists_splitDefault_of_colon (defaultColon_iff.mp hcolon)
    rwa [hfirst]
  · rintro ⟨before, hcolon, hleast⟩
    obtain ⟨first, d, hfirst, hle⟩ := exists_splitDefault_of_colon (defaultColon_iff.mp hcolon)
    have hfound := defaultColon_iff.mpr (colon_of_splitDefault hfirst)
    have hlength := le_antisymm hle (hleast _ _ hfound)
    have heq : first ++ ':' :: d = before ++ ':' :: default_ := hfound.eq.symm.trans hcolon.eq
    obtain ⟨-, htail⟩ := List.append_inj heq hlength
    rw [hfirst, (List.cons.inj htail).2]

section Path

variable {raw chain : String} {path : List Char}
  (hbreak : breakPath (fun c => c == ':' || c == '|') raw.toList = (path, '|' :: chain.toList))
include hbreak

theorem eq_of_breakPath : raw.toList = (path ++ ['|']) ++ chain.toList := by
  have happend := breakPath_append (fun c => c == ':' || c == '|') raw.toList
  rw [hbreak] at happend
  rw [← happend]
  simp

theorem defaultText_of_breakPath :
    (parse raw).defaultText = (splitDefault chain.toList).2.map String.ofList := by
  rw [parse, ofChars, hbreak]
  rfl

theorem walk_behind_path :
    Walk raw (byteLength (path ++ ['|'])) ((spans chain).map fun (start, stop) =>
      (byteLength (path ++ ['|']) + start, byteLength (path ++ ['|']) + stop)) := by
  rw [spans, ← spansFrom_add, Nat.add_zero]
  exact walk_spansFrom (eq_of_breakPath hbreak) (escapedAfter_bar path)

theorem shapeEnd_behind_path {span : Nat × Nat} (hspan : span ∈ spans chain) :
    shapeEnd raw (byteLength (path ++ ['|']) + span.1) =
      byteLength (path ++ ['|']) + shapeEnd chain span.1 := by
  have hstart : escapedAfter ([] : List Char).reverse = false := rfl
  obtain ⟨inner, rest, hchain, -, heq⟩ := exists_of_mem_spansFrom hstart hspan
  obtain ⟨shape, hs⟩ := afterShape_suffix rest
  have hrest : raw.toList = (path ++ ['|'] ++ inner) ++ rest := by
    rw [eq_of_breakPath hbreak, hchain]
    simp
  rw [heq, List.nil_append, ← byteLength_append, shapeEnd_append hrest hs, shapeEnd_append hchain hs,
    ← byteLength_append]
  simp

theorem isSome_defaultText_iff :
    (parse raw).defaultText.isSome ↔ ∃ before after, DefaultColon chain before after := by
  rw [defaultText_of_breakPath hbreak, Option.isSome_map]
  constructor
  · intro hsome
    obtain ⟨d, hd⟩ := Option.isSome_iff_exists.mp hsome
    obtain ⟨before, hcolon, -⟩ := splitDefault_eq_some_iff.mp hd
    exact ⟨before, d, hcolon⟩
  · rintro ⟨before, after, hcolon⟩
    obtain ⟨first, d, hfirst, -⟩ := exists_splitDefault_of_colon (defaultColon_iff.mp hcolon)
    rw [hfirst]
    rfl

theorem defaultText_eq_some_iff (d : String) :
    (parse raw).defaultText = some d ↔ ∃ before, DefaultColon chain before d.toList ∧
      ∀ earlier after, DefaultColon chain earlier after → before.length ≤ earlier.length := by
  rw [defaultText_of_breakPath hbreak, ← splitDefault_eq_some_iff]
  constructor
  · intro hsome
    obtain ⟨t, ht, rfl⟩ := Option.map_eq_some_iff.mp hsome
    rw [ht, String.toList_ofList]
  · intro hsome
    rw [hsome, Option.map_some, String.ofList_toList]

end Path

/-- The filters are those taken off one after the other; the segments with bars between them are the chain, and
each is bounded by the first unescaped bar at or behind its filter's shape; behind a path the reader of tags walks
over the same segments, and takes the first unescaped colon behind the shape in one of them. -/
theorem decompositions_agree (chain : String) :
    filters chain = heads chain ∧ bars (segments chain.toList) = chain.toList ∧
    Walk chain 0 (spans chain) ∧
    (∀ span ∈ spans chain,
      boundary? chain span.1 = nextUnescaped '|' chain (shapeEnd chain span.1) ∧
      ∀ stop, boundary? chain span.1 = some stop → shapeEnd chain span.1 ≤ stop ∧
        ∃ before after, FreeMark '|' chain.toList before after ∧ byteLength before = stop) ∧
    ∀ (raw : String) (path : List Char),
      breakPath (fun c => c == ':' || c == '|') raw.toList = (path, '|' :: chain.toList) →
      Walk raw (byteLength path + 1)
        ((spans chain).map fun (start, stop) =>
          (byteLength path + 1 + start, byteLength path + 1 + stop)) ∧
      (∀ span ∈ spans chain, shapeEnd raw (byteLength path + 1 + span.1) =
        byteLength path + 1 + shapeEnd chain span.1) ∧
      ((parse raw).defaultText.isSome ↔ ∃ before after, DefaultColon chain before after) ∧
      ∀ d, (parse raw).defaultText = some d ↔ ∃ before, DefaultColon chain before d.toList ∧
        ∀ earlier after, DefaultColon chain earlier after → before.length ≤ earlier.length := by
  have hstart : escapedAfter ([] : List Char).reverse = false := rfl
  refine ⟨filters_eq_heads chain, bars_segments _, walk_spansFrom rfl hstart, ?_, ?_⟩
  · intro span hspan
    obtain ⟨inner, rest, hchain, hfree, heq⟩ := exists_of_mem_spansFrom hstart hspan
    rw [heq]
    exact ⟨boundary?_eq_nextUnescaped hchain hfree, fun stop => bar_of_boundary? hchain hfree⟩
  · intro raw path hbreak
    have hbar : byteLength path + 1 = byteLength (path ++ ['|']) := by
      rw [byteLength_append]
      rfl
    rw [hbar]
    exact ⟨walk_behind_path hbreak, fun span => shapeEnd_behind_path hbreak,
      isSome_defaultText_iff hbreak, defaultText_eq_some_iff hbreak⟩

/-- Colons in a list and in a substitution before the colon of the default. -/
theorem decompositions_agree_colons :
    breakPath (fun c => c == ':' || c == '|') "x|join(:)|s/:/;/:d".toList =
      ("x".toList, '|' :: "join(:)|s/:/;/:d".toList) ∧
    Walk "x|join(:)|s/:/;/:d" 2 [(2, 9), (10, 18)] ∧
    (parse "x|join(:)|s/:/;/:d").defaultText = some "d" ∧
    ∃ before, DefaultColon "join(:)|s/:/;/:d" before "d".toList := by
  have hbreak : breakPath (fun c => c == ':' || c == '|') "x|join(:)|s/:/;/:d".toList =
      ("x".toList, '|' :: "join(:)|s/:/;/:d".toList) := by decide +kernel
  have hspans : spans "join(:)|s/:/;/:d" = [(0, 7), (8, 16)] := by decide +kernel
  have hparse : (parse "x|join(:)|s/:/;/:d").defaultText = some "d" := by decide +kernel
  obtain ⟨hwalk, -, -, hdefault⟩ :=
    (decompositions_agree "join(:)|s/:/;/:d").2.2.2.2 _ _ hbreak
  rw [hspans] at hwalk
  obtain ⟨before, hcolon, -⟩ := (hdefault "d").mp hparse
  exact ⟨hbreak, hwalk, hparse, before, hcolon⟩

end Stencil.Tag
