import Stencil.Proofs.ChainText
import Stencil.Proofs.MatchList
import Stencil.Proofs.Offsets

/-!
# Argument lists within shapes

The reader of a call takes its list to end at the closing parenthesis. The splitter of chains and the reader of
tags agree that the list ends no earlier, except behind names that go on after the word `onmatch`, and for lists
of an `onmatch` in which the two readings of a slash or a bracket differ.
-/
namespace Stencil.Tag

open Stencil.Text Grammar Expression

section Shape

variable {shape s : List Char} (hs : shape ++ afterShape s = s)
include hs

theorem shape_prefix_of_atBoundary? {escaped : Bool} {filter rest : List Char}
    (h : atBoundary? escaped s = some (filter, rest)) : shape <+: filter := by
  obtain ⟨⟨loose, after⟩, -, heq⟩ := Option.map_eq_some_iff.mp h
  obtain ⟨rfl, -⟩ := Prod.mk.inj heq
  rw [take_eq_shape hs]
  exact List.prefix_append shape loose

/-- No default begins within the shape of a filter. -/
theorem shape_prefix_splitDefault : shape <+: (splitDefault s).1 := by
  have hboundary {filter rest : List Char} (h : atBoundary? false s = some (filter, rest))
      (chain : List Char) : shape <+: filter ++ '|' :: chain :=
    (shape_prefix_of_atBoundary? hs h).trans (List.prefix_append filter _)
  rw [splitDefault, take_eq_shape hs]
  dsimp only
  split
  · exact ⟨afterShape s, hs⟩
  · exact List.prefix_append shape _
  · next found filter more h =>
    split
    · split
      · exact List.prefix_append shape _
      · exact hboundary h _
    · exact hboundary h _

end Shape

theorem matchingClose_append {f : String} {name rest : List Char} (hf : f.toList = name ++ '(' :: rest) :
    matchingClose f (byteLength name) =
      (closing '(' ')' 0 true rest).map fun (inside, _) => byteLength name + 1 + byteLength inside := by
  rw [matchingClose, hf, splitAtByte_append]
  have hparen : bracketed? ('(' :: rest) = closing '(' ')' 0 true rest := rfl
  simp only [Option.bind_eq_bind, Option.bind_some, hparen]
  cases closing '(' ')' 0 true rest <;> rfl

section Place

variable {text : String} {front s : List Char} (htext : text.toList = front ++ s)
include htext

theorem atByte_append : Cursor.atByte text.toList (byteLength front) = ⟨front.reverse, s⟩ := by
  have hle : byteLength front ≤ byteLength (front ++ s) :=
    byteLength_le_of_prefix (List.prefix_append front s)
  rw [htext, Cursor.atByte, Nat.min_eq_left hle, splitAtByte_append]

theorem shapeEnd_append {shape : List Char} (hs : shape ++ afterShape s = s) :
    shapeEnd text (byteLength front) = byteLength (front ++ shape) := by
  have hlength := congrArg byteLength hs
  rw [byteLength_append] at hlength
  rw [shapeEnd, atByte_append htext, htext, byteLength_append, byteLength_append]
  dsimp only
  omega

variable (hfront : escapedAfter front.reverse = false)
include hfront

theorem boundary?_append :
    boundary? text (byteLength front) =
      (atBoundary? false s).map fun (filter, _) => byteLength (front ++ filter) := by
  have hpos : Cursor.pos ⟨front.reverse, s⟩ = byteLength front := byteLength_reverse front
  rw [boundary?, atByte_append htext]
  simp only [hfront, hpos, byteLength_append]

end Place

theorem shapeEnd_zero {f : String} {shape : List Char} (hs : shape ++ afterShape f.toList = f.toList) :
    shapeEnd f 0 = byteLength shape := shapeEnd_append (List.nil_append f.toList).symm hs

theorem boundary?_zero (f : String) :
    boundary? f 0 = (atBoundary? false f.toList).map fun (filter, _) => byteLength filter := by
  have h := boundary?_append (List.nil_append f.toList).symm rfl
  simp only [List.nil_append] at h
  exact h

theorem head_call {name : List Char} (hname : ∀ d ∈ name, isNameChar d = true) (rest : List Char) :
    ∀ d ∈ (name ++ '(' :: rest).head?, isBlank d = false := by
  intro d hd
  cases name with
  | nil =>
    obtain rfl : '(' = d := by simpa using hd
    decide
  | cons c name =>
    obtain rfl : c = d := by simpa using hd
    exact isBlank_of_isNameChar (hname c (by simp))

theorem afterMatchList_suffix_of_closed {inside after : List Char}
    (h : afterPairs? (inside ++ ')' :: after) = some after) :
    afterMatchList ('(' :: (inside ++ ')' :: after)) <:+ after := by
  have hstart : trimStart ('(' :: (inside ++ ')' :: after)) = '(' :: (inside ++ ')' :: after) :=
    trimStart_of_head (by simp [isBlank])
  unfold afterMatchList
  split
  · next inside' heq =>
    rw [hstart] at heq
    obtain ⟨-, rfl⟩ := List.cons.inj heq
    rw [h]
    dsimp only
    split
    · exact List.suffix_rfl
    · next clause hclause =>
      have hsuffix : clause <:+ after :=
        (show clause <:+ trimStart after from ⟨_, (dropStart?_eq_some.mp hclause).symm⟩).trans
          (trimStart_suffix after)
      split
      · next htail => exact (afterClosing_suffix htail).trans hsuffix
      · exact List.nil_suffix
  · next heq => exact absurd hstart (heq _)

/-- A name and the text behind its parenthesis whose list both readers end alike: of an `onmatch` the list must
be one of tests and outputs, and no other name may begin with that word. -/
def EndsAlike (name rest : List Char) : Prop :=
  ¬"onmatch".toList <+: name ∨
    name = "onmatch".toList ∧ ∃ inside after, rest = inside ++ ')' :: after ∧ MatchList inside

theorem afterShape_suffix_of_list {name inside after : List Char}
    (hname : ∀ d ∈ name, isNameChar d = true) (h : EndsAlike name (inside ++ ')' :: after))
    (hclosing : closing '(' ')' 0 true (inside ++ ')' :: after) = some (inside, after)) :
    afterShape (name ++ '(' :: (inside ++ ')' :: after)) <:+ after := by
  have hstart := trimStart_of_head (head_call hname (inside ++ ')' :: after))
  rcases h with hother | ⟨rfl, inside', after', hrest, hlist⟩
  · have hparen : ∀ d ∈ ('(' :: (inside ++ ')' :: after)).head?, isNameChar d = false ∧ d ≠ '/' := by
      intro d hd
      obtain rfl : '(' = d := by simpa using hd
      decide
    rw [afterShape_of_name hstart hname hparen hother, afterName, closingParen, hclosing]
    exact List.suffix_rfl
  · have hsame := hlist.closing after'
    rw [← hrest, hclosing] at hsame
    obtain ⟨rfl, rfl⟩ := Prod.mk.inj (Option.some.inj hsame)
    rw [afterShape_of_onmatch hstart]
    exact afterMatchList_suffix_of_closed (hlist.afterPairs?_closed after)

/-- The list of a filter lies within its shape, so that no bar and no colon in the list ends the filter or the
chain. -/
theorem list_within_shape {f : String} {name rest : List Char} {c : Nat}
    (hf : f.toList = name ++ '(' :: rest) (hname : ∀ d ∈ name, isNameChar d = true)
    (hform : EndsAlike name rest) (hclose : matchingClose f (byteLength name) = some c) :
    c + 1 ≤ shapeEnd f 0 ∧ (∀ b, boundary? f 0 = some b → c < b) ∧
    ∀ (raw : String) (before : List Char),
      breakPath (fun d => d == ':' || d == '|') raw.toList = (before, '|' :: f.toList) →
      ∃ list more, list <+: f.toList ∧ byteLength list = c + 1 ∧
        (parse raw).chain = some (String.ofList (list ++ more)) := by
  rw [matchingClose_append hf] at hclose
  obtain ⟨⟨inside, after⟩, hclosing, rfl⟩ := Option.map_eq_some_iff.mp hclose
  obtain rfl := eq_of_closing hclosing
  -- the shape is the name with the list and perhaps a `nomatch` clause behind it
  obtain ⟨tail, htail⟩ := afterShape_suffix_of_list hname hform hclosing
  rw [← hf] at htail
  obtain ⟨list, hlist⟩ : ∃ list, list = name ++ '(' :: (inside ++ [')']) := ⟨_, rfl⟩
  have hfront : f.toList = list ++ after := by rw [hf, hlist]; simp
  have hlength : byteLength list = byteLength name + 1 + byteLength inside + 1 := by
    rw [hlist, List.append_cons, byteLength_append, byteLength_append, byteLength_append]
    have hparen : byteLength ['('] = 1 ∧ byteLength [')'] = 1 := by decide
    omega
  have hshape : (list ++ tail) ++ afterShape f.toList = f.toList := by
    rw [List.append_assoc, htail, hfront]
  have hstarts : list <+: list ++ tail := List.prefix_append list tail
  refine ⟨?_, fun b hb => ?_, fun raw before hbreak => ?_⟩
  · rw [shapeEnd_zero hshape, ← hlength]
    exact byteLength_le_of_prefix hstarts
  · rw [boundary?_zero] at hb
    obtain ⟨⟨filter, later⟩, hfilter, rfl⟩ := Option.map_eq_some_iff.mp hb
    have hle := byteLength_le_of_prefix (hstarts.trans (shape_prefix_of_atBoundary? hshape hfilter))
    dsimp only
    omega
  · obtain ⟨more, hmore⟩ := hstarts.trans (shape_prefix_splitDefault hshape)
    have hne : list ≠ [] := by simp [hlist]
    have hhead : ∀ d ∈ list.head?, isBlank d = false := hlist ▸ head_call hname _
    have hlast : ∀ d ∈ list.getLast?, isBlank d = false := by
      rw [hlist, ← List.cons_append, ← List.append_assoc]
      exact getLast_append (by simp) (by simp [isBlank])
    obtain ⟨more', hmore'⟩ := trim_append_of_ends hne hhead hlast more
    refine ⟨list, more', ⟨after, hfront.symm⟩, hlength, ?_⟩
    have hchain : (parse raw).chain = chainOf (splitDefault f.toList).1 := by
      rw [parse, ofChars, hbreak]
      rfl
    rw [hchain, chainOf, ← hmore, ← hmore']
    split
    · next hnil => exact absurd (List.append_eq_nil_iff.mp hnil).1 hne
    · rfl

/-- An `onmatch` whose test and output both hold a bar. -/
theorem list_within_shape_bars :
    "onmatch(/a|b/,x:y)|upper".toList = "onmatch".toList ++ '(' :: "/a|b/,x:y)|upper".toList ∧
    (∀ d ∈ "onmatch".toList, isNameChar d = true) ∧ EndsAlike "onmatch".toList "/a|b/,x:y)|upper".toList ∧
    matchingClose "onmatch(/a|b/,x:y)|upper" (byteLength "onmatch".toList) = some 17 ∧
    17 + 1 ≤ shapeEnd "onmatch(/a|b/,x:y)|upper" 0 ∧
    ∀ b, boundary? "onmatch(/a|b/,x:y)|upper" 0 = some b → 17 < b := by
  have hf : "onmatch(/a|b/,x:y)|upper".toList = "onmatch".toList ++ '(' :: "/a|b/,x:y)|upper".toList := by
    decide
  have hname : ∀ d ∈ "onmatch".toList, isNameChar d = true := List.all_eq_true.mp (by decide)
  have houtput : Nested true false "x:y".toList :=
    .plain (by decide) (by decide) (.plain (by decide) (by decide) (.plain (by decide) (by decide) .nil))
  have hlist : MatchList "/a|b/,x:y".toList :=
    .pair (@IsTest.literal [] "a|b".toList [] (List.forall_mem_nil _) (by decide) .nil) houtput
  have hform : EndsAlike "onmatch".toList "/a|b/,x:y)|upper".toList :=
    .inr ⟨rfl, "/a|b/,x:y".toList, "|upper".toList, by decide, hlist⟩
  have hclose : matchingClose "onmatch(/a|b/,x:y)|upper" (byteLength "onmatch".toList) = some 17 := by
    decide +kernel
  have h := list_within_shape hf hname hform hclose
  exact ⟨hf, hname, hform, hclose, h.1, h.2.1⟩

theorem afterMatchList_of_head {t : List Char} (h : ∀ c ∈ t.head?, isBlank c = false ∧ c ≠ '(') :
    afterMatchList t = t := by
  have hstart : trimStart t = t := trimStart_of_head fun c hc => (h c hc).1
  unfold afterMatchList
  rw [hstart]
  split
  · next inside heq => exact absurd rfl (h '(' rfl).2
  · rfl

/-- A name that goes on after the word `onmatch` has its shape end at the word, whatever list follows. -/
theorem shapeEnd_of_longer_name {f : String} {more rest : List Char}
    (hf : f.toList = "onmatch".toList ++ (more ++ '(' :: rest)) (hmore : more ≠ [])
    (hname : ∀ d ∈ more, isNameChar d = true) : shapeEnd f 0 = 7 := by
  have hhead : ∀ c ∈ (more ++ '(' :: rest).head?, isBlank c = false ∧ c ≠ '(' := by
    obtain ⟨d, more, rfl⟩ := List.exists_cons_of_ne_nil hmore
    intro c hc
    obtain rfl : d = c := by simpa using hc
    have hd := hname d (by simp)
    exact ⟨isBlank_of_isNameChar hd, ne_of_class hd (by decide)⟩
  have hstart : trimStart f.toList = "onmatch".toList ++ (more ++ '(' :: rest) := by
    rw [hf]
    exact trimStart_of_head (by simp [isBlank])
  have hshape : "onmatch".toList ++ afterShape f.toList = f.toList := by
    rw [afterShape_of_onmatch hstart, afterMatchList_of_head hhead, hf]
  rw [shapeEnd_zero hshape]
  decide

/-- A bar in a list that ends the filter: the list of a longer name, and that of an `onmatch` with an output in
slashes. -/
theorem list_beyond_shape :
    (matchingClose "onmatchx(a|b)" 8 = some 12 ∧ shapeEnd "onmatchx(a|b)" 0 = 7 ∧
      filters "onmatchx(a|b)" = ["onmatchx(a", "b)"]) ∧
    matchingClose "onmatch(/a/,/)|/)" 7 = some 16 ∧ shapeEnd "onmatch(/a/,/)|/)" 0 = 14 ∧
      filters "onmatch(/a/,/)|/)" = ["onmatch(/a/,/)", "/)"] := by
  decide +kernel

end Stencil.Tag
