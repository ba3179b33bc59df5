import Stencil.Proofs.AliasLevel
import Stencil.Proofs.ArgumentList
import Stencil.Proofs.StockCall

/-!
# Names of filters in upper and lower case

A filter is looked up by its name in lower case, but the splitter of chains and the reader of substitutions know
the letter `s` and the word `onmatch` in lower case only, and end a name at the first character that is not ASCII.
Where these see one filter in both texts, the case of the name makes no difference.
-/
namespace Stencil

open Stencil.Text Stencil.Tag Stencil.Tag.Grammar

namespace Unicode

theorem lowerChar_ne_nil (c : Char) : lowerChar c ≠ [] := by
  unfold lowerChar
  split
  · simp
  · split <;> simp

theorem lowercase_ne_empty {s : String} (h : s ≠ "") : lowercase s ≠ "" := by
  intro heq
  have hlower : lower s.toList = [] := by
    rw [lowercase] at heq
    exact String.ofList_eq_empty_iff.mp heq
  cases hs : s.toList with
  | nil => exact h (String.toList_eq_nil_iff.mp hs)
  | cons c rest =>
    rw [hs, lower, lowerFrom, List.append_eq_nil_iff] at hlower
    obtain ⟨hfirst, -⟩ := hlower
    split at hfirst
    · split at hfirst <;> simp at hfirst
    · exact lowerChar_ne_nil c hfirst

end Unicode

/-- All stock filters but the substitution, which reads the call as it is written, look at the arguments only. -/
theorem Stock.apply_congr {f : Stock} (hf : f ≠ .substitute) {call call' : Invocation}
    (harguments : call.callArguments = call'.callArguments)
    (hraw : call.rawArguments = call'.rawArguments) (settle : Value → Run Value) (v : Option Value) :
    f.apply settle v call = f.apply settle v call' := by
  have hargument (i : Nat) : call.argument? i = call'.argument? i := by
    rw [Invocation.argument?, harguments, Invocation.argument?]
  have hfirst : Filter.firstArgument call = Filter.firstArgument call' := by
    rw [Filter.firstArgument, hargument, Filter.firstArgument]
  have hpadding : Filter.padding call = Filter.padding call' := by
    rw [Filter.padding, hargument, hargument, Filter.padding]
  cases f with
  | substitute => exact absurd rfl hf
  | onMatch => simp only [Stock.apply, Filter.onMatch, harguments]
  | slice => simp only [Stock.apply, harguments]
  | join => simp only [Stock.apply, hargument]
  | get => simp only [Stock.apply, hargument]
  | split => simp only [Stock.apply, Filter.split, hargument]
  | indent => simp only [Stock.apply, Filter.indentBy, hpadding]
  | selected => simp only [Stock.apply, Filter.mark, hargument]
  | checked => simp only [Stock.apply, Filter.mark, hargument]
  | alternate => simp only [Stock.apply, Filter.alternate, harguments]
  | onDefined => simp only [Stock.apply, hfirst]
  | default => simp only [Stock.apply, hfirst]
  | sprintf => simp only [Stock.apply, Filter.sprintf, hraw]
  | quickCalculate => simp only [Stock.apply, Filter.quickCalculate, hraw]
  | calculate => simp only [Stock.apply, Filter.calculate, harguments]
  | _ => rfl

theorem Stock.eq_s_of_substitute {name : String} (h : Stock.ofName? name = some .substitute)
    (hne : name ≠ "") : name = "s" := by
  have hmem := Stock.mem_names_of_ofName? h
  simp only [Stock.names, List.mem_cons, List.not_mem_nil, or_false] at hmem
  exact hmem.resolve_right hne

/-- Without a slash at the start, or behind the letter there, a call is no substitution. -/
theorem Filter.substitute_of_no_slash {call : Invocation}
    (hletter : ∀ rest, trim call.text.toList ≠ 's' :: '/' :: rest)
    (hslash : ∀ rest, trim call.text.toList ≠ '/' :: rest) (v : Value) :
    Filter.substitute v call = v := by
  have hnone : (dropStart? ['s', '/'] (trim call.text.toList)).or
      (dropStart? ['/'] (trim call.text.toList)) = none := by
    rw [dropStart?_eq_none.mpr fun ⟨rest, h⟩ => hletter rest h.symm,
      dropStart?_eq_none.mpr fun ⟨rest, h⟩ => hslash rest h.symm]
    rfl
  rw [Filter.substitute, Pattern.Directive.parseSubstitution]
  dsimp only
  rw [hnone]
  rfl

namespace Tag

structure IsName (n : String) : Prop where
  nonempty : n ≠ ""
  trimmed : trimmed n = n
  no_paren : '(' ∉ n.toList
  no_slash : '/' ∉ n.toList

/-- What may stand behind the name of a filter: nothing, arguments or a literal. -/
def FollowsName (t : String) : Prop := ∀ c ∈ t.toList.head?, c = '(' ∨ c = '/'

theorem filters_eq_self_iff {s : String} :
    filters s = [s] ↔ trim s.toList = s.toList ∧ atBoundary? false s.toList = none := by
  rw [filters]
  cases hbar : atBoundary? false s.toList with
  | none =>
    rw [segments_of_none hbar, List.map_singleton, List.cons.injEq]
    refine ⟨fun h => ⟨?_, rfl⟩, fun h => ⟨?_, rfl⟩⟩
    · have hchars := congrArg String.toList h.1
      rwa [String.toList_ofList] at hchars
    · rw [h.1, String.ofList_toList]
  | some p =>
    rw [segments_of_some hbar, List.map_cons, List.cons.injEq, List.map_eq_nil_iff]
    simp [segments_ne_nil]

section Reading

variable {n t : String} (hn : IsName n) (ht : FollowsName t) (hs : filters (n ++ t) = [n ++ t])

include hn ht in
theorem splitHead_name : Invocation.splitHead (n ++ t).toList = (n.toList, t.toList) := by
  rw [String.toList_append]
  refine splitHead_of_ne (fun c hc => ⟨?_, ?_⟩) ht
  · exact fun heq => hn.no_paren (heq ▸ hc)
  · exact fun heq => hn.no_slash (heq ▸ hc)

include hs in
theorem parse_text : (Invocation.parse (n ++ t)).text = n ++ t := by
  rw [Invocation.parse, Invocation.ofChars, (filters_eq_self_iff.mp hs).1, String.ofList_toList]
  dsimp only
  split <;> rfl

include hn ht hs

theorem parse_name : (Invocation.parse (n ++ t)).name = n := by
  have hname : String.ofList (trim n.toList) = n := hn.trimmed
  rw [Invocation.parse, Invocation.ofChars, (filters_eq_self_iff.mp hs).1, splitHead_name hn ht]
  dsimp only
  cases hchars : t.toList with
  | nil =>
    rw [String.toList_append, hchars, List.append_nil]
    exact String.ofList_toList
  | cons c rest => rcases ht c (by simp [hchars]) with rfl | rfl <;> exact hname

end Reading

/-- What is read of a call behind its name does not depend on the name. -/
theorem parse_arguments {n n' t : String} (hn : IsName n) (hn' : IsName n') (ht : FollowsName t)
    (hs : filters (n ++ t) = [n ++ t]) (hs' : filters (n' ++ t) = [n' ++ t]) :
    (Invocation.parse (n ++ t)).callArguments = (Invocation.parse (n' ++ t)).callArguments ∧
      (Invocation.parse (n ++ t)).rawArguments = (Invocation.parse (n' ++ t)).rawArguments := by
  rw [Invocation.parse, Invocation.parse, Invocation.ofChars, Invocation.ofChars,
    (filters_eq_self_iff.mp hs).1, (filters_eq_self_iff.mp hs').1, splitHead_name hn ht,
    splitHead_name hn' ht]
  dsimp only
  cases hchars : t.toList with
  | nil => exact ⟨rfl, rfl⟩
  | cons c rest => rcases ht c (by simp [hchars]) with rfl | rfl <;> exact ⟨rfl, rfl⟩

end Tag

namespace Engine

variable (e : Engine) (r : Resolver) (deeper : Unit → Level)

def ReadsLiteral (n t : String) : Prop :=
  t.toList.head? = some '/' ∧ Unicode.lowercase n = "s" ∧ e.LeavesStock "s"

section SameName

variable {e} {n n' t : String} (hn : IsName n) (hn' : IsName n')
  (hlower : Unicode.lowercase n = Unicode.lowercase n') (ht : FollowsName t)
  (hs : filters (n ++ t) = [n ++ t]) (hs' : filters (n' ++ t) = [n' ++ t])
  (hliteral : ¬e.ReadsLiteral n t)

include hn hs in
theorem substitute_of_no_literal (hslash : t.toList.head? ≠ some '/') (v : Value) :
    Filter.substitute v (Invocation.parse (n ++ t)) = v := by
  have htrim := (filters_eq_self_iff.mp hs).1
  obtain ⟨c, rest, hchars⟩ := List.exists_cons_of_ne_nil fun h => hn.nonempty (String.toList_eq_nil_iff.mp h)
  have hfirst : c ≠ '/' := fun heq => hn.no_slash (by simp [hchars, heq])
  refine Filter.substitute_of_no_slash ?_ ?_ v
  · intro tail heq
    rw [parse_text hs, htrim, String.toList_append, hchars, List.cons_append] at heq
    obtain ⟨-, heq⟩ := List.cons.inj heq
    cases rest with
    | nil =>
      rw [List.nil_append] at heq
      exact hslash (by rw [heq]; rfl)
    | cons d rest =>
      obtain ⟨rfl, -⟩ := List.cons.inj heq
      exact hn.no_slash (by simp [hchars])
  · intro tail heq
    rw [parse_text hs, htrim, String.toList_append, hchars, List.cons_append] at heq
    exact hfirst (List.cons.inj heq).1

include hn hn' hlower ht hs hs' hliteral

theorem outcome_applyFilter_lowercase (v : Option Value) :
    (e.applyFilter deeper v (n ++ t)).outcome = (e.applyFilter deeper v (n' ++ t)).outcome := by
  obtain ⟨harguments, hraw⟩ := parse_arguments hn hn' ht hs hs'
  unfold applyFilter
  dsimp only
  rw [parse_name hn ht hs, parse_name hn' ht hs', ← hlower, ← harguments]
  cases hcustom : Table.get? (Unicode.lowercase n) e.registry.custom with
  | some f =>
    dsimp only
    cases f v (Invocation.parse (n ++ t)).callArguments with
    | ok output => rfl
    | error message => rfl
  | none =>
    cases halias : Table.get? (Unicode.lowercase n) e.registry.aliases with
    | some chain => rfl
    | none =>
      cases hstock : Stock.ofName? (Unicode.lowercase n) with
      | none => rfl
      | some f =>
        dsimp only
        by_cases hf : f = .substitute
        -- the substitution alone reads the call as it is written, with the case of its name
        · subst hf
          have hname := Stock.eq_s_of_substitute hstock (Unicode.lowercase_ne_empty hn.nonempty)
          rw [hname] at hcustom halias
          have hslash : t.toList.head? ≠ some '/' := fun h => hliteral ⟨h, hname, hcustom, halias⟩
          have hkept (v : Value) : Filter.substitute v (Invocation.parse (n ++ t)) =
              Filter.substitute v (Invocation.parse (n' ++ t)) := by
            rw [substitute_of_no_literal hn hs hslash, substitute_of_no_literal hn' hs' hslash]
          simp only [Stock.apply, hkept]
        · rw [Stock.apply_congr hf harguments hraw]

end SameName

/-- Where both texts are one filter, the case of the name makes no difference. -/
theorem outcome_evaluateChain_lowercase {n n' t : String} (hn : IsName n) (hn' : IsName n')
    (hlower : Unicode.lowercase n = Unicode.lowercase n') (ht : FollowsName t)
    (hs : filters (n ++ t) = [n ++ t]) (hs' : filters (n' ++ t) = [n' ++ t])
    (hliteral : ¬e.ReadsLiteral n t) (v : Option Value) :
    (e.evaluateChain r (n ++ t) v).outcome = (e.evaluateChain r (n' ++ t) v).outcome := by
  have hne {m : String} (hm : IsName m) : m ++ t ≠ "" := fun h => hm.nonempty (String.append_eq_empty_iff.mp h).1
  rw [evaluateChain_single e r hs (hne hn), evaluateChain_single e r hs' (hne hn'), filterStep, filterStep,
    Run.outcome_bind, Run.outcome_bind,
    outcome_applyFilter_lowercase (e.deeper r) hn hn' hlower ht hs hs' hliteral]

end Engine

namespace Tag

theorem trimStart_name {n t : List Char} (hne : n ≠ []) (hn : ∀ c ∈ n, isNameChar c = true) :
    trimStart (n ++ t) = n ++ t := by
  obtain ⟨c, rest, rfl⟩ := List.exists_cons_of_ne_nil hne
  exact trimStart_of_head (by simpa using isBlank_of_isNameChar (hn c (by simp)))

theorem trim_append_name {n t : List Char} (hne : n ≠ []) (hn : ∀ c ∈ n, isNameChar c = true) :
    trim (n ++ t) = n ++ t ↔ trimEnd t = t := by
  have hhead : ∀ c ∈ n.head?, isBlank c = false :=
    fun c hc => isBlank_of_isNameChar (hn c (List.mem_of_mem_head? hc))
  have hlast : ∀ c ∈ n.getLast?, isBlank c = false :=
    fun c hc => isBlank_of_isNameChar (hn c (List.mem_of_getLast? hc))
  rw [trim_append hne hhead hlast, List.append_cancel_left_eq]

theorem length_of_lowercase {n n' : String} (hn : ∀ c ∈ n.toList, isNameChar c = true)
    (hn' : ∀ c ∈ n'.toList, isNameChar c = true) (h : Unicode.lowercase n = Unicode.lowercase n') :
    n.toList.length = n'.toList.length := by
  have hlower {m : String} (hm : ∀ c ∈ m.toList, isNameChar c = true) :
      (Unicode.lowercase m).toList.length = m.toList.length := by
    rw [Unicode.lowercase, String.toList_ofList, Unicode.lower,
      lowerFrom_ascii (fun c hc => toNat_lt_of_isNameChar (hm c hc)), List.length_map]
  rw [← hlower hn, h, hlower hn']

theorem atBoundary?_eq_none_iff {s : List Char} :
    atBoundary? false s = none ↔ cut '|' false (afterShape s) = none := by
  rw [atBoundary?]
  simp only [Bool.false_and, Option.map_eq_none_iff]

section Shape

variable {n t : List Char} (hne : n ≠ []) (hn : ∀ c ∈ n, isNameChar c = true)
  (ht : ∀ c ∈ t.head?, c = '(' ∨ c = '/')
include hne hn

include ht

theorem afterShape_name (hletter : t.head? = some '/' → n ≠ ['s']) (ho : ¬"onmatch".toList <+: n) :
    afterShape (n ++ t) = afterName t := by
  obtain ⟨c, rest, rfl⟩ := List.exists_cons_of_ne_nil hne
  have hstop : ∀ d ∈ t.head?, isNameChar d = false := by
    intro d hd
    rcases ht d hd with rfl | rfl <;> decide
  refine afterShape_of_other (trimStart_name hne hn) ?_ ?_ hn hstop ho
  · intro tail heq
    exact ne_of_class (hn c (by simp)) (by decide) (List.cons.inj heq).1
  · intro tail heq
    obtain ⟨rfl, htail⟩ := List.cons.inj heq
    cases rest with
    | nil =>
      have hslash : t = '/' :: tail := htail
      exact hletter (by rw [hslash]; rfl) rfl
    | cons d rest => exact ne_of_class (hn d (by simp)) (by decide) (List.cons.inj htail).1

omit ht in
/-- A name that goes on behind the word `onmatch` leaves all that follows the word. -/
theorem cut_afterShape_longer {m : List Char} (hm : n = "onmatch".toList ++ m) (hmore : m ≠ []) :
    cut '|' false (afterShape (n ++ t)) = none ↔ cut '|' false t = none := by
  have hchars : ∀ c ∈ m, isNameChar c = true := fun c hc => hn c (by simp [hm, hc])
  have hhead : ∀ c ∈ (m ++ t).head?, isBlank c = false ∧ c ≠ '(' := by
    obtain ⟨d, rest, rfl⟩ := List.exists_cons_of_ne_nil hmore
    intro c hc
    obtain rfl : d = c := by simpa using hc
    have hd := hchars d (by simp)
    exact ⟨isBlank_of_isNameChar hd, ne_of_class hd (by decide)⟩
  have hstart : trimStart (n ++ t) = "onmatch".toList ++ (m ++ t) := by
    rw [trimStart_name hne hn, hm, List.append_assoc]
  rw [afterShape_of_onmatch hstart, afterMatchList_of_head hhead, cut_nameChars (by decide) hchars,
    Option.map_eq_none_iff]

end Shape

/-- Names of the same length that both begin like `onmatch`, or both not, end alike. -/
theorem atBoundary?_name_iff {n n' t : List Char} (hne : n ≠ []) (hlength : n.length = n'.length)
    (hn : ∀ c ∈ n, isNameChar c = true) (hn' : ∀ c ∈ n', isNameChar c = true)
    (ht : ∀ c ∈ t.head?, c = '(' ∨ c = '/') (hword : "onmatch".toList <+: n ↔ "onmatch".toList <+: n')
    (hletter : t.head? = some '/' → n ≠ ['s'] ∧ n' ≠ ['s']) :
    atBoundary? false (n ++ t) = none ↔ atBoundary? false (n' ++ t) = none := by
  have hne' : n' ≠ [] := List.ne_nil_of_length_pos (hlength ▸ List.length_pos_of_ne_nil hne)
  rw [atBoundary?_eq_none_iff, atBoundary?_eq_none_iff]
  by_cases ho : "onmatch".toList <+: n
  · obtain ⟨m', rfl⟩ := hword.mp ho
    obtain ⟨m, rfl⟩ := ho
    rw [List.length_append, List.length_append, Nat.add_left_cancel_iff] at hlength
    by_cases hnil : m = []
    · subst hnil
      rw [List.length_eq_zero_iff.mp hlength.symm]
    · have hnil' : m' ≠ [] := List.ne_nil_of_length_pos (hlength ▸ List.length_pos_of_ne_nil hnil)
      rw [cut_afterShape_longer hne hn rfl hnil, cut_afterShape_longer hne' hn' rfl hnil']
  · rw [afterShape_name hne hn ht (fun h => (hletter h).1) ho,
      afterShape_name hne' hn' ht (fun h => (hletter h).2) (fun h => ho (hword.mpr h))]

theorem filters_name_iff {n n' t : String} (hne : n ≠ "") (hn : ∀ c ∈ n.toList, isNameChar c = true)
    (hn' : ∀ c ∈ n'.toList, isNameChar c = true)
    (hlower : Unicode.lowercase n = Unicode.lowercase n') (ht : FollowsName t)
    (hword : "onmatch".toList <+: n.toList ↔ "onmatch".toList <+: n'.toList)
    (hletter : t.toList.head? = some '/' → Unicode.lowercase n ≠ "s") :
    filters (n ++ t) = [n ++ t] ↔ filters (n' ++ t) = [n' ++ t] := by
  have hlength := length_of_lowercase hn hn' hlower
  have hchars : n.toList ≠ [] := fun h => hne (String.toList_eq_nil_iff.mp h)
  have hchars' : n'.toList ≠ [] := List.ne_nil_of_length_pos (hlength ▸ List.length_pos_of_ne_nil hchars)
  have hs {m : String} (hm : Unicode.lowercase m = Unicode.lowercase n)
      (hslash : t.toList.head? = some '/') : m.toList ≠ ['s'] := by
    intro heq
    obtain rfl : m = "s" := String.toList_inj.mp heq
    exact hletter hslash (hm ▸ by decide)
  rw [filters_eq_self_iff, filters_eq_self_iff, String.toList_append, String.toList_append,
    trim_append_name hchars hn, trim_append_name hchars' hn',
    atBoundary?_name_iff hchars hlength hn hn' ht hword fun h => ⟨hs rfl h, hs hlower.symm h⟩]

end Tag

namespace Engine

/-- The case of a name makes no difference where both texts are one filter and this is no literal behind the
letter `s`. Of names of ASCII characters, either both are one filter or none, if both or none begin with the word
`onmatch`. -/
theorem evaluateChain_lowercase (e : Engine) (r : Resolver) {n n' t : String} (hn : IsName n)
    (hn' : IsName n') (hlower : Unicode.lowercase n = Unicode.lowercase n') (ht : FollowsName t) :
    (filters (n ++ t) = [n ++ t] → filters (n' ++ t) = [n' ++ t] → ¬e.ReadsLiteral n t →
      ∀ v, (e.evaluateChain r (n ++ t) v).outcome = (e.evaluateChain r (n' ++ t) v).outcome) ∧
    ((∀ c ∈ n.toList, isNameChar c = true) → (∀ c ∈ n'.toList, isNameChar c = true) →
      ("onmatch".toList <+: n.toList ↔ "onmatch".toList <+: n'.toList) →
      (t.toList.head? = some '/' → Unicode.lowercase n ≠ "s") →
      filters (n ++ t) = [n ++ t] →
      ∀ v, (e.evaluateChain r (n ++ t) v).outcome = (e.evaluateChain r (n' ++ t) v).outcome) := by
  constructor
  · exact fun hs hs' hliteral => outcome_evaluateChain_lowercase e r hn hn' hlower ht hs hs' hliteral
  · intro hascii hascii' hword hletter hs
    have hs' := (filters_name_iff hn.nonempty hascii hascii' hlower ht hword hletter).mp hs
    have hliteral : ¬e.ReadsLiteral n t := fun h => hletter h.1 h.2.1
    exact outcome_evaluateChain_lowercase e r hn hn' hlower ht hs hs' hliteral

/-- A calculation in two ways to write its name. -/
theorem evaluateChain_lowercase_qcalc :
    Unicode.lowercase "QCALC" = Unicode.lowercase "qCalc" ∧ filters "QCALC(*2)" = ["QCALC(*2)"] ∧
    (standard.evaluateChain silent "QCALC(*2)" (some (.text "21"))).outcome =
      (standard.evaluateChain silent "qCalc(*2)" (some (.text "21"))).outcome := by
  have hn : IsName "QCALC" := ⟨by decide, by decide +kernel, by decide, by decide⟩
  have hn' : IsName "qCalc" := ⟨by decide, by decide +kernel, by decide, by decide⟩
  have hlower : Unicode.lowercase "QCALC" = Unicode.lowercase "qCalc" := by decide +kernel
  have ht : FollowsName "(*2)" := by simp [FollowsName]
  have hs : filters "QCALC(*2)" = ["QCALC(*2)"] := by decide +kernel
  have hascii : ∀ c ∈ "QCALC".toList, isNameChar c = true := List.all_eq_true.mp (by decide)
  have hascii' : ∀ c ∈ "qCalc".toList, isNameChar c = true := List.all_eq_true.mp (by decide)
  have hcase := (evaluateChain_lowercase standard silent hn hn' hlower ht).2 hascii hascii' (by decide)
    (by simp) hs
  exact ⟨hlower, hs, hcase _⟩

/-- A literal behind a capital letter is no substitution, and the clause behind the pairs of a capital `onmatch` is
cut at its bar. -/
theorem lowercase_shapes_differ :
    (Unicode.lowercase "s" = Unicode.lowercase "S" ∧ filters "s/a/b/" = ["s/a/b/"] ∧
      (standard.evaluateChain silent "s/a/b/" (some (.text "a"))).outcome.toOption.map
        (·.map Value.display) = some (some "b") ∧
      (standard.evaluateChain silent "S/a/b/" (some (.text "a"))).outcome.toOption.map
        (·.map Value.display) = some (some "a")) ∧
    Unicode.lowercase "onmatch" = Unicode.lowercase "ONMATCH" ∧
      filters "onmatch(/a/,x)nomatch(p|q)" = ["onmatch(/a/,x)nomatch(p|q)"] ∧
      filters "ONMATCH(/a/,x)nomatch(p|q)" = ["ONMATCH(/a/,x)nomatch(p", "q)"] := by
  decide +kernel

end Engine

end Stencil
