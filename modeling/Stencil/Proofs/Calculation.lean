import Mathlib.Data.List.TakeWhile
import Stencil.Proofs.AliasLevel
import Stencil.Proofs.StockCall

/-!
# Chains of quick calculations

A slash right behind a parenthesis opens a literal where another slash follows. So a division takes the chain up to
the operand of the next division for its operand, which is no number, and its input stays as it is. Chains with one
division at most are the fold of their calculations.
-/
namespace Stencil

open Stencil.Text Stencil.Tag Stencil.Tag.Grammar

def isNumeralChar (c : Char) : Bool := isNameChar c || c == '+'

theorem isNumeralChar_of_isAlphanum {c : Char} (h : c.isAlphanum = true) : isNumeralChar c = true := by
  simp [isNumeralChar, isNameChar, h]

theorem isBlank_of_isNumeralChar {c : Char} (h : isNumeralChar c = true) : isBlank c = false := by
  rw [isNumeralChar, Bool.or_eq_true, beq_iff_eq] at h
  rcases h with hname | rfl
  · exact isBlank_of_isNameChar hname
  · decide

section Foreign

variable {c : Char} (hc : isNumeralChar c = false)
include hc

theorem ne_of_foreign {d : Char} (hd : isNumeralChar d = true) : c ≠ d := (ne_of_class hd hc).symm

theorem not_isAlphanum_of_foreign : c.isAlphanum ≠ true := by
  intro h
  rw [isNumeralChar_of_isAlphanum h] at hc
  exact absurd hc (by decide)

theorem isDigit_of_foreign : c.isDigit = false :=
  Bool.eq_false_iff.mpr fun h => not_isAlphanum_of_foreign hc (Bool.or_eq_true_iff.mpr (.inr h))

theorem toLower_of_foreign : c.toLower = c := by
  have hupper : ¬(c.val ≥ 'A'.val ∧ c.val ≤ 'Z'.val) := by
    intro h
    have halpha : c.isAlpha = true := Bool.or_eq_true_iff.mpr (.inl (decide_eq_true h))
    exact not_isAlphanum_of_foreign hc (Bool.or_eq_true_iff.mpr (.inl halpha))
  exact dif_neg hupper

theorem mem_dropWhile_digits {s : List Char} (hs : c ∈ s) : c ∈ s.dropWhile Char.isDigit := by
  have hdigit := isDigit_of_foreign hc
  rw [← List.takeWhile_append_dropWhile (p := Char.isDigit) (l := s), List.mem_append] at hs
  rcases hs with hfront | hrest
  · have htrue := List.mem_takeWhile_imp hfront
    rw [hdigit] at htrue
    exact absurd htrue Bool.false_ne_true
  · exact hrest

variable {s : List Char} (hs : c ∈ s)
include hs

theorem natural?_of_foreign : Decimal.natural? s = none := by
  have hall : ¬(s ≠ [] ∧ s.all Char.isDigit = true) := by
    rintro ⟨-, hall⟩
    have hdigit := List.all_eq_true.mp hall c hs
    rw [isDigit_of_foreign hc] at hdigit
    exact absurd hdigit Bool.false_ne_true
  rw [Decimal.natural?, if_neg hall]

theorem integer?_of_foreign : Decimal.integer? s = none := by
  have htail {d : Char} {rest : List Char} (h : c ∈ d :: rest) (hd : isNumeralChar d = true) :
      Decimal.natural? rest = none :=
    natural?_of_foreign hc ((List.mem_cons.mp h).resolve_left (ne_of_foreign hc hd))
  unfold Decimal.integer?
  split
  · rw [htail hs (by decide)]
    rfl
  · rw [htail hs (by decide)]
    rfl
  · rw [natural?_of_foreign hc hs]
    rfl

theorem exponentPart?_of_foreign : Decimal.exponentPart? s = none := by
  cases s with
  | nil => simp at hs
  | cons d rest =>
    rw [Decimal.exponentPart?]
    split
    · next hd =>
      have hne : c ≠ d := by
        rcases hd with rfl | rfl
        · exact ne_of_foreign hc (by decide)
        · exact ne_of_foreign hc (by decide)
      exact integer?_of_foreign hc ((List.mem_cons.mp hs).resolve_left hne)
    · rfl

theorem magnitude?_of_foreign : Decimal.magnitude? s = none := by
  have hword {word : String} (h : word.toList.all isNumeralChar = true) :
      (String.ofList (s.map Char.toLower) == word) = false := by
    rw [beq_eq_false_iff_ne]
    intro heq
    have hmem : c ∈ word.toList := by
      rw [← heq, String.toList_ofList, ← toLower_of_foreign hc]
      exact List.mem_map_of_mem hs
    have hclass := List.all_eq_true.mp h c hmem
    rw [hc] at hclass
    exact absurd hclass Bool.false_ne_true
  have hrest := mem_dropWhile_digits hc hs
  rw [Decimal.magnitude?]
  dsimp only
  rw [hword (by decide), hword (by decide), hword (by decide)]
  simp only [Bool.or_self, Bool.false_eq_true, if_false]
  split
  · next rest heq =>
    rw [heq] at hrest
    have hmem := (List.mem_cons.mp hrest).resolve_left (ne_of_foreign hc (by decide))
    rw [exponentPart?_of_foreign hc (mem_dropWhile_digits hc hmem)]
    exact ite_self _
  · rw [exponentPart?_of_foreign hc hrest]
    exact ite_self _

theorem float?_of_foreign : Decimal.float? s = none := by
  have htail {d : Char} {rest : List Char} (h : c ∈ d :: rest) (hd : isNumeralChar d = true) :
      Decimal.magnitude? rest = none :=
    magnitude?_of_foreign hc ((List.mem_cons.mp h).resolve_left (ne_of_foreign hc hd))
  unfold Decimal.float?
  split
  · rw [htail hs (by decide)]
    rfl
  · exact htail hs (by decide)
  · exact magnitude?_of_foreign hc hs

theorem parse?_of_foreign (hblank : isBlank c = false) : Number.parse? (String.ofList s) = none := by
  have hmem : c ∈ trim s := mem_trim hblank hs
  have hsigned : Decimal.signed? 64 (trim s) = none := by
    rw [Decimal.signed?, integer?_of_foreign hc hmem]
    rfl
  rw [Number.parse?, String.toList_ofList, hsigned, float?_of_foreign hc hmem, ite_self]
  rfl

end Foreign

structure Calculation where
  operator : Operator
  operand : List Char
  numeral : ∀ c ∈ operand, isNumeralChar c = true

namespace Calculation

def ofNat (op : Operator) (n : Nat) : Calculation where
  operator := op
  operand := Nat.toDigits 10 n
  numeral c hc := by
    have hdigit := Nat.isDigit_of_mem_toDigits (by decide) (by decide) hc
    exact isNumeralChar_of_isAlphanum (Bool.or_eq_true_iff.mpr (.inr hdigit))

/-- Applies an operator to the numbers that two texts are; without a result the first stays as it is. -/
def operate (op : Operator) (operand : List Char) (t : String) : String :=
  let result := do
    let a ← Number.parse? t
    let b ← Number.parse? (String.ofList operand)
    Number.combine? op a b
  (result.map Number.display).getD t

def step (t : String) (u : Calculation) : String := operate u.operator u.operand t

def inside (u : Calculation) : List Char := u.operator.sign :: u.operand

def call (inside : List Char) : List Char := "qcalc".toList ++ '(' :: (inside ++ [')'])

def print (u : Calculation) : List Char := call u.inside

def printAll (us : List Calculation) : List Char := bars (us.map print)

def chain (us : List Calculation) : String := String.ofList (printAll us)

theorem operate_of_foreign {op : Operator} {operand : List Char} {c : Char} (hc : c ∈ operand)
    (hforeign : isNumeralChar c = false) (hblank : isBlank c = false) (t : String) :
    operate op operand t = t := by
  have hnone : Number.parse? (String.ofList operand) = none := parse?_of_foreign hforeign hc hblank
  rw [operate, hnone]
  cases Number.parse? t <;> rfl

/-- The parenthesis that closes a call, whatever stands in it, is the one written behind it. -/
def Closes (inside t : List Char) : Prop := closingParen true (inside ++ ')' :: t) = some (inside, t)

theorem isNameChar_qcalc : ∀ c ∈ "qcalc".toList, isNameChar c = true := List.all_eq_true.mp (by decide)

theorem trimStart_call (inside t : List Char) :
    trimStart (call inside ++ t) = "qcalc".toList ++ '(' :: (inside ++ ')' :: t) := by
  have h : call inside ++ t = "qcalc".toList ++ '(' :: (inside ++ ')' :: t) := by simp [call]
  rw [h]
  exact trimStart_of_head (by simp [isBlank])

theorem trim_call (inside : List Char) : trim (call inside) = call inside := by
  refine trim_of_ends (by simp [call, isBlank]) ?_
  rw [call, ← List.cons_append, ← List.append_assoc]
  exact getLast_append (by simp) (by simp [isBlank])

theorem afterShape_call {inside t : List Char} (h : Closes inside t) :
    afterShape (call inside ++ t) = t := by
  have hparen : ∀ c ∈ ('(' :: (inside ++ ')' :: t)).head?, isNameChar c = false ∧ c ≠ '/' := by
    intro c hc
    obtain rfl : '(' = c := by simpa using hc
    decide
  rw [afterShape_of_name (trimStart_call inside t) isNameChar_qcalc hparen (by decide), afterName, h]
  rfl

theorem segments_call {inside : List Char} (h : Closes inside []) :
    segments (call inside) = [call inside] := by
  have hshape := afterShape_call h
  rw [List.append_nil] at hshape
  have hs : call inside ++ afterShape (call inside) = call inside := by rw [hshape, List.append_nil]
  refine segments_of_none ?_
  rw [atBoundary?_eq hs, hshape]
  rfl

theorem segments_call_pipe {inside rest : List Char} (h : Closes inside ('|' :: rest)) :
    segments (call inside ++ '|' :: rest) = call inside :: segments rest := by
  have hshape := afterShape_call h
  have hs : call inside ++ afterShape (call inside ++ '|' :: rest) = call inside ++ '|' :: rest := by
    rw [hshape]
  refine segments_of_some ?_
  rw [atBoundary?_eq hs, hshape]
  simp [cut]

theorem rawArguments_call {inside : List Char} (h : Closes inside []) :
    (Invocation.parse (String.ofList (call inside))).rawArguments = some (String.ofList inside) := by
  rw [Invocation.parse, String.toList_ofList]
  exact Invocation.rawArguments_call (trim_call inside) isNameChar_qcalc h

theorem name_call (inside : List Char) :
    (Invocation.parse (String.ofList (call inside))).name = "qcalc" := by
  rw [Invocation.parse, String.toList_ofList]
  exact (Invocation.ofChars_call (trim_call inside) isNameChar_qcalc).1

/-- Applies an operator to the numbers that the text of a value and another text are; without a result the value
stays as it is. -/
def operated (op : Operator) (operand : List Char) (v : Value) : Value :=
  let result := do
    let a ← Number.parse? v.display
    let b ← Number.parse? (String.ofList operand)
    Number.combine? op a b
  (result.map fun n => Value.text n.display).getD v

theorem operated_text (op : Operator) (operand : List Char) (t : String) :
    operated op operand (.text t) = .text (operate op operand t) := by
  have hdisplay : (Value.text t).display = t := rfl
  rw [operated, operate, hdisplay]
  cases (do
    let a ← Number.parse? t
    let b ← Number.parse? (String.ofList operand)
    Number.combine? op a b : Option Number) <;> rfl

theorem quickCalculate_eq {invocation : Tag.Invocation} {op : Operator} {operand : List Char}
    (hraw : invocation.rawArguments = some (String.ofList (op.sign :: operand)))
    (htrim : trim (op.sign :: operand) = op.sign :: operand) (v : Value) :
    Filter.quickCalculate v invocation = operated op operand v := by
  rw [Filter.quickCalculate, hraw, Option.getD_some, String.toList_ofList, htrim, operated]
  dsimp only
  rw [Operator.ofChar?_sign]
  simp only [Option.bind_eq_bind, Option.bind_some]
  cases (Number.parse? v.display).bind fun a =>
    (Number.parse? (String.ofList operand)).bind fun b => Number.combine? op a b <;> rfl

theorem isPlain_of_isNumeralChar {c : Char} (h : isNumeralChar c = true) : isPlain c = true :=
  decide_eq_true (not_mem_of_class h (by decide))

theorem isPlain_sign (op : Operator) : isPlain op.sign = true := by
  cases op <;> decide

theorem isBlank_sign (op : Operator) : isBlank op.sign = false := by
  cases op <;> decide

variable (u : Calculation)

theorem not_mem_operand {c : Char} (hc : isNumeralChar c = false) : c ∉ u.operand :=
  fun hmem => ne_of_class (u.numeral c hmem) hc rfl

theorem plain_operand : ∀ c ∈ u.operand, isPlain c = true :=
  fun c hc => isPlain_of_isNumeralChar (u.numeral c hc)

theorem trim_sign_append {op : Operator} {s : List Char} (h : ∀ c ∈ s.getLast?, isBlank c = false) :
    trim (op.sign :: s) = op.sign :: s := by
  rw [trim_cons (isBlank_sign op), trimEnd_of_last h]

theorem trim_inside : trim u.inside = u.inside :=
  trim_sign_append fun c hc => isBlank_of_isNumeralChar (u.numeral c (List.mem_of_getLast? hc))

theorem closes_sign {op : Operator} {operand : List Char} (h : op ≠ .div)
    (hoperand : ∀ c ∈ operand, isPlain c = true) (t : List Char) : Closes (op.sign :: operand) t := by
  have hplain : ∀ c ∈ op.sign :: operand, isPlain c = true :=
    List.forall_mem_cons.mpr ⟨isPlain_sign op, hoperand⟩
  have hstart : (trimStart (op.sign :: operand)).head? ≠ some '/' := by
    rw [trimStart_of_head (by simp [isBlank_sign])]
    cases op <;> simp_all [Operator.sign]
  obtain ⟨argStart, hclosing⟩ := closingParen_plain hplain hstart (')' :: t)
  rw [Closes, hclosing, closingParen_end]
  simp

theorem closes_of_ne (h : u.operator ≠ .div) (t : List Char) : Closes u.inside t :=
  closes_sign h u.plain_operand t

theorem closes_slash {operand t : List Char} (hplain : ∀ c ∈ operand, isPlain c = true)
    (hoperand : '/' ∉ operand) (ht : '/' ∉ t) : Closes ('/' :: operand) t := by
  have hnone : cut '/' false (operand ++ ')' :: t) = none := by
    refine cut_eq_none_iff.mpr fun before after heq => ?_
    have hmem : '/' ∈ operand ++ ')' :: t := by simp [heq]
    simp [hoperand, ht] at hmem
  have hleap : leap true '/' (operand ++ ')' :: t) = .step := by
    simp [leap, through?, hnone]
  rw [Closes, List.cons_append, closingParen, closing_of_step hleap (by decide) (by decide)]
  have hblank : isAsciiBlank '/' = false := by decide
  have hcomma : ('/' == ',') = false := by decide
  rw [hblank, hcomma, if_neg Bool.false_ne_true, ← closingParen,
    closingParen_plain_inside hplain, closingParen_end]
  simp

/-- A call is closed where no slash follows, and any call but a division wherever it stands. -/
theorem closes_last {t : List Char} (ht : '/' ∉ t) : Closes u.inside t := by
  by_cases h : u.operator = .div
  · rw [inside, h]
    exact closes_slash u.plain_operand (u.not_mem_operand (by decide)) ht
  · exact u.closes_of_ne h t

/-- A slash opens a literal that the next slash closes. -/
theorem closes_literal {s operand : List Char} (hs : Guarded '/' s)
    (hplain : ∀ c ∈ operand, isPlain c = true) (t : List Char) :
    Closes ('/' :: (s ++ '/' :: operand)) t := by
  have h := closingParen_literal hs hplain (')' :: t)
  rw [closingParen_end] at h
  simpa [Closes] using h

def throughDivision? : List Calculation → Option (List Calculation × List Calculation)
  | [] => none
  | u :: rest =>
    if u.operator = .div then some ([u], rest)
    else (throughDivision? rest).map fun (run, later) => (u :: run, later)

theorem throughDivision?_eq_some {us run later : List Calculation}
    (h : throughDivision? us = some (run, later)) :
    us = run ++ later ∧ ∃ mid w, run = mid ++ [w] ∧ w.operator = .div ∧ ∀ m ∈ mid, m.operator ≠ .div := by
  induction us generalizing run with
  | nil => simp [throughDivision?] at h
  | cons u us ih =>
    rw [throughDivision?] at h
    split at h
    · next hdiv =>
      obtain ⟨rfl, rfl⟩ := Prod.mk.inj (Option.some.inj h)
      exact ⟨rfl, [], u, rfl, hdiv, List.forall_mem_nil _⟩
    · next hdiv =>
      obtain ⟨⟨run', later'⟩, hrest, heq⟩ := Option.map_eq_some_iff.mp h
      obtain ⟨rfl, rfl⟩ := Prod.mk.inj heq
      obtain ⟨rfl, mid, w, rfl, hw, hmid⟩ := ih hrest
      exact ⟨rfl, u :: mid, w, rfl, hw, List.forall_mem_cons.mpr ⟨hdiv, hmid⟩⟩

theorem throughDivision?_eq_none {us : List Calculation} (h : throughDivision? us = none) :
    ∀ u ∈ us, u.operator ≠ .div := by
  induction us with
  | nil => exact List.forall_mem_nil _
  | cons u us ih =>
    rw [throughDivision?] at h
    split at h
    · simp at h
    · next hdiv => exact List.forall_mem_cons.mpr ⟨hdiv, ih (Option.map_eq_none_iff.mp h)⟩

/-- The calculations that are read as one call: those from a division to the next one, and each other one for
itself. -/
def groups : List Calculation → List (List Calculation)
  | [] => []
  | u :: rest =>
    match _h : if u.operator = .div then throughDivision? rest else none with
    | some (run, later) => (u :: run) :: groups later
    | none => [u] :: groups rest
termination_by us => us.length
decreasing_by
  · split at _h
    · obtain ⟨rfl, -⟩ := throughDivision?_eq_some _h
      rw [List.length_cons, List.length_append]
      omega
    · simp at _h
  · exact Nat.lt_succ_self _

/-- Of a group that is one calculation this one is carried out, of the others none. -/
def carriedOut : List Calculation → List Calculation
  | [u] => [u]
  | _ => []

def effective (us : List Calculation) : List Calculation := (groups us).flatMap carriedOut

theorem groups_of_none {u : Calculation} {rest : List Calculation}
    (h : u.operator ≠ .div ∨ throughDivision? rest = none) : groups (u :: rest) = [u] :: groups rest := by
  have hnone : (if u.operator = .div then throughDivision? rest else none) = none := by
    rcases h with hne | hnone
    · exact if_neg hne
    · rw [hnone, ite_self]
  rw [groups]
  split
  · next hsome => simp [hnone] at hsome
  · rfl

theorem groups_of_some {u : Calculation} {rest run later : List Calculation} (hu : u.operator = .div)
    (h : throughDivision? rest = some (run, later)) : groups (u :: rest) = (u :: run) :: groups later := by
  have hsome : (if u.operator = .div then throughDivision? rest else none) = some (run, later) := by
    rw [if_pos hu, h]
  rw [groups]
  split
  · next hsome' =>
    rw [hsome] at hsome'
    obtain ⟨rfl, rfl⟩ := Prod.mk.inj (Option.some.inj hsome')
    rfl
  · next hnone => simp [hsome] at hnone

/-- A group is one calculation, or goes from a division to the next one. -/
inductive IsGroup : List Calculation → Prop
  | single (u : Calculation) : IsGroup [u]
  | run {u w : Calculation} {mid : List Calculation} (hu : u.operator = .div) (hw : w.operator = .div)
      (hmid : ∀ m ∈ mid, m.operator ≠ .div) : IsGroup (u :: (mid ++ [w]))

theorem isGroup_of_mem {us g : List Calculation} (h : g ∈ groups us) : IsGroup g := by
  fun_induction groups us with
  | case1 => simp at h
  | case2 u rest run later hsome ih =>
    rcases List.mem_cons.mp h with rfl | hlater
    · split at hsome
      · next hu =>
        obtain ⟨-, mid, w, rfl, hw, hmid⟩ := throughDivision?_eq_some hsome
        exact .run hu hw hmid
      · simp at hsome
    · exact ih hlater
  | case3 u rest hnone ih =>
    rcases List.mem_cons.mp h with rfl | hrest
    · exact .single u
    · exact ih hrest

theorem throughDivision?_of_ne {us : List Calculation} (h : ∀ u ∈ us, u.operator ≠ .div) :
    throughDivision? us = none := by
  cases hsome : throughDivision? us with
  | none => rfl
  | some p =>
    obtain ⟨heq, mid, w, hrun, hw, -⟩ := throughDivision?_eq_some hsome
    exact absurd hw (h w (by simp [heq, hrun]))

/-- Where no division follows another one, all calculations are carried out. -/
theorem effective_eq_self {us : List Calculation}
    (h : us.Pairwise fun u v => u.operator = .div → v.operator ≠ .div) : effective us = us := by
  have hgroups : groups us = us.map fun u => [u] := by
    induction us with
    | nil => rw [groups]; rfl
    | cons u us ih =>
      obtain ⟨hu, hrest⟩ := List.pairwise_cons.mp h
      have hnone : u.operator ≠ .div ∨ throughDivision? us = none := by
        by_cases hdiv : u.operator = .div
        · exact .inr (throughDivision?_of_ne fun v hv => hu v hv hdiv)
        · exact .inl hdiv
      rw [groups_of_none hnone, ih hrest, List.map_cons]
  rw [effective, hgroups, List.flatMap_map]
  exact List.flatMap_singleton' us

theorem printAll_singleton (u : Calculation) : printAll [u] = call u.inside := bars_singleton _

theorem printAll_cons (u : Calculation) {us : List Calculation} (h : us ≠ []) :
    printAll (u :: us) = u.print ++ '|' :: printAll us := by
  rw [printAll, List.map_cons, bars_cons _ (by simpa using h)]
  rfl

theorem printAll_append {us vs : List Calculation} (hus : us ≠ []) (hvs : vs ≠ []) :
    printAll (us ++ vs) = printAll us ++ '|' :: printAll vs := by
  induction us with
  | nil => exact absurd rfl hus
  | cons u us ih =>
    by_cases hnil : us = []
    · rw [hnil, List.singleton_append, printAll_cons u hvs]
      simp [printAll]
    · rw [List.cons_append, printAll_cons u (by simp [hnil]), printAll_cons u hnil, ih hnil,
        List.append_assoc, List.cons_append]

theorem printAll_concat (us : List Calculation) (w : Calculation) :
    printAll (us ++ [w]) = us.flatMap (fun u => u.print ++ ['|']) ++ w.print := by
  induction us with
  | nil => simp [printAll]
  | cons u us ih =>
    rw [List.cons_append, printAll_cons u (by simp), ih]
    simp

theorem not_mem_print {u : Calculation} (h : u.operator ≠ .div) {c : Char} (hc : c = '/' ∨ c = '\\') :
    c ∉ u.print := by
  have hsign : c ≠ u.operator.sign := by
    rcases hc with rfl | rfl
    · cases hop : u.operator <;> simp_all [Operator.sign]
    · cases u.operator <;> decide
  have hoperand : c ∉ u.operand := u.not_mem_operand (by rcases hc with rfl | rfl <;> decide)
  have hframe : c ∉ "qcalc".toList ∧ c ≠ '(' ∧ c ≠ ')' := by
    rcases hc with rfl | rfl <;> decide
  simp only [print, call, inside, List.mem_append, List.mem_cons, List.not_mem_nil, or_false, not_or]
  exact ⟨hframe.1, hframe.2.1, ⟨hsign, hoperand⟩, hframe.2.2⟩

theorem not_mem_printAll {us : List Calculation} (h : ∀ u ∈ us, u.operator ≠ .div) : '/' ∉ printAll us := by
  induction us with
  | nil => simp [printAll, bars]
  | cons u us ih =>
    have hprint : '/' ∉ u.print := not_mem_print (h u (by simp)) (.inl rfl)
    by_cases hnil : us = []
    · rw [hnil, printAll_singleton]
      exact hprint
    · have hrest := ih fun v hv => h v (by simp [hv])
      rw [printAll_cons u hnil]
      simp [hprint, hrest]

def between (u : Calculation) (mid : List Calculation) : List Char :=
  u.operand ++ ')' :: '|' :: (mid.flatMap (fun m => m.print ++ ['|']) ++ "qcalc(".toList)

theorem guarded_between (u : Calculation) {mid : List Calculation} (hmid : ∀ m ∈ mid, m.operator ≠ .div) :
    Guarded '/' (between u mid) := by
  have hmem {c : Char} (hc : c = '/' ∨ c = '\\') : c ∉ between u mid := by
    have hoperand : c ∉ u.operand := u.not_mem_operand (by rcases hc with rfl | rfl <;> decide)
    have hparts : c ∉ mid.flatMap fun m => m.print ++ ['|'] := by
      rw [List.mem_flatMap]
      rintro ⟨m, hm, hc'⟩
      rcases List.mem_append.mp hc' with hprint | hbar
      · exact not_mem_print (hmid m hm) hc hprint
      · rcases hc with rfl | rfl <;> simp at hbar
    have hframe : c ≠ ')' ∧ c ≠ '|' ∧ c ∉ "qcalc(".toList := by
      rcases hc with rfl | rfl <;> decide
    simp only [between, List.mem_append, List.mem_cons, not_or]
    exact ⟨hoperand, hframe.1, hframe.2.1, hparts, hframe.2.2⟩
  exact guarded_of_not_mem (hmem (.inl rfl)) (hmem (.inr rfl))

theorem printAll_run {u w : Calculation} (mid : List Calculation) (hu : u.operator = .div)
    (hw : w.operator = .div) :
    printAll (u :: (mid ++ [w])) = call ('/' :: (between u mid ++ '/' :: w.operand)) := by
  rw [printAll_cons u (by simp), printAll_concat, print, print, inside, inside, hu, hw]
  simp [call, between, Operator.sign]

theorem closes_run (u w : Calculation) {mid : List Calculation} (hmid : ∀ m ∈ mid, m.operator ≠ .div)
    (t : List Char) : Closes ('/' :: (between u mid ++ '/' :: w.operand)) t :=
  closes_literal (guarded_between u hmid) w.plain_operand t

/-- A chain of calculations is split into the groups. -/
theorem segments_printAll {us : List Calculation} (hus : us ≠ []) :
    segments (printAll us) = (groups us).map printAll := by
  -- by the groups, since the call that is cut off first holds exactly the first of them
  fun_induction groups us with
  | case1 => exact absurd rfl hus
  | case2 u rest run later hsome ih =>
    split at hsome
    · next hu =>
      obtain ⟨rfl, mid, w, rfl, hw, hmid⟩ := throughDivision?_eq_some hsome
      have hprint := printAll_run mid hu hw
      by_cases hnil : later = []
      · rw [hnil, List.append_nil, hprint, segments_call (closes_run u w hmid []), groups, List.map_singleton,
          hprint]
      · rw [← List.cons_append, printAll_append (by simp) hnil, hprint,
          segments_call_pipe (closes_run u w hmid _), ih hnil, List.map_cons, hprint]
    · simp at hsome
  | case3 u rest hnone ih =>
    by_cases hnil : rest = []
    · rw [hnil, printAll_singleton, segments_call (u.closes_last (by simp)), groups, List.map_singleton,
        printAll_singleton]
    · have hcloses : Closes u.inside ('|' :: printAll rest) := by
        by_cases hu : u.operator = .div
        -- a division that begins no group is the last one, so that no slash stands behind it
        · rw [dif_pos hu] at hnone
          have hslash := not_mem_printAll (throughDivision?_eq_none hnone)
          exact u.closes_last (by simp [hslash])
        · exact u.closes_of_ne hu _
      rw [printAll_cons u hnil, print, segments_call_pipe hcloses, ih hnil, List.map_cons, printAll_singleton]

theorem trim_printAll {g : List Calculation} (h : IsGroup g) : trim (printAll g) = printAll g := by
  cases h with
  | single u =>
    rw [printAll_singleton]
    exact trim_call u.inside
  | run hu hw hmid =>
    rw [printAll_run _ hu hw]
    exact trim_call _

theorem filters_chain {us : List Calculation} (hus : us ≠ []) :
    filters (chain us) = (groups us).map chain := by
  rw [filters, chain, String.toList_ofList, segments_printAll hus, List.map_map]
  refine List.map_congr_left fun g hg => ?_
  exact congrArg String.ofList (trim_printAll (isGroup_of_mem hg))

theorem chain_ne_empty {g : List Calculation} (h : IsGroup g) : chain g ≠ "" := by
  intro heq
  have hchars := congrArg String.toList heq
  rw [chain, String.toList_ofList] at hchars
  cases h with
  | single u => simp [printAll, print, call] at hchars
  | run hu hw hmid => simp [printAll_run _ hu hw, call] at hchars

end Calculation

namespace Engine

open Calculation

variable {e : Engine} (hstock : e.LeavesStock "qcalc") (deeper : Unit → Level)
include hstock

theorem applyFilter_call {op : Operator} {operand : List Char} (hcloses : Closes (op.sign :: operand) [])
    (htrim : trim (op.sign :: operand) = op.sign :: operand) (v : Option Value) :
    e.applyFilter deeper v (String.ofList (call (op.sign :: operand))) = pure (v.map (operated op operand)) := by
  have hname : Unicode.lowercase (Invocation.parse (String.ofList (call (op.sign :: operand)))).name = "qcalc" := by
    rw [name_call]
    decide
  have hknown : Stock.ofName? "qcalc" = some .quickCalculate := by decide
  have hoperated : (v.map fun v => Filter.quickCalculate v
      (Invocation.parse (String.ofList (call (op.sign :: operand))))) = v.map (operated op operand) :=
    congrArg (Option.map · v) (funext (quickCalculate_eq (rawArguments_call hcloses) htrim))
  rw [applyFilter_of_leavesStock deeper hstock hname hknown, Stock.apply, hoperated]

theorem filterStep_call {op : Operator} {operand : List Char} (hcloses : Closes (op.sign :: operand) [])
    (htrim : trim (op.sign :: operand) = op.sign :: operand) (t : String) :
    e.filterStep deeper (some (.text t)) (String.ofList (call (op.sign :: operand))) =
      pure (some (.text (operate op operand t))) := by
  rw [filterStep, applyFilter_call hstock deeper hcloses htrim, pure_bind, Option.map_some, operated_text]
  exact settleOption_of_settled deeper (by simp [Settled])

/-- A division that takes the chain up to the next division for its operand leaves its input as it is. -/
theorem filterStep_group {g : List Calculation} (h : IsGroup g) (t : String) :
    e.filterStep deeper (some (.text t)) (chain g) =
      pure (some (.text ((carriedOut g).foldl step t))) := by
  cases h with
  | single u =>
    rw [chain, printAll_singleton]
    exact filterStep_call hstock deeper (u.closes_last (by simp)) u.trim_inside t
  | @run u w mid hu hw hmid =>
    have hcloses : Closes (Operator.div.sign :: (between u mid ++ '/' :: w.operand)) [] :=
      closes_run u w hmid []
    have htrim : trim (Operator.div.sign :: (between u mid ++ '/' :: w.operand)) =
        Operator.div.sign :: (between u mid ++ '/' :: w.operand) := by
      refine trim_sign_append (getLast_append (by simp) fun c hc => ?_)
      rcases List.mem_cons.mp hc with rfl | hc
      · decide
      · exact isBlank_of_isNumeralChar (w.numeral c hc)
    -- the operand reaches over the parenthesis of the first call, which is in no numeral
    have hparen : ')' ∈ between u mid ++ '/' :: w.operand := by simp [between]
    have hkept : operate .div (between u mid ++ '/' :: w.operand) t = t :=
      operate_of_foreign hparen (by decide) (by decide) t
    have hstep := filterStep_call hstock deeper hcloses htrim t
    rw [hkept] at hstep
    have hnone : carriedOut (u :: (mid ++ [w])) = [] := by cases mid <;> rfl
    rw [chain, printAll_run mid hu hw, hnone]
    exact hstep

theorem foldlM_groups {gs : List (List Calculation)} (hgs : ∀ g ∈ gs, IsGroup g) (t : String) :
    (gs.map chain).foldlM (e.filterStep deeper) (some (.text t)) =
      pure (some (.text ((gs.flatMap carriedOut).foldl step t))) := by
  induction gs generalizing t with
  | nil => rfl
  | cons g gs ih =>
    rw [List.map_cons, List.foldlM_cons, filterStep_group hstock deeper (hgs g (by simp)), pure_bind,
      ih fun g' hg' => hgs g' (by simp [hg'])]
    rw [List.flatMap_cons, List.foldl_append]

theorem evaluateChain_effective (r : Resolver) {us : List Calculation} (hus : us ≠ []) (t : String) :
    e.evaluateChain r (chain us) (some (.text t)) = pure (some (.text ((effective us).foldl step t))) := by
  have htexts : ∀ s ∈ (groups us).map chain, s ≠ "" := by
    intro s hs
    obtain ⟨g, hg, rfl⟩ := List.mem_map.mp hs
    exact chain_ne_empty (isGroup_of_mem hg)
  rw [evaluateChain_of_settled (by simp [Settled]),
    applyChain_of_filters e _ (Calculation.filters_chain hus) htexts,
    foldlM_groups hstock _ (fun g => isGroup_of_mem) t]
  rfl

/-- A chain of calculations is the fold of those that are carried out. These are all of them, unless a division
follows another one. -/
theorem evaluateChain_calculations (r : Resolver) {us : List Calculation} (hus : us ≠ []) (t : String) :
    e.evaluateChain r (chain us) (some (.text t)) =
      pure (some (.text ((effective us).foldl step t))) ∧
    ((us.Pairwise fun u v => u.operator = .div → v.operator ≠ .div) → effective us = us) :=
  ⟨evaluateChain_effective hstock r hus t, effective_eq_self⟩

omit hstock

/-- One division and a sum. -/
theorem evaluateChain_calculations_quotient :
    standard.LeavesStock "qcalc" ∧ chain [ofNat .div 4, ofNat .add 3] = "qcalc(/4)|qcalc(+3)" ∧
    standard.evaluateChain silent "qcalc(/4)|qcalc(+3)" (some (.text "30")) =
      pure (some (.text "10")) := by
  have hstock : standard.LeavesStock "qcalc" := ⟨by decide, by decide⟩
  have htext : chain [ofNat .div 4, ofNat .add 3] = "qcalc(/4)|qcalc(+3)" := by decide +kernel
  have hfold : [ofNat .div 4, ofNat .add 3].foldl step "30" = "10" := by decide +kernel
  have hne : [ofNat .div 4, ofNat .add 3] ≠ [] := by simp
  obtain ⟨hchain, hall⟩ := evaluateChain_calculations hstock silent hne "30"
  have heffective := hall (by simp [ofNat])
  rw [heffective, hfold, htext] at hchain
  exact ⟨hstock, htext, hchain⟩

/-- Two divisions, of which none is carried out. -/
theorem evaluateChain_two_divisions :
    chain [ofNat .div 2, ofNat .div 5] = "qcalc(/2)|qcalc(/5)" ∧
    standard.evaluateChain silent "qcalc(/2)|qcalc(/5)" (some (.text "100")) =
      pure (some (.text "100")) ∧
    [ofNat .div 2, ofNat .div 5].foldl step "100" = "10" := by
  have hstock : standard.LeavesStock "qcalc" := ⟨by decide, by decide⟩
  have htext : chain [ofNat .div 2, ofNat .div 5] = "qcalc(/2)|qcalc(/5)" := by decide +kernel
  have hnone : effective [ofNat .div 2, ofNat .div 5] = [] := by
    have hthrough : throughDivision? [ofNat .div 5] = some ([ofNat .div 5], []) := rfl
    rw [effective, groups_of_some rfl hthrough, groups]
    rfl
  have hchain := evaluateChain_effective hstock silent (List.cons_ne_nil (ofNat .div 2) [ofNat .div 5]) "100"
  rw [hnone, htext] at hchain
  exact ⟨htext, hchain, by decide +kernel⟩

end Engine

end Stencil
