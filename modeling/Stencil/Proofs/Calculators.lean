import Stencil.Proofs.Calculation
import Stencil.Proofs.FormulaReading
import Stencil.Proofs.QuotedArguments

/-!
# The two calculators

A quick calculation, and the formula that applies the same operator to the input and to the same text of digits. The
reader of formulas takes the digits up to the end, so that both read the same numeral or none at all. Where they have
no result, both leave the value as it is.
-/
namespace Stencil

open Stencil.Text Stencil.Tag

/-- An operator with any blanks around it, and digits and points behind it, which need not be a numeral. -/
structure Operation where
  operator : Operator
  before : List Char
  before_blank : ∀ c ∈ before, isAsciiBlank c = true
  after : List Char
  after_blank : ∀ c ∈ after, isAsciiBlank c = true
  digits : List Char
  nonempty : digits ≠ []
  valid : ∀ c ∈ digits, Arithmetic.isLiteralChar c = true

namespace Operation

variable (u : Operation)

def operand : List Char := u.after ++ u.digits

def inside : List Char := u.operator.sign :: u.operand

def formula : List Char := 'x' :: (u.before ++ u.inside)

def quick : String := String.ofList (Calculation.call u.inside)

def quoted : String := quotedCall "calc" [String.ofList u.formula]

def number? : Option Number := Number.parse? (String.ofList u.digits)

/-- What the operation makes of a value; a value without a result stays as it is. -/
def result : Value → Value := Calculation.operated u.operator u.digits

theorem isNumeralChar_of_mem {c : Char} (hc : c ∈ u.digits) : isNumeralChar c = true := by
  have hvalid := u.valid c hc
  rw [Arithmetic.isLiteralChar, Bool.or_eq_true, beq_iff_eq] at hvalid
  rcases hvalid with hdigit | rfl
  · exact isNumeralChar_of_isAlphanum (Bool.or_eq_true_iff.mpr (.inr hdigit))
  · decide

theorem isBlank_of_mem {c : Char} (hc : c ∈ u.digits) : isBlank c = false :=
  isBlank_of_isNumeralChar (u.isNumeralChar_of_mem hc)

theorem isPlain_of_mem_operand {c : Char} (hc : c ∈ u.operand) : isPlain c = true := by
  rcases List.mem_append.mp hc with hblank | hdigit
  · exact isPlain_of_isBlank (isBlank_of_isAsciiBlank (u.after_blank c hblank))
  · exact Calculation.isPlain_of_isNumeralChar (u.isNumeralChar_of_mem hdigit)

theorem isPlain_of_mem_formula {c : Char} (hc : c ∈ u.formula) : isPlain c = true := by
  simp only [formula, inside, List.mem_cons, List.mem_append] at hc
  rcases hc with rfl | hblank | rfl | hoperand
  · decide
  · exact isPlain_of_isBlank (isBlank_of_isAsciiBlank (u.before_blank c hblank))
  · exact Calculation.isPlain_sign u.operator
  · exact u.isPlain_of_mem_operand hoperand

theorem slash_not_mem_operand : '/' ∉ u.operand := by
  intro hslash
  rcases List.mem_append.mp hslash with hblank | hdigit
  · exact absurd (u.after_blank '/' hblank) (by decide)
  · exact absurd (u.valid '/' hdigit) (by decide)

theorem trim_inside : trim u.inside = u.inside :=
  Calculation.trim_sign_append (getLast_append u.nonempty fun _ hc => u.isBlank_of_mem hc)

theorem closes_inside : Calculation.Closes u.inside [] := by
  have hplain : ∀ c ∈ u.operand, isPlain c = true := fun c hc => u.isPlain_of_mem_operand hc
  by_cases h : u.operator = .div
  · rw [inside, h]
    exact Calculation.closes_slash hplain u.slash_not_mem_operand (by simp)
  · exact Calculation.closes_sign h hplain []

theorem parse?_operand : Number.parse? (String.ofList u.operand) = u.number? := by
  have htrim : trim u.operand = trim u.digits := by
    have hblank : ∀ c ∈ u.after, isBlank c = true := fun c hc => isBlank_of_isAsciiBlank (u.after_blank c hc)
    rw [trim, trim, trimStart, operand, List.dropWhile_append_of_pos hblank]
    rfl
  rw [number?, Number.parse?, Number.parse?, String.toList_ofList, String.toList_ofList, htrim]

theorem operated_operand : Calculation.operated u.operator u.operand = u.result := by
  funext v
  rw [result, Calculation.operated, Calculation.operated, u.parse?_operand, number?]

end Operation

namespace Arithmetic

theorem operations_nil (ops : List Operator) (reader : Reader) (steps : Nat) (e : Expr) :
    operations ops reader steps e [] = some (e, []) := by
  cases steps <;> rfl

section Leftward

variable {ops : List Operator} {reader : Reader} {s t t' : List Char} {e : Expr} {n : Option Number}
  {f : Number → Expr}

theorem leftward_end (h : reader s = n.map fun n => (f n, [])) :
    leftward ops reader s = n.map fun n => (f n, []) := by
  rw [leftward, h]
  cases n with
  | none => rfl
  | some n => exact operations_nil ops reader 0 (f n)

theorem leftward_stop (h : reader s = some (e, t)) (hnone : operator? ops t = none) :
    leftward ops reader s = some (e, t) := by
  rw [leftward, h, Option.bind_some]
  cases t with
  | nil => exact operations_nil ops reader _ e
  | cons c t =>
    dsimp only [List.length_cons]
    rw [operations, hnone]

theorem leftward_operator {op : Operator} (h : reader s = some (e, t)) (hop : operator? ops t = some (op, t'))
    (hoperand : reader t' = n.map fun n => (f n, [])) :
    leftward ops reader s = n.map fun n => (.binary op e (f n), []) := by
  rw [leftward, h, Option.bind_some]
  cases t with
  | nil => cases hop
  | cons c t =>
    dsimp only [List.length_cons]
    rw [operations, hop]
    dsimp only
    rw [hoperand]
    cases n with
    | none => rfl
    | some n => exact operations_nil ops reader _ _

end Leftward

variable (u : Operation) (depth : Nat)

def ReadsDigits (reader : Reader) : Prop := reader u.operand = u.number?.map fun n => (.number n, [])

theorem skipBlanks_operand : skipBlanks u.operand = u.digits := by
  rw [skipBlanks, Operation.operand, List.dropWhile_append_of_pos u.after_blank]
  refine List.dropWhile_eq_self_iff.mpr fun hlen => ?_
  have hvalid := u.valid _ (List.getElem_mem hlen)
  simpa using isAsciiBlank_of_class hvalid (by decide)

theorem operator?_operand (ops : List Operator) : operator? ops u.operand = none := by
  obtain ⟨c, rest, hdigits⟩ := List.exists_cons_of_ne_nil u.nonempty
  have hvalid := u.valid c (by simp [hdigits])
  exact operator?_of_ne ((skipBlanks_operand u).trans hdigits) (sign_ne_of_class hvalid (by decide)) ops

theorem readsDigits_atom (inner : Reader) : ReadsDigits u (atom inner) := by
  have hskip : skipBlanks u.operand = u.digits ++ [] := by rw [skipBlanks_operand, List.append_nil]
  exact atom_literal hskip u.nonempty u.valid (by simp)

theorem readsDigits_signed : ReadsDigits u (signed (depth + 1)) := by
  rw [ReadsDigits, signed, operator?_operand]
  exact readsDigits_atom u _

theorem readsDigits_power : ReadsDigits u (power (depth + 2)) := by
  rw [ReadsDigits, power, readsDigits_signed]
  cases u.number? <;> rfl

theorem operator?_sign (ops : List Operator) :
    operator? ops (u.before ++ u.inside) = if u.operator ∈ ops then some (u.operator, u.operand) else none := by
  have hskip : skipBlanks (u.before ++ u.inside) = u.operator.sign :: u.operand := by
    rw [skipBlanks, List.dropWhile_append_of_pos u.before_blank]
    exact List.dropWhile_cons_of_neg (by simp [isAsciiBlank_sign])
  exact operator?_of_sign hskip ops

theorem head_behind_input : ∀ c ∈ (u.before ++ u.inside).head?, isNameChar c = false := by
  intro c hc
  cases hbefore : u.before with
  | nil =>
    obtain rfl : u.operator.sign = c := by simpa [hbefore, Operation.inside] using hc
    cases u.operator <;> decide
  | cons d rest =>
    obtain rfl : d = c := by simpa [hbefore] using hc
    have hblank := u.before_blank d (by simp [hbefore])
    refine Bool.eq_false_iff.mpr fun hname => ?_
    rw [isAsciiBlank_of_class hname (by decide)] at hblank
    exact absurd hblank (by decide)

theorem signed_formula : signed (depth + 1) u.formula = some (.input, u.before ++ u.inside) := by
  have hskip : skipBlanks u.formula = ['x'] ++ (u.before ++ u.inside) := List.dropWhile_cons_of_neg (by decide)
  have hstart : isNameStart 'x' = true := by decide
  have hnone : operator? [.add, .sub] u.formula = none :=
    operator?_of_ne hskip (sign_ne_of_class hstart (by decide)) _
  rw [signed, hnone]
  exact atom_name hskip hstart (List.forall_mem_nil _) (head_behind_input u) _

theorem power_formula : power (depth + 3) u.formula =
    if u.operator = .pow then u.number?.map fun n => (.binary .pow .input (.number n), [])
    else some (.input, u.before ++ u.inside) := by
  rw [power, signed_formula, Option.bind_some]
  dsimp only
  rw [operator?_sign]
  by_cases hpow : u.operator = .pow
  · have hdigits := readsDigits_power u depth
    rw [ReadsDigits] at hdigits
    rw [if_pos (by simp [hpow]), if_pos hpow]
    dsimp only
    rw [hdigits, hpow, Option.map_map]
    rfl
  · rw [if_neg (by simp [hpow]), if_neg hpow]

/-- Each operator is met by the reader for its rank. -/
theorem sums_formula : sums (power (depth + 3)) u.formula =
    u.number?.map fun n => (.binary u.operator .input (.number n), []) := by
  have hdigits : ReadsDigits u (power (depth + 3)) := readsDigits_power u (depth + 1)
  have hproduct : ReadsDigits u (leftward [.mul, .div, .rem] (power (depth + 3))) := leftward_end hdigits
  have hpower := power_formula u depth
  have hsign := operator?_sign u
  cases hop : u.operator with
  | pow =>
    rw [if_pos hop] at hpower
    exact leftward_end (leftward_end hpower)
  | mul | div | rem =>
    rw [if_neg (by simp [hop])] at hpower
    refine leftward_end (leftward_operator hpower ?_ hdigits)
    rw [hsign, hop]
    rfl
  | add | sub =>
    rw [if_neg (by simp [hop])] at hpower
    have hnone : operator? [.mul, .div, .rem] (u.before ++ u.inside) = none := by
      rw [hsign, hop]
      rfl
    have hinput := leftward_stop hpower hnone
    refine leftward_operator hinput ?_ hproduct
    rw [hsign, hop]
    rfl

theorem parse?_formula :
    parse? (String.ofList u.formula) = u.number?.map fun n => .binary u.operator .input (.number n) := by
  rw [parse?, String.toList_ofList, maxNesting, sums_formula u 253]
  cases u.number? <;> rfl

/-- The formula has a value where the digits are a numeral and the operator has a result. -/
theorem evaluate?_formula (x : Number) (values : List (Option Number)) :
    evaluate? (String.ofList u.formula) x values = u.number?.bind (Number.combine? u.operator x) := by
  rw [evaluate?, parse?_formula]
  cases u.number? <;> rfl

end Arithmetic

namespace Operation

variable (u : Operation)

def written : Grammar.Filter :=
  .call ⟨"calc".toList, by decide, List.all_eq_true.mp (by decide)⟩ (by decide)
    [.quoted ⟨u.formula, fun _ hc =>
      ⟨isPlain_ne (u.isPlain_of_mem_formula hc) (by simp), isPlain_ne (u.isPlain_of_mem_formula hc) (by simp)⟩⟩]

theorem written_text : u.written.text = u.quoted := by
  have hquotes : ∀ c ∈ u.formula, (c == '"') = false := fun c hc => by
    simpa using isPlain_ne (u.isPlain_of_mem_formula hc) (show '"' ∈ _ by simp)
  have hchars : (String.ofList u.formula).toList = u.formula := String.toList_ofList
  rw [quoted, quotedCall, List.map_singleton, quoteArgument, escapeQuotes, hchars, escapeMarks_of_not_mem hquotes]
  rfl

theorem parse_quoted : (Invocation.parse u.quoted).name = "calc" ∧
    (Invocation.parse u.quoted).callArguments = [String.ofList u.formula] := by
  have hname : ∀ c ∈ "calc".toList, isNameChar c = true := List.all_eq_true.mp (by decide)
  have hbackslash : ∀ s ∈ [String.ofList u.formula], '\\' ∉ s.toList := by
    rw [List.forall_mem_singleton, String.toList_ofList]
    exact fun hmem => isPlain_ne (u.isPlain_of_mem_formula hmem) (by simp) rfl
  obtain ⟨hn, ha⟩ := Invocation.ofChars_call (trim_quotedCall hname [String.ofList u.formula]) hname
  exact ⟨hn.trans String.ofList_toList, ha.trans (callArguments_quoted hbackslash (by simp) (by simp [maxArguments]))⟩

/-- Without a result there is a notice, and the value stays as it is. -/
theorem outcome_calculate {call : Invocation} (h : call.callArguments = [String.ofList u.formula])
    (settle : Value → Run Value) (v : Value) :
    (Filter.calculate settle v call).outcome = .ok (u.result v) := by
  unfold Filter.calculate
  rw [h, result, Calculation.operated, ← number?]
  dsimp only [Filter.formatAndRest]
  rw [List.mapM_nil, pure_bind]
  cases Number.parse? v.display with
  | none => rfl
  | some x =>
    dsimp only
    rw [Arithmetic.evaluate?_formula]
    simp only [Option.bind_eq_bind, Option.bind_some]
    cases u.number?.bind (Number.combine? u.operator x) <;> rfl

end Operation

namespace Engine

variable {e : Engine} (r : Resolver) (deeper : Unit → Level) (u : Operation)

theorem applyFilter_quick (h : e.LeavesStock "qcalc") (v : Option Value) :
    e.applyFilter deeper v u.quick = pure (v.map u.result) := by
  rw [← u.operated_operand]
  exact applyFilter_call h deeper u.closes_inside u.trim_inside v

theorem outcome_applyFilter_quoted (h : e.LeavesStock "calc") (v : Option Value) :
    (e.applyFilter deeper v u.quoted).outcome = .ok (v.map u.result) := by
  obtain ⟨hcall, harguments⟩ := u.parse_quoted
  have hname : Unicode.lowercase (Invocation.parse u.quoted).name = "calc" := by
    rw [hcall]
    decide
  have hknown : Stock.ofName? "calc" = some .calculate := by decide
  rw [applyFilter_of_leavesStock deeper h hname hknown, Stock.apply]
  cases v with
  | none => rfl
  | some v =>
    rw [Option.mapM_some, map_eq_pure_bind, Run.outcome_bind, u.outcome_calculate harguments]
    rfl

theorem filters_quick : filters u.quick = [u.quick] := by
  rw [filters, Operation.quick, String.toList_ofList, Calculation.segments_call u.closes_inside, List.map_singleton,
    Calculation.trim_call]

theorem quick_ne_empty : u.quick ≠ "" := by
  intro h
  have hchars := congrArg String.toList h
  simp [Operation.quick, Calculation.call] at hchars

/-- The two calculators agree: on every input, for every operator, and whether or not the digits are a numeral. -/
theorem evaluateChain_quoted_eq_quick (hquick : e.LeavesStock "qcalc") (hquoted : e.LeavesStock "calc")
    (v : Option Value) :
    (e.evaluateChain r u.quoted v).outcome = (e.evaluateChain r u.quick v).outcome ∧
    e.evaluateChain r u.quick v = settleOption (e.deeper r) (v.map u.result) := by
  have hvalue : e.evaluateChain r u.quick v = settleOption (e.deeper r) (v.map u.result) := by
    rw [evaluateChain_single e r (filters_quick u) (quick_ne_empty u), filterStep, applyFilter_quick _ u hquick,
      pure_bind]
  refine ⟨?_, hvalue⟩
  rw [hvalue, ← u.written_text, evaluateChain_text, u.written_text, filterStep, Run.outcome_bind,
    outcome_applyFilter_quoted _ u hquoted]
  rfl

/-- A half with blanks around the slash. -/
theorem evaluateChain_quoted_eq_quick_half :
    standard.LeavesStock "qcalc" ∧ standard.LeavesStock "calc" ∧
    (standard.evaluateChain silent "calc(\"x / 2\")" (some (.text "7"))).outcome =
      (standard.evaluateChain silent "qcalc(/ 2)" (some (.text "7"))).outcome ∧
    standard.evaluateChain silent "qcalc(/ 2)" (some (.text "7")) = pure (some (.text "3")) := by
  have hleaves (name : String) : standard.LeavesStock name := ⟨rfl, rfl⟩
  let half : Operation :=
    ⟨.div, [' '], List.all_eq_true.mp (by decide), [' '], List.all_eq_true.mp (by decide), ['2'], by simp,
      List.all_eq_true.mp (by decide)⟩
  have hquoted : half.quoted = "calc(\"x / 2\")" := by decide
  have hquick : half.quick = "qcalc(/ 2)" := by decide
  have hresult : half.result (.text "7") = .text "3" := by
    rw [Operation.result, Calculation.operated_text]
    exact congrArg Value.text (by decide +kernel)
  have h := evaluateChain_quoted_eq_quick silent half (hleaves _) (hleaves _) (some (.text "7"))
  rw [hquoted, hquick, Option.map_some, hresult] at h
  exact ⟨hleaves _, hleaves _, h⟩

end Engine

end Stencil
