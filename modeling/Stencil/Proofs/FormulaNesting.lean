import Stencil.Proofs.FormulaReading

/-!
# The nesting of formulas

The bound on nesting is met exactly: a formula that nests deeper is refused, however it is spelled.
-/
namespace Stencil.Arithmetic

open Stencil.Text

def Refuses (reader : Reader) (tokens rest : List Token) : Prop :=
  ∀ s, Spells (tokens ++ rest) s → reader s = none

theorem Refuses.leftward {ops : List Operator} {operand : Reader} {tokens rest : List Token}
    (h : Refuses operand tokens rest) : Refuses (Arithmetic.leftward ops operand) tokens rest := by
  intro s hs
  rw [Arithmetic.leftward, h s hs]
  rfl

/-- Operands are refused where one of them is, the first or a later one. -/
theorem Begins.refuses {ops : List Operator} {operand : Reader} {tokens more rest : List Token} {e : Expr}
    {op : Operator} (h : Begins ops operand tokens e (.operator op :: (more ++ rest))) (hop : op ∈ ops)
    (hmore : Refuses operand more rest) :
    Refuses (leftward ops operand) (tokens ++ .operator op :: more) rest := by
  intro s hs
  rw [List.append_assoc, List.cons_append] at hs
  obtain ⟨s₁, steps, hs₁, -, hsteps, hread⟩ := h s hs
  obtain ⟨s₂, hs₂, hlen₂, hoperator⟩ := operator?_operator hs₁
  cases steps with
  | zero => omega
  | succ steps =>
    rw [hread, operations, hoperator, if_pos hop]
    dsimp only
    rw [hmore s₂ hs₂]
    rfl

/-- The tokens are refused wherever there is no room for their nesting. -/
def RefusedAt : Rank → List Token → Nat → Prop
  | .atom, tokens, nesting =>
    (∃ token ∈ tokens.head?, ∀ op, token ≠ .operator op) ∧
      ∀ depth rest, depth + 2 < nesting → Stops .atom rest → Refuses (atom (sums (power depth))) tokens rest
  | .signed, tokens, nesting =>
    ∀ depth rest, depth + 1 < nesting → Stops .signed rest → Refuses (signed depth) tokens rest
  | .power, tokens, nesting =>
    ∀ depth rest, depth < nesting → Stops .power rest → Refuses (power depth) tokens rest
  | .product, tokens, nesting =>
    ∀ depth rest, depth < nesting → Stops .power rest →
      Refuses (leftward [.mul, .div, .rem] (power depth)) tokens rest
  | .sum, tokens, nesting =>
    ∀ depth rest, depth < nesting → Stops .product rest → Refuses (sums (power depth)) tokens rest

namespace RefusedAt

variable {tokens more : List Token} {e e' : Expr} {nesting nesting' : Nat}

theorem of_atom (h : RefusedAt .atom tokens nesting) : RefusedAt .signed tokens nesting := by
  intro depth rest hdepth hstops s hs
  obtain ⟨⟨token, htoken, hno⟩, hrefused⟩ := h
  cases depth with
  | zero => rw [signed]
  | succ depth =>
    rw [signed, operator?_eq_none_of_head htoken hno hs]
    exact hrefused depth rest (by omega) (hstops.mono (by decide)) s hs

theorem of_signed (h : RefusedAt .signed tokens nesting) : RefusedAt .power tokens nesting := by
  intro depth rest hdepth hstops s hs
  cases depth with
  | zero => rw [power]
  | succ depth =>
    rw [power, h depth rest hdepth (hstops.mono (by decide)) s hs]
    rfl

theorem of_power (h : RefusedAt .power tokens nesting) : RefusedAt .product tokens nesting :=
  fun depth rest hdepth hstops => (h depth rest hdepth hstops).leftward

theorem of_product (h : RefusedAt .product tokens nesting) : RefusedAt .sum tokens nesting :=
  fun depth rest hdepth hstops => (h depth rest hdepth (hstops.mono (by decide))).leftward

theorem loosen {own : Rank} (h : RefusedAt own tokens nesting) : RefusedAt own.looser tokens nesting := by
  cases own with
  | sum => exact h
  | product => exact h.of_product
  | power => exact h.of_power
  | signed => exact h.of_signed
  | atom => exact h.of_atom

theorem descend {own place : Rank} (h : RefusedAt own tokens nesting) (hlevel : place.level ≤ own.level) :
    RefusedAt place tokens nesting :=
  Rank.descend (P := fun rank => RefusedAt rank tokens nesting) (fun _ hrank => hrank.loosen) h hlevel

theorem parentheses (h : RefusedAt .sum tokens nesting) :
    RefusedAt .atom (.opening :: (tokens ++ [.closing])) (nesting + 2) := by
  refine ⟨⟨.opening, rfl, fun _ => Token.noConfusion⟩, fun depth rest hdepth _ s hs => ?_⟩
  rw [List.cons_append, List.append_assoc, List.singleton_append] at hs
  obtain ⟨text, s₁, htext, hs₁, -, hskip⟩ := hs.skipBlanks_cons
  cases htext with
  | opening =>
    rw [atom, hskip]
    dsimp only [List.cons_append, List.nil_append]
    rw [if_pos rfl, h depth (.closing :: rest) (by omega) (stops_closing _ rest) s₁ hs₁]
    rfl

theorem sign (negative : Bool) (h : RefusedAt .signed tokens nesting) :
    RefusedAt .signed (.operator (if negative then .sub else .add) :: tokens) (nesting + 1) := by
  intro depth rest hdepth hstops s hs
  obtain ⟨s₁, hs₁, -, hoperator⟩ := operator?_operator hs
  cases depth with
  | zero => rw [signed]
  | succ depth =>
    have hrefused := h depth rest (by omega) hstops s₁ hs₁
    rw [signed, hoperator]
    cases negative <;> simp [hrefused]

theorem power (hread : ReadAt .signed tokens e nesting) (h : RefusedAt .signed tokens nesting)
    (h' : RefusedAt .power more nesting') :
    RefusedAt .power (tokens ++ .operator .pow :: more) (max nesting (nesting' + 1)) := by
  intro depth rest hdepth hstops s hs
  rw [List.append_assoc, List.cons_append] at hs
  have hpow : Stops .signed (.operator .pow :: (more ++ rest)) := stops_operator (by decide) _
  cases depth with
  | zero => rw [Arithmetic.power]
  | succ depth =>
    by_cases hbase : depth + 1 < nesting
    · rw [Arithmetic.power, h depth _ hbase hpow s hs]
      rfl
    · obtain ⟨s₁, hs₁, -, hsome⟩ := hread depth _ (by omega) hpow s hs
      obtain ⟨s₂, hs₂, -, hoperator⟩ := operator?_operator hs₁
      rw [Arithmetic.power, hsome, Option.bind_some]
      dsimp only
      rw [hoperator, if_pos (by decide)]
      dsimp only
      rw [h' depth rest (by omega) hstops s₂ hs₂]
      rfl

theorem product {op : Operator} (hop : op ∈ [Operator.mul, .div, .rem]) (hread : ReadAt .product tokens e nesting)
    (h : RefusedAt .product tokens nesting) (h' : RefusedAt .power more nesting') :
    RefusedAt .product (tokens ++ .operator op :: more) (max nesting nesting') := by
  intro depth rest hdepth hstops
  have hoperator := stops_operator (level_multiplicative hop) (more ++ rest)
  -- there is no room for the first operands, or they are read and there is none for the last one
  by_cases hfirst : depth < nesting
  · intro s hs
    rw [List.append_assoc, List.cons_append] at hs
    exact h depth _ hfirst hoperator s hs
  · exact (hread depth _ (by omega) hoperator).refuses hop (h' depth rest (by omega) hstops)

theorem sum {op : Operator} (hop : op ∈ [Operator.add, .sub]) (hread : ReadAt .sum tokens e nesting)
    (h : RefusedAt .sum tokens nesting) (h' : RefusedAt .product more nesting') :
    RefusedAt .sum (tokens ++ .operator op :: more) (max nesting nesting') := by
  intro depth rest hdepth hstops
  have hoperator := stops_operator (level_additive hop) (more ++ rest)
  by_cases hfirst : depth < nesting
  · intro s hs
    rw [List.append_assoc, List.cons_append] at hs
    exact h depth _ hfirst hoperator s hs
  · have hmore := h' depth rest (by omega) (hstops.mono (by decide))
    exact (hread depth _ (by omega) hoperator).refuses hop hmore

theorem enclosed {own : Rank} (h : RefusedAt own tokens nesting) (place : Rank) :
    RefusedAt place (enclose place own tokens) (nestingIn place own nesting) := by
  rw [enclose, nestingIn]
  split
  · have hsum : RefusedAt .sum tokens nesting := h.descend (Nat.zero_le _)
    exact hsum.parentheses.descend (Rank.level_le_atom place)
  · exact h.descend (by omega)

end RefusedAt

namespace Formula

theorem refusedAt (e : Formula) : RefusedAt e.rank e.tokens e.nesting := by
  induction e with
  | literal l =>
    exact ⟨⟨.literal l, rfl, fun _ => Token.noConfusion⟩, fun _ _ hdepth => absurd hdepth (by simp [nesting])⟩
  | var v =>
    exact ⟨⟨.var v, rfl, fun _ => Token.noConfusion⟩, fun _ _ hdepth => absurd hdepth (by simp [nesting])⟩
  | sign negative e ih => exact .sign negative (ih.enclosed .signed)
  | binary op left right ihleft ihright =>
    have hread := left.readAt.enclosed left.two_le_nesting (.left op)
    have hleft := ihleft.enclosed (.left op)
    have hright := ihright.enclosed (.right op)
    cases op with
    | add | sub => exact .sum (by simp) hread hleft hright
    | mul | div | rem => exact .product (by simp) hread hleft hright
    | pow => exact .power hread hleft hright

/-- A text that spells a formula is read exactly if its nesting is within the bound. -/
theorem parse?_spelled_eq_some_iff {e : Formula} {text : String} (h : Spells e.tokens text.toList) :
    parse? text = some e.expr ↔ e.nesting ≤ maxNesting := by
  refine ⟨fun hsome => ?_, parse?_spelled h⟩
  by_contra hdeep
  have hrefused : RefusedAt .sum e.tokens e.nesting := e.refusedAt.descend (Nat.zero_le _)
  rw [← List.append_nil e.tokens] at h
  have hnone := hrefused maxNesting [] (by omega) (by simp [Stops]) text.toList h
  rw [parse?, hnone] at hsome
  exact absurd hsome (by simp)

end Formula

end Stencil.Arithmetic
