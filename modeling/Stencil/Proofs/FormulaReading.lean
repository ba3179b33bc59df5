import Stencil.Proofs.Formula
import Stencil.Proofs.Trimming

/-!
# Reading formulas

A text that spells the tokens of a formula, with any blanks between them, is read as that formula, and so it has
its value. Each rank has its reader; what a reader of one rank takes in, that of a looser rank takes in too.
-/
namespace Stencil.Arithmetic

open Stencil.Text

inductive Token.Spelled : Token → List Char → Prop where
  | literal (l : Literal) : Spelled (.literal l) l.chars
  | dollar (v : Variable) : Spelled (.var v) ('$' :: v.chars)
  | plain {v : Variable} {c : Char} {rest : List Char} (h : v.chars = c :: rest)
      (start : isNameStart c = true) : Spelled (.var v) v.chars
  | operator (op : Operator) : Spelled (.operator op) [op.sign]
  | opening : Spelled .opening ['(']
  | closing : Spelled .closing [')']

/-- A text is made of some tokens and any ASCII blanks before, between and after them. -/
inductive Spells : List Token → List Char → Prop where
  | nil {blanks : List Char} (hblanks : ∀ c ∈ blanks, isAsciiBlank c = true) : Spells [] blanks
  | cons {token : Token} {tokens : List Token} {blanks text s : List Char}
      (hblanks : ∀ c ∈ blanks, isAsciiBlank c = true) (htext : token.Spelled text) (hs : Spells tokens s) :
      Spells (token :: tokens) (blanks ++ (text ++ s))

def blanks : List Char := [' ', '\t', '\n', '\x0c', '\r']

def signs : List Char := ['+', '-', '*', '/', '%', '^']

theorem isAsciiBlank_iff {c : Char} : isAsciiBlank c = true ↔ c ∈ blanks := by
  simp [isAsciiBlank, blanks, or_assoc]

theorem sign_mem_signs (op : Operator) : op.sign ∈ signs := by
  cases op <;> decide

theorem isAsciiBlank_of_class {p : Char → Bool} {c : Char} (hc : p c = true)
    (hp : blanks.all fun d => !p d) : isAsciiBlank c = false := by
  rw [Bool.eq_false_iff, ne_eq, isAsciiBlank_iff]
  intro hmem
  have hd := List.all_eq_true.mp hp c hmem
  simp [hc] at hd

theorem isAsciiBlank_sign (op : Operator) : isAsciiBlank op.sign = false := by
  cases op <;> decide

theorem not_isDigit_of_isNameStart {c : Char} (h : isNameStart c = true) : c.isDigit = false := by
  rw [isNameStart, Bool.or_eq_true, beq_iff_eq] at h
  rcases h with hletter | rfl
  · delta Char.isAlpha Char.isUpper Char.isLower at hletter
    delta Char.isDigit
    simp only [Bool.or_eq_true, Bool.and_eq_true, decide_eq_true_eq, Bool.and_eq_false_iff, decide_eq_false_iff_not,
      ge_iff_le, UInt32.le_iff_toNat_le] at hletter ⊢
    simp at hletter ⊢
    omega
  · decide

theorem Literal.exists_cons (l : Literal) : ∃ c rest, l.chars = c :: rest := by
  cases h : l.chars with
  | nil =>
    have hparses := l.parses
    have hnone : Number.parse? (String.ofList []) = none := by rfl
    rw [h, hnone] at hparses
    exact absurd hparses (by simp)
  | cons c rest => exact ⟨c, rest, rfl⟩

theorem Token.Spelled.exists_cons {token : Token} {text : List Char} (h : token.Spelled text) :
    ∃ c rest, text = c :: rest ∧ isAsciiBlank c = false := by
  cases h with
  | literal l =>
    obtain ⟨c, rest, hc⟩ := l.exists_cons
    exact ⟨c, rest, hc, isAsciiBlank_of_class (l.valid c (by simp [hc])) (by decide)⟩
  | dollar v => exact ⟨'$', v.chars, rfl, by decide⟩
  | plain hc hstart => exact ⟨_, _, hc, isAsciiBlank_of_class hstart (by decide)⟩
  | operator op => exact ⟨op.sign, [], rfl, isAsciiBlank_sign op⟩
  | opening => exact ⟨'(', [], rfl, by decide⟩
  | closing => exact ⟨')', [], rfl, by decide⟩

theorem Spells.skipBlanks_nil {s : List Char} (h : Spells [] s) : skipBlanks s = [] := by
  cases h with
  | nil hblanks => exact List.dropWhile_eq_nil_iff.mpr hblanks

theorem Spells.skipBlanks_cons {token : Token} {tokens : List Token} {s : List Char}
    (h : Spells (token :: tokens) s) :
    ∃ text s', token.Spelled text ∧ Spells tokens s' ∧ s'.length < s.length ∧ skipBlanks s = text ++ s' := by
  cases h with
  | @cons _ _ blanks text s' hblanks htext hs =>
    obtain ⟨c, rest, rfl, hc⟩ := htext.exists_cons
    refine ⟨_, s', htext, hs, by simp only [List.length_append, List.length_cons]; omega, ?_⟩
    rw [skipBlanks, List.dropWhile_append_of_pos hblanks, List.cons_append]
    exact List.dropWhile_cons_of_neg (by simp [hc])

theorem Spells.next {token : Token} {tokens : List Token} {text s : List Char} (htext : token.Spelled text)
    (hs : Spells tokens s) : Spells (token :: tokens) (text ++ s) :=
  have hnone : ∀ c ∈ ([] : List Char), isAsciiBlank c = true := by simp
  .cons hnone htext hs

theorem Spells.blank {tokens : List Token} {c : Char} {s : List Char} (hc : isAsciiBlank c = true)
    (hs : Spells tokens s) : Spells tokens (c :: s) := by
  cases hs with
  | nil hblanks => exact .nil (List.forall_mem_cons.mpr ⟨hc, hblanks⟩)
  | cons hblanks htext hs => exact .cons (List.forall_mem_cons.mpr ⟨hc, hblanks⟩) htext hs

theorem operator?_of_sign {op : Operator} {s rest : List Char} (h : skipBlanks s = op.sign :: rest)
    (ops : List Operator) : operator? ops s = if op ∈ ops then some (op, rest) else none := by
  rw [operator?, h]
  dsimp only
  rw [Operator.ofChar?_sign, Option.filter_some]
  by_cases hop : op ∈ ops <;> simp [hop]

theorem operator?_of_ne {c : Char} {s rest : List Char} (h : skipBlanks s = c :: rest)
    (hc : ∀ op : Operator, c ≠ op.sign) (ops : List Operator) : operator? ops s = none := by
  have hnone : Operator.ofChar? c = none := by
    cases hsign : Operator.ofChar? c with
    | none => rfl
    | some op => exact absurd (Operator.eq_sign_of_ofChar? hsign) (hc op)
  rw [operator?, h]
  dsimp only
  rw [hnone]
  rfl

theorem operator?_operator {op : Operator} {tokens : List Token} {s : List Char}
    (h : Spells (.operator op :: tokens) s) :
    ∃ s', Spells tokens s' ∧ s'.length < s.length ∧
      ∀ ops, operator? ops s = if op ∈ ops then some (op, s') else none := by
  obtain ⟨text, s', htext, hs, hlen, hskip⟩ := h.skipBlanks_cons
  cases htext with
  | operator => exact ⟨s', hs, hlen, operator?_of_sign hskip⟩

theorem sign_ne_of_class {p : Char → Bool} {c : Char} (hc : p c = true)
    (hp : signs.all fun d => !p d) (op : Operator) : c ≠ op.sign := by
  rintro rfl
  have hd := List.all_eq_true.mp hp op.sign (sign_mem_signs op)
  simp [hc] at hd

/-- Tokens that are no operators do not begin like one. -/
theorem Token.Spelled.ne_sign {token : Token} {c : Char} {rest : List Char} (h : token.Spelled (c :: rest))
    (hno : ∀ op, token ≠ .operator op) (op : Operator) : c ≠ op.sign := by
  generalize htext : c :: rest = text at h
  cases h with
  | literal l => exact sign_ne_of_class (l.valid c (by simp [← htext])) (by decide) op
  | dollar v =>
    obtain ⟨rfl, -⟩ := List.cons.inj htext
    cases op <;> decide
  | plain hc hstart =>
    obtain ⟨rfl, -⟩ := List.cons.inj (htext.trans hc)
    exact sign_ne_of_class hstart (by decide) op
  | operator op' => exact absurd rfl (hno op')
  | opening =>
    obtain ⟨rfl, -⟩ := List.cons.inj htext
    cases op <;> decide
  | closing =>
    obtain ⟨rfl, -⟩ := List.cons.inj htext
    cases op <;> decide

theorem operator?_eq_none {tokens : List Token} {s : List Char} {ops : List Operator} (h : Spells tokens s)
    (hno : ∀ op, tokens.head? = some (.operator op) → op ∉ ops) : operator? ops s = none := by
  cases tokens with
  | nil => rw [operator?, h.skipBlanks_nil]
  | cons token tokens =>
    by_cases hop : ∃ op, token = .operator op
    · obtain ⟨op, rfl⟩ := hop
      obtain ⟨s', -, -, hread⟩ := operator?_operator h
      rw [hread, if_neg (hno op rfl)]
    · obtain ⟨text, s', htext, -, -, hskip⟩ := h.skipBlanks_cons
      obtain ⟨c, rest, rfl, -⟩ := htext.exists_cons
      exact operator?_of_ne hskip (htext.ne_sign fun op heq => hop ⟨op, heq⟩) ops

theorem operator?_eq_none_of_head {token : Token} {tokens rest : List Token} {s : List Char}
    (htoken : token ∈ tokens.head?) (hno : ∀ op, token ≠ .operator op) (h : Spells (tokens ++ rest) s)
    (ops : List Operator) : operator? ops s = none := by
  refine operator?_eq_none h fun op hop => ?_
  rw [List.head?_append, Option.mem_def.mp htoken, Option.some_or] at hop
  exact absurd (Option.some.inj hop) (hno op)

/-- What may follow a formula of a rank: an operator that joins looser ones, a closing parenthesis or nothing. -/
def Stops (rank : Rank) (rest : List Token) : Prop :=
  ∀ token ∈ rest.head?, token = .closing ∨ ∃ op, token = .operator op ∧ (Rank.joined op).level < rank.level

theorem Stops.mono {rank rank' : Rank} {rest : List Token} (h : Stops rank rest)
    (hlevel : rank.level ≤ rank'.level) : Stops rank' rest := by
  intro token htoken
  rcases h token htoken with rfl | ⟨op, rfl, hop⟩
  · exact .inl rfl
  · exact .inr ⟨op, rfl, by omega⟩

theorem stops_closing (rank : Rank) (rest : List Token) : Stops rank (.closing :: rest) := by
  intro token htoken
  obtain rfl : Token.closing = token := by simpa using htoken
  exact .inl rfl

theorem level_multiplicative {op : Operator} (h : op ∈ [Operator.mul, .div, .rem]) :
    (Rank.joined op).level < Rank.power.level := by
  cases op <;> first | decide | simp at h

theorem level_additive {op : Operator} (h : op ∈ [Operator.add, .sub]) :
    (Rank.joined op).level < Rank.product.level := by
  cases op <;> first | decide | simp at h

theorem stops_operator {rank : Rank} {op : Operator} (h : (Rank.joined op).level < rank.level)
    (rest : List Token) : Stops rank (.operator op :: rest) := by
  intro token htoken
  obtain rfl : Token.operator op = token := by simpa using htoken
  exact .inr ⟨op, rfl, h⟩

theorem Stops.operator?_eq_none {rank : Rank} {rest : List Token} {s : List Char} {ops : List Operator}
    (h : Stops rank rest) (hs : Spells rest s) (hops : ∀ op ∈ ops, rank.level ≤ (Rank.joined op).level) :
    operator? ops s = none := by
  refine Arithmetic.operator?_eq_none hs fun op hop hmem => ?_
  rcases h (.operator op) hop with heq | ⟨op', heq, hlevel⟩
  · exact Token.noConfusion heq
  · obtain rfl := Token.operator.inj heq
    have := hops op hmem
    omega

/-- A literal or a name does not go on in what may follow it. -/
theorem Stops.head {rest : List Token} {s : List Char} (h : Stops .atom rest) (hs : Spells rest s)
    {p : Char → Bool} (hp : (')' :: (signs ++ blanks)).all fun d => !p d) : ∀ c ∈ s.head?, p c = false := by
  have hclass : ∀ c ∈ ')' :: (signs ++ blanks), p c = false :=
    fun c hc => by simpa using List.all_eq_true.mp hp c hc
  have hblank : ∀ c, isAsciiBlank c = true → p c = false :=
    fun c hc => hclass c (by simp [isAsciiBlank_iff.mp hc])
  intro c hc
  cases hs with
  | nil hblanks => exact hblank c (hblanks c (List.mem_of_mem_head? hc))
  | @cons token tokens blanks text s' hblanks htext _ =>
    cases blanks with
    | cons d blanks =>
      obtain rfl : d = c := by simpa using hc
      exact hblank d (hblanks d (by simp))
    | nil =>
      rcases h token rfl with rfl | ⟨op, rfl, -⟩
      · cases htext with
        | closing =>
          obtain rfl : ')' = c := by simpa using hc
          exact hclass ')' List.mem_cons_self
      · cases htext with
        | operator =>
          obtain rfl : op.sign = c := by simpa using hc
          exact hclass op.sign (by simp [sign_mem_signs op])

/-- Digits and points are taken in up to their end, whether they are a numeral or not. -/
theorem atom_literal {inner : Reader} {s digits t : List Char} (hskip : skipBlanks s = digits ++ t)
    (hne : digits ≠ []) (hdigits : ∀ c ∈ digits, isLiteralChar c = true)
    (ht : ∀ c ∈ t.head?, isLiteralChar c = false) :
    atom inner s = (Number.parse? (String.ofList digits)).map fun n => (.number n, t) := by
  obtain ⟨c, cs, rfl⟩ := List.exists_cons_of_ne_nil hne
  obtain ⟨hc, hcs⟩ := List.forall_mem_cons.mp hdigits
  have hpart : c.isDigit = true ∨ c = '.' := by simpa [isLiteralChar] using hc
  have hopen : c ≠ '(' := by
    rintro rfl
    exact absurd hc (by decide)
  have htake : (cs ++ t).takeWhile (fun d => d.isDigit || d == '.') = cs := takeWhile_append_stop hcs ht
  have hdrop : (cs ++ t).dropWhile (fun d => d.isDigit || d == '.') = t := dropWhile_append_stop hcs ht
  rw [atom, hskip]
  dsimp only [List.cons_append]
  rw [if_neg hopen, if_pos hpart, htake, hdrop]

theorem atom_name {c : Char} {s cs t : List Char} (hskip : skipBlanks s = c :: cs ++ t)
    (hc : isNameStart c = true) (hcs : ∀ d ∈ cs, isNameChar d = true) (ht : ∀ d ∈ t.head?, isNameChar d = false)
    (inner : Reader) : atom inner s = some (variableOf (c :: cs), t) := by
  obtain ⟨hopen, hdollar, hdot⟩ : c ≠ '(' ∧ c ≠ '$' ∧ c ≠ '.' := by
    refine ⟨?_, ?_, ?_⟩ <;> (rintro rfl; exact absurd hc (by decide))
  have hdigit : ¬(c.isDigit = true ∨ c = '.') := by simp [not_isDigit_of_isNameStart hc, hdot]
  rw [atom, hskip]
  dsimp only [List.cons_append]
  rw [if_neg hopen, if_neg hdigit, if_neg hdollar, if_pos hc, takeWhile_append_stop hcs ht,
    dropWhile_append_stop hcs ht]

def Reads (reader : Reader) (tokens : List Token) (e : Expr) (rest : List Token) : Prop :=
  ∀ s, Spells (tokens ++ rest) s → ∃ s', Spells rest s' ∧ s'.length ≤ s.length ∧ reader s = some (e, s')

/-- Operands that are separated by some operators begin with some tokens, after which they may go on. -/
def Begins (ops : List Operator) (operand : Reader) (tokens : List Token) (e : Expr) (rest : List Token) : Prop :=
  ∀ s, Spells (tokens ++ rest) s → ∃ s' steps, Spells rest s' ∧ s'.length ≤ s.length ∧ s'.length ≤ steps ∧
    leftward ops operand s = operations ops operand steps e s'

section Operands

variable {ops : List Operator} {operand : Reader} {tokens more rest : List Token} {e e' : Expr}

theorem Reads.begins (h : Reads operand tokens e rest) : Begins ops operand tokens e rest := by
  intro s hs
  obtain ⟨s', hs', hlen, hread⟩ := h s hs
  refine ⟨s', s'.length, hs', hlen, Nat.le_refl _, ?_⟩
  rw [leftward, hread]
  rfl

/-- One more operand, for which there are steps left since its operator has been read. -/
theorem Begins.step {op : Operator} (h : Begins ops operand tokens e (.operator op :: (more ++ rest)))
    (hop : op ∈ ops) (hmore : Reads operand more e' rest) :
    Begins ops operand (tokens ++ .operator op :: more) (.binary op e e') rest := by
  intro s hs
  rw [List.append_assoc, List.cons_append] at hs
  obtain ⟨s₁, steps, hs₁, hlen₁, hsteps, hread⟩ := h s hs
  obtain ⟨s₂, hs₂, hlen₂, hoperator⟩ := operator?_operator hs₁
  obtain ⟨s₃, hs₃, hlen₃, hoperand⟩ := hmore s₂ hs₂
  cases steps with
  | zero => omega
  | succ steps =>
    refine ⟨s₃, steps, hs₃, by omega, by omega, ?_⟩
    rw [hread, operations, hoperator, if_pos hop]
    dsimp only
    rw [hoperand]
    rfl

theorem Begins.reads {rank : Rank} (h : Begins ops operand tokens e rest) (hstops : Stops rank rest)
    (hops : ∀ op ∈ ops, rank.level ≤ (Rank.joined op).level) : Reads (leftward ops operand) tokens e rest := by
  intro s hs
  obtain ⟨s', steps, hs', hlen, -, hread⟩ := h s hs
  have hnone := hstops.operator?_eq_none hs' hops
  refine ⟨s', hs', hlen, ?_⟩
  rw [hread]
  cases steps with
  | zero => rfl
  | succ steps => rw [operations, hnone]

end Operands

/-- The tokens are read as an expression of a rank wherever there is room for its nesting. Sums and products may
go on behind them. -/
def ReadAt : Rank → List Token → Expr → Nat → Prop
  | .atom, tokens, e, nesting =>
    (∃ token ∈ tokens.head?, ∀ op, token ≠ .operator op) ∧
      ∀ depth rest, nesting ≤ depth + 2 → Stops .atom rest → Reads (atom (sums (power depth))) tokens e rest
  | .signed, tokens, e, nesting =>
    ∀ depth rest, nesting ≤ depth + 1 → Stops .signed rest → Reads (signed depth) tokens e rest
  | .power, tokens, e, nesting =>
    ∀ depth rest, nesting ≤ depth → Stops .power rest → Reads (power depth) tokens e rest
  | .product, tokens, e, nesting =>
    ∀ depth rest, nesting ≤ depth → Stops .power rest → Begins [.mul, .div, .rem] (power depth) tokens e rest
  | .sum, tokens, e, nesting =>
    ∀ depth rest, nesting ≤ depth → Stops .product rest →
      Begins [.add, .sub] (leftward [.mul, .div, .rem] (power depth)) tokens e rest

namespace ReadAt

variable {tokens more : List Token} {e e' : Expr} {nesting nesting' : Nat}

theorem of_atom (h : ReadAt .atom tokens e nesting) (hn : 2 ≤ nesting) : ReadAt .signed tokens e nesting := by
  intro depth rest hdepth hstops s hs
  obtain ⟨⟨token, htoken, hno⟩, hread⟩ := h
  cases depth with
  | zero => omega
  | succ depth =>
    have hnone := operator?_eq_none_of_head htoken hno hs [.add, .sub]
    obtain ⟨s', hs', hlen, hatom⟩ := hread depth rest (by omega) (hstops.mono (by decide)) s hs
    refine ⟨s', hs', hlen, ?_⟩
    rw [signed, hnone]
    exact hatom

theorem of_signed (h : ReadAt .signed tokens e nesting) (hn : 2 ≤ nesting) : ReadAt .power tokens e nesting := by
  intro depth rest hdepth hstops s hs
  cases depth with
  | zero => omega
  | succ depth =>
    obtain ⟨s', hs', hlen, hsigned⟩ := h depth rest hdepth (hstops.mono (by decide)) s hs
    have hnone : operator? [.pow] s' = none := hstops.operator?_eq_none hs' (by decide)
    refine ⟨s', hs', hlen, ?_⟩
    rw [power, hsigned, Option.bind_some]
    dsimp only
    rw [hnone]

theorem of_power (h : ReadAt .power tokens e nesting) : ReadAt .product tokens e nesting :=
  fun depth rest hdepth hstops => (h depth rest hdepth hstops).begins

theorem of_product (h : ReadAt .product tokens e nesting) : ReadAt .sum tokens e nesting :=
  fun depth rest hdepth hstops =>
    ((h depth rest hdepth (hstops.mono (by decide))).reads hstops (by decide)).begins

theorem loosen {own : Rank} (h : ReadAt own tokens e nesting) (hn : 2 ≤ nesting) :
    ReadAt own.looser tokens e nesting := by
  cases own with
  | sum => exact h
  | product => exact h.of_product
  | power => exact h.of_power
  | signed => exact h.of_signed hn
  | atom => exact h.of_atom hn

theorem descend {own place : Rank} (h : ReadAt own tokens e nesting) (hn : 2 ≤ nesting)
    (hlevel : place.level ≤ own.level) : ReadAt place tokens e nesting :=
  Rank.descend (P := fun rank => ReadAt rank tokens e nesting) (fun _ hrank => hrank.loosen hn) h hlevel

theorem parentheses (h : ReadAt .sum tokens e nesting) :
    ReadAt .atom (.opening :: (tokens ++ [.closing])) e (nesting + 2) := by
  refine ⟨⟨.opening, rfl, fun _ => Token.noConfusion⟩, fun depth rest hdepth _ s hs => ?_⟩
  have hclosing := stops_closing .sum rest
  rw [List.cons_append, List.append_assoc, List.singleton_append] at hs
  obtain ⟨text, s₁, htext, hs₁, hlen₁, hskip₁⟩ := hs.skipBlanks_cons
  have hbegins := h depth (.closing :: rest) (by omega) (hclosing.mono (by decide))
  obtain ⟨s₂, hs₂, hlen₂, hsum⟩ := hbegins.reads hclosing (by decide) s₁ hs₁
  obtain ⟨text', s₃, htext', hs₃, hlen₃, hskip₃⟩ := hs₂.skipBlanks_cons
  -- the sum within is read with the parenthesis behind it, which no operator goes on from
  cases htext with
  | opening =>
    cases htext' with
    | closing =>
      refine ⟨s₃, hs₃, by omega, ?_⟩
      rw [atom, hskip₁]
      dsimp only [List.cons_append, List.nil_append]
      rw [if_pos rfl, sums, hsum, Option.bind_some]
      dsimp only
      rw [hskip₃]
      rfl

theorem literal (l : Literal) : ReadAt .atom [.literal l] (.number l.value) 2 := by
  refine ⟨⟨.literal l, rfl, fun _ => Token.noConfusion⟩, fun depth rest _ hstops s hs => ?_⟩
  obtain ⟨text, s', htext, hs', hlen, hskip⟩ := hs.skipBlanks_cons
  cases htext with
  | literal =>
    obtain ⟨c, cs, hc⟩ := l.exists_cons
    refine ⟨s', hs', Nat.le_of_lt hlen, ?_⟩
    rw [atom_literal hskip (by simp [hc]) l.valid (hstops.head hs' (by decide)), l.parses]
    rfl

theorem var (v : Variable) : ReadAt .atom [.var v] (variableOf v.chars) 2 := by
  refine ⟨⟨.var v, rfl, fun _ => Token.noConfusion⟩, fun depth rest _ hstops s hs => ?_⟩
  obtain ⟨text, s', htext, hs', hlen, hskip⟩ := hs.skipBlanks_cons
  have hend : ∀ d ∈ s'.head?, isNameChar d = false := hstops.head hs' (by decide)
  refine ⟨s', hs', Nat.le_of_lt hlen, ?_⟩
  cases htext with
  | dollar =>
    rw [atom, hskip]
    dsimp only [List.cons_append]
    rw [if_neg (by decide), if_neg (by decide), if_pos rfl, takeWhile_append_stop v.valid hend,
      dropWhile_append_stop v.valid hend]
  | @plain _ c cs hc hstart =>
    have hcs : ∀ d ∈ cs, isNameChar d = true := fun d hd => v.valid d (by simp [hc, hd])
    rw [hc] at hskip ⊢
    exact atom_name hskip hstart hcs hend _

theorem sign (negative : Bool) (h : ReadAt .signed tokens e nesting) (hn : 2 ≤ nesting) :
    ReadAt .signed (.operator (if negative then .sub else .add) :: tokens) (if negative then .negate e else e)
      (nesting + 1) := by
  intro depth rest hdepth hstops s hs
  obtain ⟨s₁, hs₁, hlen₁, hoperator⟩ := operator?_operator hs
  cases depth with
  | zero => omega
  | succ depth =>
    obtain ⟨s₂, hs₂, hlen₂, hsigned⟩ := h depth rest (by omega) hstops s₁ hs₁
    refine ⟨s₂, hs₂, by omega, ?_⟩
    rw [signed, hoperator]
    cases negative <;> simp [hsigned]

theorem power (h : ReadAt .signed tokens e nesting) (h' : ReadAt .power more e' nesting') :
    ReadAt .power (tokens ++ .operator .pow :: more) (.binary .pow e e') (max nesting (nesting' + 1)) := by
  intro depth rest hdepth hstops s hs
  rw [List.append_assoc, List.cons_append] at hs
  cases depth with
  | zero => omega
  | succ depth =>
    obtain ⟨s₁, hs₁, hlen₁, hbase⟩ := h depth _ (by omega) (stops_operator (by decide) _) s hs
    obtain ⟨s₂, hs₂, hlen₂, hoperator⟩ := operator?_operator hs₁
    obtain ⟨s₃, hs₃, hlen₃, hexponent⟩ := h' depth rest (by omega) hstops s₂ hs₂
    refine ⟨s₃, hs₃, by omega, ?_⟩
    rw [Arithmetic.power, hbase, Option.bind_some]
    dsimp only
    rw [hoperator, if_pos (by decide)]
    dsimp only
    rw [hexponent]
    rfl

theorem product {op : Operator} (hop : op ∈ [Operator.mul, .div, .rem]) (h : ReadAt .product tokens e nesting)
    (h' : ReadAt .power more e' nesting') :
    ReadAt .product (tokens ++ .operator op :: more) (.binary op e e') (max nesting nesting') := by
  intro depth rest hdepth hstops
  have hoperator := stops_operator (level_multiplicative hop) (more ++ rest)
  exact (h depth _ (by omega) hoperator).step hop (h' depth rest (by omega) hstops)

theorem sum {op : Operator} (hop : op ∈ [Operator.add, .sub]) (h : ReadAt .sum tokens e nesting)
    (h' : ReadAt .product more e' nesting') :
    ReadAt .sum (tokens ++ .operator op :: more) (.binary op e e') (max nesting nesting') := by
  intro depth rest hdepth hstops
  have hoperator := stops_operator (level_additive hop) (more ++ rest)
  have hmore := (h' depth rest (by omega) (hstops.mono (by decide))).reads hstops (by decide)
  exact (h depth _ (by omega) hoperator).step hop hmore

theorem enclosed {own : Rank} (h : ReadAt own tokens e nesting) (hn : 2 ≤ nesting) (place : Rank) :
    ReadAt place (enclose place own tokens) e (nestingIn place own nesting) := by
  rw [enclose, nestingIn]
  split
  · have hsum : ReadAt .sum tokens e nesting := h.descend hn (Nat.zero_le _)
    exact hsum.parentheses.descend (by omega) (Rank.level_le_atom place)
  · exact h.descend hn (by omega)

end ReadAt

namespace Formula

theorem nesting_le_nestingIn (place own : Rank) (n : Nat) : n ≤ nestingIn place own n := by
  rw [nestingIn]
  split <;> omega

theorem two_le_nesting (e : Formula) : 2 ≤ e.nesting := by
  induction e with
  | literal l => exact Nat.le_refl 2
  | var v => exact Nat.le_refl 2
  | sign negative e ih =>
    have := nesting_le_nestingIn .signed e.rank e.nesting
    rw [nesting]
    omega
  | binary op left right ihleft _ =>
    have := nesting_le_nestingIn (.left op) left.rank left.nesting
    rw [nesting]
    omega

/-- A formula is read at its own rank, by the rule for its kind. -/
theorem readAt (e : Formula) : ReadAt e.rank e.tokens e.expr e.nesting := by
  induction e with
  | literal l => exact .literal l
  | var v => exact .var v
  | sign negative e ih =>
    have hoperand := ih.enclosed e.two_le_nesting .signed
    have hn := nesting_le_nestingIn .signed e.rank e.nesting
    exact .sign negative hoperand (e.two_le_nesting.trans hn)
  | binary op left right ihleft ihright =>
    have hleft := ihleft.enclosed left.two_le_nesting (.left op)
    have hright := ihright.enclosed right.two_le_nesting (.right op)
    cases op with
    | add | sub => exact hleft.sum (by simp) hright
    | mul | div | rem => exact hleft.product (by simp) hright
    | pow => exact hleft.power hright

theorem parse?_spelled {e : Formula} {text : String} (h : Spells e.tokens text.toList)
    (hn : e.nesting ≤ maxNesting) : parse? text = some e.expr := by
  have hstops : Stops .sum [] := by simp [Stops]
  have hread : ReadAt .sum e.tokens e.expr e.nesting := e.readAt.descend e.two_le_nesting (Nat.zero_le _)
  have hbegins := hread maxNesting [] hn (hstops.mono (by decide))
  rw [← List.append_nil e.tokens] at h
  obtain ⟨s, hs, -, hsums⟩ := hbegins.reads hstops (by decide) text.toList h
  rw [parse?, sums, hsums]
  dsimp only
  rw [if_pos hs.skipBlanks_nil]

/-- A text that spells a formula has the formula's value, and it has none exactly if a variable in the formula has no
value or an operation gives nothing. -/
theorem evaluate?_spelled {e : Formula} {text : String} (h : Spells e.tokens text.toList)
    (hn : e.nesting ≤ maxNesting) (input : Number) (values : List (Option Number)) :
    evaluate? text input values = e.value? input (e.assigned values) ∧
      (evaluate? text input values = none ↔ ∃ p ∈ e.parts, p.Stuck input (e.assigned values)) := by
  have hnames : e.expr.names [] = e.names.eraseDups := by
    rw [names_expr, List.nil_append]
    simp [List.removeAll]
  have hvalue : evaluate? text input values = e.value? input (e.assigned values) := by
    rw [evaluate?, parse?_spelled h hn, Option.bind_some]
    dsimp only
    rw [hnames, eval?_expr]
    rfl
  exact ⟨hvalue, by rw [hvalue, value?_eq_none_iff]⟩

/-- The sign binds tighter than the sum, and the power tighter than the product. -/
theorem evaluate?_spelled_signed :
    ∃ e : Formula, Spells e.tokens " -$x + 2*y^z".toList ∧ e.nesting ≤ maxNesting ∧
      evaluate? " -$x + 2*y^z" (.int 5) [some (.int 3), some (.int 2)] = some (.int 13) := by
  let x : Variable := ⟨['x'], List.all_eq_true.mp (by decide)⟩
  let y : Variable := ⟨['y'], List.all_eq_true.mp (by decide)⟩
  let z : Variable := ⟨['z'], List.all_eq_true.mp (by decide)⟩
  let two : Literal := ⟨['2'], List.all_eq_true.mp (by decide), .int 2, rfl⟩
  let e : Formula := .binary .add (.sign true (.var x)) (.binary .mul (.literal two) (.binary .pow (.var y) (.var z)))
  have hspells : Spells e.tokens " -$x + 2*y^z".toList :=
    .blank (by decide) <| .next (.operator .sub) <| .next (.dollar _) <| .blank (by decide) <|
      .next (.operator .add) <| .blank (by decide) <| .next (.literal _) <| .next (.operator .mul) <|
      .next (.plain rfl (by decide)) <| .next (.operator .pow) <| .next (.plain rfl (by decide)) <| .nil (by simp)
  have hnesting : e.nesting ≤ maxNesting := by decide
  refine ⟨e, hspells, hnesting, ?_⟩
  rw [(evaluate?_spelled hspells hnesting (.int 5) [some (.int 3), some (.int 2)]).1]
  rfl

end Formula

end Stencil.Arithmetic
