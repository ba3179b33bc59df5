import Stencil.Proofs.ByOffset.Bytes
import Stencil.Proofs.FormulaReading
import Stencil.Proofs.Grammar
import Stencil.Proofs.Numerals

/-!
# Arithmetic in one pass

An expression may be evaluated while its bytes are read, without a tree: what has been read of a sum is its value so
far, a name takes the next of the given values where it first appears, and the depth is counted up and down again. The
pass stops where something cannot be read and where an operation gives nothing, whichever comes first. It gives the
value of the tree that the expression is read as, and it takes no bytes that are not there.
-/
namespace Stencil.ByOffset.OnePass

open Stencil.Text Stencil.Arithmetic

/-- Where a pass stands: the offset, the names that it has met, and how many powers and operands are open. -/
structure State where
  pos : Nat
  names : List String
  depth : Nat

abbrev Pass := StateT State (OptionT Checked)

def step (n : Nat) : Pass Unit := modify fun p => { p with pos := p.pos + n }

def runFrom (p : Char → Bool) (text : String) (pos : Nat) : Nat :=
  (((bytes text.toList).drop pos).takeWhile p).length

/-- The bytes between two offsets, which need not be boundaries of characters. -/
def byteSlice (text : String) (start stop : Nat) : Checked String :=
  if start ≤ stop ∧ stop ≤ text.utf8ByteSize then
    pure (String.ofList (((bytes text.toList).drop start).take (stop - start)))
  else throw .slice

section Readers

variable (text : String) (input : Number) (values : List (Option Number))

def skipWhile (p : Char → Bool) : Pass Unit := do step (runFrom p text (← get).pos)

def byteAhead : Pass (Option Char) := return byteAt? text (← get).pos

def operatorAhead (ops : List Operator) : Pass (Option Operator) := do
  skipWhile text isAsciiBlank
  return ((← byteAhead text).bind Operator.ofChar?).filter (· ∈ ops)

def given {α : Type} (x : Option α) : Pass α := StateT.lift (OptionT.mk (pure x))

/-- Goes one level deeper, where there is one. -/
def nested (rule : Pass Number) : Pass Number := do
  let p ← get
  if p.depth < maxNesting then
    set { p with depth := p.depth + 1 }
    let n ← rule
    let q ← get
    let depth ← minus q.depth 1
    set { q with depth := depth }
    return n
  else failure

def another (ops : List Operator) (operand : Pass Number) (left : Number) : Pass (Option Number) := do
  match ← operatorAhead text ops with
  | none => return none
  | some op =>
    step 1
    let right ← operand
    return some (← given (Number.combine? op left right))

def operandRound (ops : List Operator) (operand : Pass Number) (pos : Nat) (state : Number × List String × Nat) :
    Checked (Round (Number × List String × Nat) (Option (Number × State))) := do
  match ← another text ops operand state.1 ⟨pos, state.2.1, state.2.2⟩ with
  | none => return .done none
  | some (none, p) => return .done (some (state.1, p))
  | some (some n, p) => return .again p.pos (n, p.names, p.depth)

def leftward (ops : List Operator) (operand : Pass Number) : Pass Number := do
  let first ← operand
  fun p => loop text (operandRound text ops operand) p.pos (first, p.names, p.depth)

def sum (factor : Pass Number) : Pass Number := leftward text [.add, .sub] (leftward text [.mul, .div, .rem] factor)

/-- The value of a variable. A name that has not been met takes the next slot. -/
def valueOf (name : String) : Pass Number := do
  if name = "x" then return input
  else
    let p ← get
    match p.names.idxOf? name with
    | some slot => given (values[slot]?).join
    | none =>
      set { p with names := p.names ++ [name] }
      let slot ← minus (p.names ++ [name]).length 1
      given (values[slot]?).join

def numeral : Pass Number := do
  let start := (← get).pos
  skipWhile text isLiteralChar
  given (Number.parse? (← byteSlice text start (← get).pos))

def name : Pass Number := do
  let start := (← get).pos
  skipWhile text isNameChar
  valueOf input values (← byteSlice text start (← get).pos)

def closed (n : Number) : Pass Number := do
  skipWhile text isAsciiBlank
  if (← byteAhead text) = some ')' then
    step 1
    return n
  else failure

def begunWith (inner : Pass Number) (b : Char) : Pass Number :=
  if b = '(' then do
    step 1
    let n ← inner
    closed text n
  else if isLiteralChar b then numeral text
  else if b = '$' then do
    step 1
    name text input values
  else if isNameStart b then name text input values
  else failure

def atom (inner : Pass Number) : Pass Number := do
  skipWhile text isAsciiBlank
  match ← byteAhead text with
  | none => failure
  | some b => begunWith text input values inner b

mutual

/-- A power. The first argument bounds the recursion, which the depth ends before. -/
def power : Nat → Pass Number
  | 0 => (throw .stuck : Checked Number)
  | room + 1 => nested do
    let base ← signed room
    match ← operatorAhead text [.pow] with
    | none => return base
    | some op =>
      step 1
      let exponent ← power room
      given (Number.combine? op base exponent)

def signed : Nat → Pass Number
  | 0 => (throw .stuck : Checked Number)
  | room + 1 => nested do
    match ← operatorAhead text [.add, .sub] with
    | some .sub =>
      step 1
      let operand ← signed room
      given (Number.combine? .sub (.int 0) operand)
    | some _ =>
      step 1
      signed room
    | none => atom text input values (sum text (power room))

end

/-- The value of an expression, which must reach to the end of the text. -/
def evaluate? : Checked (Option Number) := do
  match ← sum text (power text input values (maxNesting + 1)) ⟨0, [], 0⟩ with
  | none => return none
  | some (n, p) =>
    if p.pos + runFrom isAsciiBlank text p.pos < text.utf8ByteSize then return none else return some n

end Readers

/-- What a pass gives: a result and where it stands then, or nothing where it stops. -/
def Gives {α : Type} (m : Pass α) (p : State) (r : Option (α × State)) : Prop := m p = (pure r : Checked _)

section Gives

variable {α β : Type} {m : Pass α} {p q : State}

theorem run_bind (m : Pass α) (f : α → Pass β) (p : State) :
    (m >>= f) p = Except.bind (m p) fun r : Option (α × State) => r.elim (pure none) fun (a, q) => f a q := by
  refine congrArg (Except.bind (m p)) (funext fun r => ?_)
  cases r <;> rfl

theorem Gives.bind {f : α → Pass β} {a : α} {r : Option (β × State)} (h : Gives m p (some (a, q)))
    (h' : Gives (f a) q r) : Gives (m >>= f) p r := by
  rw [Gives, run_bind, h]
  exact h'

theorem Gives.stop (h : Gives m p none) (f : α → Pass β) : Gives (m >>= f) p none := by
  rw [Gives, run_bind, h]
  rfl

theorem gives_get (p : State) : Gives get p (some (p, p)) := rfl

theorem gives_set (p q : State) : Gives (set q) p (some (⟨⟩, q)) := rfl

theorem gives_given (x : Option α) (p : State) : Gives (given x) p (x.map (·, p)) := by
  cases x <;> rfl

theorem gives_given_bind (x : Option α) (f : α → β) (p : State) :
    Gives (given x >>= fun a => pure (f a)) p (x.map fun a => (f a, p)) := by
  cases x <;> rfl

theorem gives_minus {m n : Nat} (h : n ≤ m) (p : State) : Gives (liftM (minus m n)) p (some (m - n, p)) := by
  rw [minus_of_le h]
  rfl

end Gives

section Bytes

variable {text : String} {p : Char → Bool} {s t : List Char} {c : Char}

theorem runFrom_offsetOf (hp : ∀ c, p c = true → c.toNat < 128) (h : s <:+ text.toList) :
    runFrom p text (offsetOf text s) = byteLength (s.takeWhile p) := by
  obtain ⟨front, hfront⟩ := h
  rw [runFrom, offsetOf_of_append hfront.symm, ← hfront, bytes_append, ← length_bytes, List.drop_left]
  exact runLength_eq hp s

theorem offsetOf_dropWhile (hp : ∀ c, p c = true → c.toNat < 128) (h : s <:+ text.toList) :
    offsetOf text s + runFrom p text (offsetOf text s) = offsetOf text (s.dropWhile p) := by
  have happend : s.takeWhile p ++ s.dropWhile p = s := List.takeWhile_append_dropWhile
  have hsuffix : s.takeWhile p ++ s.dropWhile p <:+ text.toList := by rwa [happend]
  have hoffset := offsetOf_append hsuffix
  rw [happend] at hoffset
  rw [runFrom_offsetOf hp h, hoffset]

theorem bytes_of_class (hp : ∀ c, p c = true → c.toNat < 128) (hs : ∀ c ∈ s, p c = true) : bytes s = s := by
  induction s with
  | nil => rfl
  | cons c s ih =>
    rw [bytes_cons, bytes_of_lt (hp c (hs c (by simp))), ih fun d hd => hs d (by simp [hd])]
    rfl

theorem byteSlice_of_class (hp : ∀ c, p c = true → c.toNat < 128) (hs : ∀ c ∈ s, p c = true)
    (h : s ++ t <:+ text.toList) :
    byteSlice text (offsetOf text (s ++ t)) (offsetOf text t) = pure (String.ofList s) := by
  have hbytes := bytes_of_class hp hs
  have hlength : byteLength s = s.length := by rw [← length_bytes, hbytes]
  have hoffset := offsetOf_append h
  have hdrop : (bytes text.toList).drop (offsetOf text (s ++ t)) = s ++ bytes t := by
    obtain ⟨front, hfront⟩ := h
    rw [offsetOf_of_append hfront.symm, ← hfront, bytes_append, ← length_bytes, List.drop_left, bytes_append, hbytes]
  have htake : offsetOf text t - offsetOf text (s ++ t) = s.length := by omega
  rw [byteSlice, if_pos ⟨by omega, offsetOf_le text t⟩, hdrop, htake, List.take_left]

/-- A test for ASCII characters sees the character that lies ahead, or its first byte, which is none of them. -/
theorem byteAt?_bind {β : Type} {test : Char → Option β} (htest : ∀ c, 128 ≤ c.toNat → test c = none)
    (h : s <:+ text.toList) : (byteAt? text (offsetOf text s)).bind test = s.head?.bind test := by
  cases s with
  | nil => rw [offsetOf_nil, byteAt?_eq_none_iff.mpr (Nat.le_refl _)]; rfl
  | cons c s =>
    rcases Nat.lt_or_ge c.toNat 128 with hlow | hhigh
    · rw [byteAt?_of_lt h hlow]
      rfl
    · obtain ⟨b, hb, hbyte⟩ := exists_byteAt?_of_le h hhigh c.utf8Size_pos
      rw [Nat.add_zero] at hb
      rw [hb, List.head?_cons, Option.bind_some, Option.bind_some, htest b hbyte, htest c hhigh]

theorem byteAt?_eq_some_iff (h : s <:+ text.toList) (hc : c.toNat < 128) :
    byteAt? text (offsetOf text s) = some c ↔ s.head? = some c := by
  cases s with
  | nil => simp [offsetOf_nil, byteAt?_eq_none_iff.mpr]
  | cons d s =>
    rcases Nat.lt_or_ge d.toNat 128 with hlow | hhigh
    · rw [byteAt?_of_lt h hlow, List.head?_cons]
    · obtain ⟨b, hb, hbyte⟩ := exists_byteAt?_of_le h hhigh d.utf8Size_pos
      rw [Nat.add_zero] at hb
      rw [hb, List.head?_cons, Option.some.injEq, Option.some.injEq]
      constructor <;>
      · rintro rfl
        omega

end Bytes

section Classes

variable {c : Char}

theorem toNat_lt_of_isAsciiBlank : ∀ c, isAsciiBlank c = true → c.toNat < 128 := by
  intro c hc
  have hmem := isAsciiBlank_iff.mp hc
  simp only [blanks, List.mem_cons, List.not_mem_nil, or_false] at hmem
  rcases hmem with rfl | rfl | rfl | rfl | rfl <;> decide

theorem toNat_lt_of_isLiteralChar : ∀ c, isLiteralChar c = true → c.toNat < 128 := by
  intro c hc
  rcases Bool.or_eq_true_iff.mp hc with hdigit | hpoint
  · have hrange := Decimal.range_of_isDigit hdigit
    omega
  · rw [eq_of_beq hpoint]
    decide

theorem toNat_lt_of_isNameChar : ∀ c, isNameChar c = true → c.toNat < 128 := by
  intro c hc
  rcases Bool.or_eq_true_iff.mp hc with halnum | hline
  · have hrange := Tag.Grammar.range_of_isAlphanum halnum
    omega
  · rw [eq_of_beq hline]
    decide

theorem isNameChar_of_isNameStart (hc : isNameStart c = true) : isNameChar c = true := by
  rcases Bool.or_eq_true_iff.mp hc with halpha | hline
  · simp [isNameChar, Char.isAlphanum, halpha]
  · simp [isNameChar, hline]

theorem ofChar?_eq_none (hc : 128 ≤ c.toNat) : Operator.ofChar? c = none := by
  cases hop : Operator.ofChar? c with
  | none => rfl
  | some op =>
    rw [Operator.eq_sign_of_ofChar? hop] at hc
    cases op <;> exact absurd hc (by decide)

/-- A character that is no ASCII character begins nothing, and no byte of it does. -/
theorem foreign (hc : 128 ≤ c.toNat) : c ≠ '(' ∧ ¬isLiteralChar c = true ∧ c ≠ '$' ∧ ¬isNameStart c = true := by
  have hliteral : ¬isLiteralChar c = true := fun h => absurd (toNat_lt_of_isLiteralChar c h) (by omega)
  have hname : ¬isNameStart c = true := fun h =>
    absurd (toNat_lt_of_isNameChar c (isNameChar_of_isNameStart h)) (by omega)
  exact ⟨ne_of_foreign hc (by decide), hliteral, ne_of_foreign hc (by decide), hname⟩

end Classes

/-- An offset from which a text lies ahead, blanks aside. -/
def At (text : String) (pos : Nat) (s : List Char) : Prop :=
  ∃ t, t <:+ text.toList ∧ offsetOf text t = pos ∧ Arithmetic.skipBlanks t = Arithmetic.skipBlanks s

def State.before (p : State) (text : String) (s : List Char) : State := { p with pos := offsetOf text s }

section Places

variable {text : String} {pos : Nat} {p : State} {s rest : List Char} {c : Char} {ops : List Operator} {op : Operator}

@[simp] theorem before_pos (p : State) (text : String) (s : List Char) : (p.before text s).pos = offsetOf text s := rfl

theorem at_offsetOf (h : s <:+ text.toList) : At text (offsetOf text s) s := ⟨s, h, rfl, rfl⟩

theorem At.suffix (h : At text pos s) : Arithmetic.skipBlanks s <:+ text.toList := by
  obtain ⟨t, ht, -, hskip⟩ := h
  exact hskip ▸ (List.dropWhile_suffix _).trans ht

theorem At.skip (h : At text pos s) :
    pos + runFrom isAsciiBlank text pos = offsetOf text (Arithmetic.skipBlanks s) := by
  obtain ⟨t, ht, rfl, hskip⟩ := h
  rw [← hskip]
  exact offsetOf_dropWhile toNat_lt_of_isAsciiBlank ht

theorem At.le (h : At text pos s) : pos ≤ offsetOf text (Arithmetic.skipBlanks s) :=
  h.skip ▸ Nat.le_add_right _ _

theorem At.length_le (h : At text pos s) (hrest : rest <:+ text.toList) (hpos : offsetOf text rest ≤ pos) :
    (Arithmetic.skipBlanks s).length ≤ rest.length := by
  obtain ⟨t, ht, rfl, hskip⟩ := h
  have hlength : t.length ≤ rest.length :=
    Nat.not_lt.mp fun hlt => Nat.not_lt.mpr hpos ((offsetOf_lt_iff ht hrest).mpr hlt)
  exact hskip ▸ (List.dropWhile_suffix isAsciiBlank).length_le.trans hlength

theorem At.behind_blanks (h : At text pos s) : At text (offsetOf text (Arithmetic.skipBlanks s)) s :=
  ⟨Arithmetic.skipBlanks s, h.suffix, rfl, List.dropWhile_idempotent isAsciiBlank s⟩

theorem gives_skipBlanks (p : State) (h : At text p.pos s) :
    Gives (skipWhile text isAsciiBlank) p (some ((), p.before text (Arithmetic.skipBlanks s))) := by
  rw [State.before, ← h.skip]
  rfl

theorem gives_step (p : State) (h : c :: rest <:+ text.toList) (hc : c.toNat < 128) :
    Gives (step 1) (p.before text (c :: rest)) (some ((), p.before text rest)) := by
  rw [State.before, State.before, ← offsetOf_add_one h hc]
  rfl

theorem gives_byteAhead (text : String) (p : State) : Gives (byteAhead text) p (some (byteAt? text p.pos, p)) := rfl

theorem gives_operatorAhead (p : State) (h : At text p.pos s) (ops : List Operator) :
    Gives (operatorAhead text ops) p
      (some ((operator? ops s).map Prod.fst, p.before text (Arithmetic.skipBlanks s))) := by
  refine (gives_skipBlanks p h).bind ?_
  have hbyte := byteAt?_bind (fun c => ofChar?_eq_none) h.suffix
  have hoperator : (operator? ops s).map Prod.fst =
      ((Arithmetic.skipBlanks s).head?.bind Operator.ofChar?).filter (· ∈ ops) := by
    rw [operator?]
    cases Arithmetic.skipBlanks s with
    | nil => rfl
    | cons c t => simp [Function.comp_def]
  rw [hoperator, ← hbyte]
  rfl

theorem eq_of_operator? (h : operator? ops s = some (op, rest)) : Arithmetic.skipBlanks s = op.sign :: rest := by
  rw [operator?] at h
  split at h
  · next c t hskip =>
    obtain ⟨op', hop, heq⟩ := Option.map_eq_some_iff.mp h
    obtain ⟨rfl, rfl⟩ := Prod.mk.inj heq
    rw [hskip, Operator.eq_sign_of_ofChar? (Option.filter_eq_some_iff.mp hop).1]
  · cases h

theorem suffix_of_operator? (h : At text pos s) (hop : operator? ops s = some (op, rest)) : rest <:+ text.toList :=
  (List.suffix_cons op.sign rest).trans (eq_of_operator? hop ▸ h.suffix)

theorem gives_step_operator (h : At text p.pos s) (hop : operator? ops s = some (op, rest)) :
    Gives (step 1) (p.before text (Arithmetic.skipBlanks s)) (some ((), p.before text rest)) ∧
      p.pos < offsetOf text rest := by
  have hsuffix := h.suffix
  have hle := h.le
  rw [eq_of_operator? hop] at hsuffix hle ⊢
  have hascii : op.sign.toNat < 128 := by cases op <;> decide
  exact ⟨gives_step p hsuffix hascii, (Nat.lt_succ_of_le hle).trans_eq (offsetOf_add_one hsuffix hascii)⟩

theorem gives_skipWhile (p : State) {q : Char → Bool} (hq : ∀ c, q c = true → c.toNat < 128) (h : s <:+ text.toList) :
    Gives (skipWhile text q) (p.before text s) (some ((), p.before text (s.dropWhile q))) ∧
      byteSlice text (offsetOf text s) (offsetOf text (s.dropWhile q)) = pure (String.ofList (s.takeWhile q)) := by
  have happend : s.takeWhile q ++ s.dropWhile q = s := List.takeWhile_append_dropWhile
  have hsuffix : s.takeWhile q ++ s.dropWhile q <:+ text.toList := by rwa [happend]
  have hslice := byteSlice_of_class hq (fun c hc => List.mem_takeWhile_imp hc) hsuffix
  rw [happend] at hslice
  refine ⟨?_, hslice⟩
  rw [State.before, State.before, ← offsetOf_dropWhile hq h]
  rfl

theorem gives_numeral (p : State) (h : s <:+ text.toList) :
    Gives (numeral text) (p.before text s)
      ((Number.parse? (String.ofList (s.takeWhile isLiteralChar))).map
        (·, p.before text (s.dropWhile isLiteralChar))) := by
  obtain ⟨hskip, hslice⟩ := gives_skipWhile p toNat_lt_of_isLiteralChar h
  refine (gives_get _).bind (hskip.bind ((gives_get _).bind ?_))
  dsimp only [before_pos]
  rw [hslice]
  exact gives_given _ _

theorem gives_closed (h : At text p.pos s) (hs : Arithmetic.skipBlanks s = ')' :: rest) (n : Number) :
    Gives (closed text n) p (some (n, p.before text rest)) ∧ p.pos ≤ offsetOf text rest ∧ rest <:+ text.toList := by
  have hsuffix := h.suffix
  have hle := h.le
  have hskip := gives_skipBlanks p h
  rw [hs] at hsuffix hle hskip
  have hbehind := List.suffix_cons ')' rest
  refine ⟨hskip.bind ((gives_byteAhead text _).bind ?_), hle.trans (offsetOf_le_of_suffix text hbehind),
    hbehind.trans hsuffix⟩
  rw [before_pos, byteAt?_of_lt hsuffix (by decide), if_pos rfl]
  exact (gives_step p hsuffix (by decide)).bind rfl

theorem gives_closed_none (h : At text p.pos s) (hs : (Arithmetic.skipBlanks s).head? ≠ some ')') (n : Number) :
    Gives (closed text n) p none := by
  refine (gives_skipBlanks p h).bind ((gives_byteAhead text _).bind ?_)
  rw [before_pos, if_neg fun hclose => hs ((byteAt?_eq_some_iff h.suffix (by decide)).mp hclose)]
  rfl

end Places

end Stencil.ByOffset.OnePass
