import Stencil.Proofs.ByOffset.Evaluator

/-!
# One pass and the tree

A pass over an expression gives the value of the tree that is read there. What has been read of a tree has the same
value whatever names are met behind it, so the value so far and the names so far stand for the part of the tree so far.
-/
namespace Stencil.ByOffset.OnePass

open Stencil.Text Stencil.Arithmetic

section Values

variable {input : Number} {values : List (Option Number)} {e left : Expr} {met names : List String}

/-- The value of a variable among names that have been met, in the order in which they first were. -/
def look (values : List (Option Number)) (names : List String) (name : String) : Option Number :=
  (names.idxOf? name).bind fun slot => (values[slot]?).join

theorem prefix_names (e : Expr) (met : List String) : met <+: e.names met := by
  induction e generalizing met with
  | number n => exact List.prefix_rfl
  | input => exact List.prefix_rfl
  | var name =>
    rw [Expr.names]
    split
    · exact List.prefix_rfl
    · exact List.prefix_append _ _
  | negate e ih => exact ih met
  | binary op left right ihleft ihright => exact (ihleft met).trans (ihright _)

/-- A name keeps its slot when more names are met. -/
theorem look_of_prefix {name : String} (hname : name ∈ met) (h : met <+: names) :
    look values names name = look values met name := by
  obtain ⟨more, rfl⟩ := h
  have hslot : (met ++ more).idxOf? name = met.idxOf? name := by
    obtain ⟨slot, hslot⟩ := Option.isSome_iff_exists.mp (List.isSome_idxOf?.mpr hname)
    have hfind : met.findIdx? (· == name) = some slot := hslot
    rw [hslot, List.idxOf?, List.findIdx?_append, hfind]
    rfl
  rw [look, hslot, look]

/-- The value of what has been read does not depend on what is read behind it. -/
theorem eval?_of_prefix (h : e.names met <+: names) :
    e.eval? input (look values names) = e.eval? input (look values (e.names met)) := by
  induction e generalizing met names with
  | number n => rfl
  | input => rfl
  | var name =>
    refine look_of_prefix ?_ h
    rw [Expr.names]
    split <;> simp_all
  | negate e ih =>
    rw [Expr.eval?, Expr.eval?, ih h]
    rfl
  | binary op left right ihleft ihright =>
    have hleft := prefix_names right (left.names met)
    rw [Expr.eval?, Expr.eval?, ihright h, ihleft (hleft.trans h), ← ihleft hleft]
    rfl

/-- A tree that begins with another one: the names of that one are met first, and without its value there is none. -/
structure BeginsWith (input : Number) (left e : Expr) : Prop where
  names (met : List String) : left.names met <+: e.names met
  stuck (value? : String → Option Number) : left.eval? input value? = none → e.eval? input value? = none

theorem beginsWith_self (e : Expr) : BeginsWith input e e := ⟨fun _ => List.prefix_rfl, fun _ => id⟩

theorem BeginsWith.of_binary {op : Operator} {right : Expr} (h : BeginsWith input (.binary op left right) e) :
    BeginsWith input left e := by
  refine ⟨fun met => (prefix_names right _).trans (h.names met), fun value? hleft => h.stuck value? ?_⟩
  rw [Expr.eval?, hleft]
  rfl

theorem beginsWith_of_operations {ops : List Operator} {operand : Reader} {steps : Nat} {s rest : List Char}
    (h : operations ops operand steps left s = some (e, rest)) : BeginsWith input left e := by
  induction steps generalizing left s with
  | zero =>
    obtain ⟨rfl, -⟩ := Prod.mk.inj (Option.some.inj h)
    exact beginsWith_self _
  | succ steps ih =>
    rw [operations] at h
    split at h
    · obtain ⟨rfl, -⟩ := Prod.mk.inj (Option.some.inj h)
      exact beginsWith_self _
    · obtain ⟨⟨right, tail⟩, -, hmore⟩ := Option.bind_eq_some_iff.mp h
      exact (ih hmore).of_binary

end Values

section Answers

variable (text : String) (input : Number) (values : List (Option Number))

/-- A tree has the given value, or none, once its names have been met. -/
def Stands (p : State) (e : Expr) (x : Option Number) : Prop :=
  ∀ names, e.names p.names <+: names → e.eval? input (look values names) = x

/-- What a pass that begins at `p` comes to, by what is read of the tree there: it stops where nothing is read or where
the tree has no value, and else has the value and stands behind what is read. -/
def Answers (p : State) : Option (Expr × List Char) → Option (Number × State) → Prop
  | none, r => r = none
  | some (e, rest), r =>
    Stands input values p e (r.map Prod.fst) ∧
      ∀ n q, r = some (n, q) → p.pos ≤ q.pos ∧ At text q.pos rest ∧ q.names = e.names p.names ∧ q.depth = p.depth

/-- At one depth a pass does what a reader reads, wherever it begins. -/
def Follows (reader : Reader) (m : Pass Number) (depth : Nat) : Prop :=
  ∀ p s, p.depth = depth → At text p.pos s → ∃ r, Gives m p r ∧ Answers text input values p (reader s) r

variable {text input values} {reader : Reader} {m : Pass Number} {p q : State} {depth : Nat} {e left : Expr}
  {s rest : List Char} {ops : List Operator} {op : Operator} {n : Number} {r : Option (Number × State)}
  {read : Option (Expr × List Char)}

theorem answers_beginsWith (h : Stands input values p left none)
    (hread : ∀ e rest, read = some (e, rest) → BeginsWith input left e) : Answers text input values p read none := by
  cases read with
  | none => rfl
  | some read =>
    have hbegins := hread read.1 read.2 rfl
    exact ⟨fun names hnames => hbegins.stuck _ (h names ((hbegins.names _).trans hnames)), nofun⟩

theorem answers_behind (hat : At text p.pos rest) {x : Option Number} (hvalue : Stands input values p e x) :
    Answers text input values p (some (e, rest)) (x.map (·, { p with names := e.names p.names })) := by
  constructor
  · intro names hnames
    rw [hvalue names hnames, Option.map_map]
    exact Option.map_id'.symm
  · rintro n q heq
    obtain ⟨n', -, hq⟩ := Option.map_eq_some_iff.mp heq
    obtain ⟨rfl, rfl⟩ := Prod.mk.inj hq
    exact ⟨Nat.le_refl _, hat, rfl, rfl⟩

theorem Answers.of_le (h : Answers text input values q read r) (hnames : q.names = p.names) (hpos : p.pos ≤ q.pos)
    (hdepth : q.depth = p.depth) : Answers text input values p read r := by
  cases read with
  | none => exact h
  | some read =>
    obtain ⟨hvalue, hplace⟩ := h
    rw [Stands, hnames] at hvalue
    rw [hnames] at hplace
    refine ⟨hvalue, fun n q' heq => ?_⟩
    obtain ⟨hle, hat, hmet, hsame⟩ := hplace n q' heq
    exact ⟨hpos.trans hle, hat, hmet, hsame.trans hdepth⟩

/-- What an operation gives for a value and the result of a pass. -/
def applied (op : Operator) (n : Number) (r : Option (Number × State)) : Option (Number × State) :=
  r.bind fun (w, q) => (Number.combine? op n w).map (·, q)

theorem exists_of_applied {u : Number} (h : applied op n r = some (u, q)) : ∃ w, r = some (w, q) := by
  obtain ⟨⟨w, q'⟩, rfl, hmap⟩ := Option.bind_eq_some_iff.mp h
  obtain ⟨u', -, heq⟩ := Option.map_eq_some_iff.mp hmap
  obtain ⟨-, rfl⟩ := Prod.mk.inj heq
  exact ⟨w, rfl⟩

theorem gives_applied (hm : Gives m p r) : Gives (m >>= fun w => given (Number.combine? op n w)) p (applied op n r) := by
  cases r with
  | none => exact hm.stop _
  | some r => exact hm.bind (gives_given _ _)

theorem Answers.binary (op : Operator) {right : Expr} (h : Answers text input values q (some (right, rest)) r)
    (hleft : Stands input values p left (some n)) (hnames : q.names = left.names p.names) (hpos : p.pos ≤ q.pos)
    (hdepth : q.depth = p.depth) :
    Answers text input values p (some (.binary op left right, rest)) (applied op n r) := by
  obtain ⟨hvalue, hplace⟩ := h
  rw [Stands, hnames] at hvalue
  rw [hnames] at hplace
  constructor
  · intro names hprefix
    rw [Expr.eval?, hleft names ((prefix_names right _).trans hprefix), hvalue names hprefix]
    cases r with
    | none => rfl
    | some r => simp [applied, Function.comp_def]
  · intro u q' hu
    obtain ⟨w, rfl⟩ := exists_of_applied hu
    obtain ⟨hle, hat, hmet, hsame⟩ := hplace w q' rfl
    exact ⟨hpos.trans hle, hat, hmet, hsame.trans hdepth⟩

theorem gives_another_none (hat : At text p.pos s) (hop : operator? ops s = none) (n : Number) :
    Gives (another text ops m n) p (some (none, p.before text (Arithmetic.skipBlanks s))) := by
  refine (gives_operatorAhead p hat ops).bind ?_
  rw [hop]
  rfl

theorem gives_another (hat : At text p.pos s) (hop : operator? ops s = some (op, rest)) (n : Number)
    (hm : Gives m (p.before text rest) r) :
    Gives (another text ops m n) p ((applied op n r).map fun (u, q) => (some u, q)) := by
  refine (gives_operatorAhead p hat ops).bind ?_
  rw [hop, Option.map_some]
  refine (gives_step_operator hat hop).1.bind ?_
  cases r with
  | none => exact hm.stop _
  | some r =>
    obtain ⟨w, q⟩ := r
    refine hm.bind ?_
    rw [applied, Option.bind_some, Option.map_map]
    exact gives_given_bind _ some q

theorem loop_operandRound_none (hat : At text q.pos s) (hpos : p.pos ≤ q.pos) (hnames : q.names = left.names p.names)
    (hdepth : q.depth = p.depth) (hop : operator? ops s = none) (hleft : Stands input values p left (some n)) :
    ∃ r, loop text (operandRound text ops m) q.pos (n, q.names, q.depth) = pure r ∧
      Answers text input values p (some (left, s)) r := by
  refine ⟨some (n, q.before text (Arithmetic.skipBlanks s)), loop_done ?_, hleft, ?_⟩
  · rw [operandRound, gives_another_none hat hop n]
    rfl
  · rintro n' q' heq
    obtain ⟨rfl, rfl⟩ := Prod.mk.inj (Option.some.inj heq)
    exact ⟨hpos.trans hat.le, hat.behind_blanks, hnames, hdepth⟩

theorem operandRound_eq (hat : At text p.pos s) (hop : operator? ops s = some (op, rest)) (n : Number)
    (hm : Gives m (p.before text rest) r) :
    operandRound text ops m p.pos (n, p.names, p.depth) =
      pure ((applied op n r).elim (.done none) fun (u, q) => .again q.pos (u, q.names, q.depth)) := by
  rw [operandRound, gives_another hat hop n hm]
  cases applied op n r <;> rfl

/-- The loop over further operands, where `left` is what has been read and `n` its value. -/
theorem loop_operandRound (hm : Follows text input values reader m p.depth) {steps : Nat} (hat : At text q.pos s)
    (hsteps : (Arithmetic.skipBlanks s).length ≤ steps) (hpos : p.pos ≤ q.pos) (hnames : q.names = left.names p.names)
    (hdepth : q.depth = p.depth) (hleft : Stands input values p left (some n)) :
    ∃ r, loop text (operandRound text ops m) q.pos (n, q.names, q.depth) = pure r ∧
      Answers text input values p (operations ops reader steps left s) r := by
  induction steps generalizing left n q s with
  | zero =>
    have hop : operator? ops s = none := by
      rw [operator?, List.length_eq_zero_iff.mp (Nat.le_zero.mp hsteps)]
    exact loop_operandRound_none hat hpos hnames hdepth hop hleft
  | succ steps ih =>
    rw [operations]
    cases hop : operator? ops s with
    | none => exact loop_operandRound_none hat hpos hnames hdepth hop hleft
    | some found =>
      obtain ⟨op, behind⟩ := found
      have hbehind := suffix_of_operator? hat hop
      have hmoved := (gives_step_operator hat hop).2
      obtain ⟨r, hgives, hanswers⟩ := hm (q.before text behind) behind hdepth (at_offsetOf hbehind)
      have hround := operandRound_eq hat hop n hgives
      cases hread : reader behind with
      | none =>
        obtain rfl : r = none := by rwa [hread] at hanswers
        exact ⟨none, loop_done hround, by simp [hread, Answers]⟩
      | some read =>
        obtain ⟨right, tail⟩ := read
        rw [hread] at hanswers
        have hbinary := hanswers.binary op hleft hnames (hpos.trans hmoved.le) hdepth
        simp only [hread, Option.bind_some]
        cases happlied : applied op n r with
        | none =>
          rw [happlied] at hround hbinary
          exact ⟨none, loop_done hround, answers_beginsWith hbinary.1 fun e rest => beginsWith_of_operations⟩
        | some result =>
          obtain ⟨u, q'⟩ := result
          rw [happlied] at hround hbinary
          obtain ⟨hfar, htail, hnames', hdepth'⟩ := hbinary.2 u q' rfl
          obtain ⟨w, rfl⟩ := exists_of_applied happlied
          have hpast : offsetOf text behind ≤ q'.pos := (hanswers.2 w q' rfl).1
          have hlength := htail.length_le hbehind hpast
          have hsize := offsetOf_le text behind
          rw [eq_of_operator? hop, List.length_cons] at hsteps
          rw [loop_again hround (by omega) (by omega)]
          exact ih htail (by omega) hfar hnames' hdepth' hbinary.1

/-- A reader that goes on behind what another one has read. -/
theorem Follows.andThen (h : Follows text input values reader m depth) (next : Expr → Reader) {k : Number → Pass Number}
    (hbegins : ∀ left s e rest, next left s = some (e, rest) → BeginsWith input left e)
    (hnext : ∀ (p q : State) n left rest, p.depth = depth → q.depth = depth → p.pos ≤ q.pos → At text q.pos rest →
      q.names = left.names p.names → Stands input values p left (some n) →
        ∃ r, Gives (k n) q r ∧ Answers text input values p (next left rest) r) :
    Follows text input values (fun s => (reader s).bind fun (left, rest) => next left rest) (m >>= k) depth := by
  intro p s hp hat
  obtain ⟨r, hgives, hanswers⟩ := h p s hp hat
  dsimp only
  cases hread : reader s with
  | none =>
    obtain rfl : r = none := by rwa [hread] at hanswers
    exact ⟨none, hgives.stop _, rfl⟩
  | some read =>
    obtain ⟨left, rest⟩ := read
    rw [hread] at hanswers
    cases r with
    | none => exact ⟨none, hgives.stop _, answers_beginsWith hanswers.1 fun e tail heq => hbegins left rest e tail heq⟩
    | some result =>
      obtain ⟨n, q⟩ := result
      obtain ⟨hle, hrest, hnames, hdepth⟩ := hanswers.2 n q rfl
      obtain ⟨r, hgives', hanswers'⟩ := hnext p q n left rest hp (hdepth.trans hp) hle hrest hnames hanswers.1
      exact ⟨r, hgives.bind hgives', hanswers'⟩

theorem Follows.leftward (h : Follows text input values reader m depth) (ops : List Operator) :
    Follows text input values (Arithmetic.leftward ops reader) (leftward text ops m) depth := by
  refine h.andThen (fun left rest => operations ops reader rest.length left rest)
    (fun left s e rest => beginsWith_of_operations) fun p q n left rest hp hq hle hrest hnames hleft => ?_
  subst hp
  exact loop_operandRound h hrest (List.dropWhile_suffix isAsciiBlank).length_le hle hnames hq hleft

theorem Follows.sum (h : Follows text input values reader m depth) :
    Follows text input values (sums reader) (sum text m) depth := (h.leftward _).leftward _

theorem gives_nested (hdepth : p.depth < maxNesting) (h : Gives m { p with depth := p.depth + 1 } r)
    (hr : ∀ n q, r = some (n, q) → q.depth = p.depth + 1) :
    Gives (nested m) p (r.map fun (n, q) => (n, { q with depth := p.depth })) := by
  refine (gives_get p).bind ?_
  rw [if_pos hdepth]
  refine (gives_set _ _).bind ?_
  cases r with
  | none => exact h.stop _
  | some result =>
    obtain ⟨n, q⟩ := result
    have hq := hr n q rfl
    have hback : q.depth - 1 = p.depth := by omega
    have hminus := gives_minus (show 1 ≤ q.depth by omega) q
    rw [hback] at hminus
    exact h.bind ((gives_get q).bind (hminus.bind rfl))

/-- Where no level is left the reader must refuse. -/
theorem Follows.nested (h : depth < maxNesting → Follows text input values reader m (depth + 1))
    (hrefuses : ¬depth < maxNesting → ∀ s, reader s = none) : Follows text input values reader (nested m) depth := by
  rintro p s rfl hat
  by_cases hdepth : p.depth < maxNesting
  · obtain ⟨r, hgives, hanswers⟩ := h hdepth { p with depth := p.depth + 1 } s rfl hat
    cases hread : reader s with
    | none =>
      obtain rfl : r = none := by rwa [hread] at hanswers
      exact ⟨none, gives_nested hdepth hgives nofun, rfl⟩
    | some read =>
      obtain ⟨e, rest⟩ := read
      rw [hread] at hanswers
      refine ⟨_, gives_nested hdepth hgives fun n q heq => (hanswers.2 n q heq).2.2.2, ?_, ?_⟩
      · intro names hnames
        rw [hanswers.1 names hnames, Option.map_map]
        rfl
      · rintro n q heq
        obtain ⟨⟨n', q'⟩, rfl, hq⟩ := Option.map_eq_some_iff.mp heq
        obtain ⟨rfl, rfl⟩ := Prod.mk.inj hq
        obtain ⟨hle, hat', hnames, -⟩ := hanswers.2 n' q' rfl
        exact ⟨hle, hat', hnames, rfl⟩
  · refine ⟨none, (gives_get p).bind ?_, by rw [hrefuses hdepth s]; rfl⟩
    rw [if_neg hdepth]
    rfl

end Answers

section Atoms

variable {text : String} {input : Number} {values : List (Option Number)} {reader : Reader} {m : Pass Number}
  {p : State} {depth : Nat} {s rest : List Char} {c : Char}

theorem gives_valueOf_var {name : String} (hname : name ≠ "x") (p : State) :
    Gives (valueOf input values name) p ((look values ((Expr.var name).names p.names) name).map
      (·, { p with names := (Expr.var name).names p.names })) := by
  rw [valueOf, if_neg hname, Expr.names]
  refine (gives_get p).bind ?_
  cases hslot : p.names.idxOf? name with
  | some slot =>
    have hmem : name ∈ p.names := List.isSome_idxOf?.mp (by rw [hslot]; rfl)
    rw [if_pos hmem, look, hslot]
    exact gives_given _ p
  | none =>
    have hmem : name ∉ p.names := fun h => by simpa [hslot] using List.isSome_idxOf?.mpr h
    have hfind : p.names.findIdx? (· == name) = none := hslot
    have hlast : (p.names ++ [name]).idxOf? name = some ((p.names ++ [name]).length - 1) := by
      rw [List.idxOf?, List.findIdx?_append, hfind]
      simp
    rw [if_neg hmem, look, hlast]
    exact (gives_set _ _).bind ((gives_minus (by simp) _).bind (gives_given _ _))

theorem gives_valueOf (cs : List Char) (hat : At text p.pos rest) :
    ∃ r, Gives (valueOf input values (String.ofList cs)) p r ∧
      Answers text input values p (some (variableOf cs, rest)) r := by
  rw [variableOf]
  split
  · next hx =>
    subst hx
    have hinput : Answers text input values p (some (.input, rest)) ((some input).map (·, p)) :=
      answers_behind hat fun _ _ => rfl
    exact ⟨_, rfl, hinput⟩
  · next hx =>
    have hname : String.ofList cs ≠ "x" := fun h => hx (by rw [← String.toList_ofList (l := cs), h]; rfl)
    exact ⟨_, gives_valueOf_var hname p, answers_behind hat fun names hnames => eval?_of_prefix hnames⟩

theorem gives_name (p : State) (h : s <:+ text.toList) :
    ∃ r, Gives (name text input values) (p.before text s) r ∧ Answers text input values (p.before text s)
      (some (variableOf (s.takeWhile isNameChar), s.dropWhile isNameChar)) r := by
  obtain ⟨hskip, hslice⟩ := gives_skipWhile p toNat_lt_of_isNameChar h
  have hsuffix := List.dropWhile_suffix isNameChar (l := s)
  have hat : At text (p.before text (s.dropWhile isNameChar)).pos (s.dropWhile isNameChar) :=
    at_offsetOf (hsuffix.trans h)
  obtain ⟨r, hgives, hanswers⟩ := gives_valueOf (s.takeWhile isNameChar) hat
  refine ⟨r, (gives_get _).bind (hskip.bind ((gives_get _).bind ?_)),
    hanswers.of_le rfl (offsetOf_le_of_suffix text hsuffix) rfl⟩
  dsimp only [before_pos]
  rw [hslice]
  exact hgives

def inParentheses (reader : Reader) (rest : List Char) : Option (Expr × List Char) :=
  (reader rest).bind fun (e, after) =>
    match Arithmetic.skipBlanks after with
    | ')' :: tail => some (e, tail)
    | _ => none

theorem gives_begunWith_parenthesis (hm : Follows text input values reader m depth) (hdepth : p.depth = depth)
    (h : '(' :: rest <:+ text.toList) :
    ∃ r, Gives (begunWith text input values m '(') (p.before text ('(' :: rest)) r ∧
      Answers text input values (p.before text ('(' :: rest)) (inParentheses reader rest) r := by
  have hsuffix := List.suffix_cons '(' rest
  have hle := offsetOf_le_of_suffix text hsuffix
  have hstep := gives_step p h (by decide)
  obtain ⟨r, hgives, hanswers⟩ := hm (p.before text rest) rest hdepth (at_offsetOf (hsuffix.trans h))
  rw [inParentheses]
  cases hread : reader rest with
  | none =>
    obtain rfl : r = none := by rwa [hread] at hanswers
    exact ⟨none, hstep.bind (hgives.stop _), rfl⟩
  | some read =>
    obtain ⟨e, after⟩ := read
    rw [hread] at hanswers
    simp only [Option.bind_some]
    cases r with
    | none =>
      refine ⟨none, hstep.bind (hgives.stop _), answers_beginsWith hanswers.1 fun e' tail heq => ?_⟩
      split at heq
      · obtain ⟨rfl, -⟩ := Prod.mk.inj (Option.some.inj heq)
        exact beginsWith_self _
      · cases heq
    | some result =>
      obtain ⟨n, q⟩ := result
      obtain ⟨hpos, hafter, hnames, hdepth⟩ := hanswers.2 n q rfl
      split
      · next tail htail =>
        obtain ⟨hclosed, hbehind, htext⟩ := gives_closed hafter htail n
        refine ⟨_, hstep.bind (hgives.bind hclosed), hanswers.1, ?_⟩
        rintro n' q' heq
        obtain ⟨rfl, rfl⟩ := Prod.mk.inj (Option.some.inj heq)
        exact ⟨hle.trans (hpos.trans hbehind), at_offsetOf htext, hnames, hdepth⟩
      · next hopen =>
        refine ⟨none, hstep.bind (hgives.bind (gives_closed_none hafter (fun hclose => ?_) n)), rfl⟩
        obtain ⟨tail, htail⟩ := List.head?_eq_some_iff.mp hclose
        exact hopen tail htail

theorem atom_eq (hs : Arithmetic.skipBlanks s = c :: rest) :
    Arithmetic.atom reader s =
      if c = '(' then inParentheses reader rest
      else if isLiteralChar c then
        (Number.parse? (String.ofList ((c :: rest).takeWhile isLiteralChar))).map fun n =>
          (.number n, (c :: rest).dropWhile isLiteralChar)
      else if c = '$' then some (variableOf (rest.takeWhile isNameChar), rest.dropWhile isNameChar)
      else if isNameStart c then
        some (variableOf ((c :: rest).takeWhile isNameChar), (c :: rest).dropWhile isNameChar)
      else none := by
  rw [Arithmetic.atom, hs]
  dsimp only
  split
  · rfl
  split
  · next hliteral =>
    have hc : isLiteralChar c = true := by simpa [isLiteralChar] using hliteral
    rw [if_pos hc, List.takeWhile_cons_of_pos hc, List.dropWhile_cons_of_pos hc]
    rfl
  · next hliteral =>
    have hc : ¬isLiteralChar c = true := by simpa [isLiteralChar] using hliteral
    rw [if_neg hc]
    split
    · rfl
    split
    · next hstart =>
      have hname := isNameChar_of_isNameStart hstart
      rw [List.takeWhile_cons_of_pos hname, List.dropWhile_cons_of_pos hname]
    · rfl

theorem gives_begunWith (hm : Follows text input values reader m depth) (hdepth : p.depth = depth)
    (h : c :: rest <:+ text.toList) (hs : Arithmetic.skipBlanks s = c :: rest) :
    ∃ r, Gives (begunWith text input values m c) (p.before text (c :: rest)) r ∧
      Answers text input values (p.before text (c :: rest)) (Arithmetic.atom reader s) r := by
  rw [atom_eq hs]
  split
  · next hparenthesis =>
    subst hparenthesis
    exact gives_begunWith_parenthesis hm hdepth h
  next hparenthesis =>
  rw [begunWith, if_neg hparenthesis]
  split
  · next hliteral =>
    refine ⟨_, gives_numeral p h, ?_⟩
    cases Number.parse? (String.ofList ((c :: rest).takeWhile isLiteralChar)) with
    | none => rfl
    | some n =>
      have hsuffix := List.dropWhile_suffix isLiteralChar (l := c :: rest)
      have hstands : Stands input values (p.before text ((c :: rest).dropWhile isLiteralChar)) (.number n) (some n) :=
        fun _ _ => rfl
      exact (answers_behind (at_offsetOf (hsuffix.trans h)) hstands).of_le rfl (offsetOf_le_of_suffix text hsuffix) rfl
  split
  · next hdollar =>
    subst hdollar
    have hsuffix := List.suffix_cons '$' rest
    obtain ⟨r, hgives, hanswers⟩ := gives_name p (hsuffix.trans h)
    exact ⟨r, (gives_step p h (by decide)).bind hgives, hanswers.of_le rfl (offsetOf_le_of_suffix text hsuffix) rfl⟩
  split
  · exact gives_name p h
  · exact ⟨none, rfl, rfl⟩

/-- A byte that begins nothing lies ahead where a character does that begins nothing. -/
theorem Follows.atom (hm : Follows text input values reader m depth) :
    Follows text input values (Arithmetic.atom reader) (atom text input values m) depth := by
  intro p s hdepth hat
  have hskip := gives_skipBlanks p hat
  have hsuffix := hat.suffix
  have hle := hat.le
  cases hs : Arithmetic.skipBlanks s with
  | nil =>
    have hnone : byteAt? text (p.before text (Arithmetic.skipBlanks s)).pos = none := by
      rw [before_pos, hs, offsetOf_nil]
      exact byteAt?_eq_none_iff.mpr (Nat.le_refl _)
    refine ⟨none, hskip.bind ((gives_byteAhead text _).bind ?_), by rw [Arithmetic.atom, hs]; rfl⟩
    rw [hnone]
    rfl
  | cons c rest =>
    rw [hs] at hskip hsuffix hle
    rcases Nat.lt_or_ge c.toNat 128 with hlow | hhigh
    · obtain ⟨r, hgives, hanswers⟩ := gives_begunWith hm hdepth hsuffix hs
      refine ⟨r, hskip.bind ((gives_byteAhead text _).bind ?_), hanswers.of_le rfl hle rfl⟩
      rw [before_pos, byteAt?_of_lt hsuffix hlow]
      exact hgives
    · obtain ⟨b, hb, hbyte⟩ := exists_byteAt?_of_le hsuffix hhigh c.utf8Size_pos
      obtain ⟨hparenthesis, hliteral, hdollar, hname⟩ := foreign hbyte
      obtain ⟨hparenthesis', hliteral', hdollar', hname'⟩ := foreign hhigh
      refine ⟨none, hskip.bind ((gives_byteAhead text _).bind ?_), ?_⟩
      · rw [Nat.add_zero] at hb
        rw [before_pos, hb]
        dsimp only
        rw [begunWith, if_neg hparenthesis, if_neg hliteral, if_neg hdollar, if_neg hname]
        rfl
      · rw [atom_eq hs, if_neg hparenthesis', if_neg hliteral', if_neg hdollar', if_neg hname']
        rfl

end Atoms

section Levels

variable {text : String} {input : Number} {values : List (Option Number)} {reader reader' : Reader}
  {m m' : Pass Number} {depth : Nat}

theorem Follows.power (hbase : Follows text input values reader m depth)
    (hexponent : Follows text input values reader' m' depth) :
    Follows text input values
      (fun s => (reader s).bind fun (base, rest) =>
        match operator? [.pow] rest with
        | none => some (base, rest)
        | some (op, rest') => (reader' rest').map fun (e, tail) => (.binary op base e, tail))
      (do
        let base ← m
        match ← operatorAhead text [.pow] with
        | none => return base
        | some op =>
          step 1
          let exponent ← m'
          given (Number.combine? op base exponent)) depth := by
  refine hbase.andThen (fun base rest =>
    match operator? [.pow] rest with
    | none => some (base, rest)
    | some (op, rest') => (reader' rest').map fun (e, tail) => (.binary op base e, tail)) ?_ ?_
  · intro base s e rest heq
    split at heq
    · obtain ⟨rfl, -⟩ := Prod.mk.inj (Option.some.inj heq)
      exact beginsWith_self _
    · obtain ⟨⟨exponent, tail⟩, -, hmap⟩ := Option.map_eq_some_iff.mp heq
      obtain ⟨rfl, -⟩ := Prod.mk.inj hmap
      exact (beginsWith_self _).of_binary
  · intro p q n base rest hp hq hle hrest hnames hvalue
    have hahead := gives_operatorAhead q hrest [.pow]
    have hsame := hq.trans hp.symm
    cases hop : operator? [.pow] rest with
    | none =>
      rw [hop] at hahead
      refine ⟨_, hahead.bind rfl, hvalue, ?_⟩
      rintro n' q' heq
      obtain ⟨rfl, rfl⟩ := Prod.mk.inj (Option.some.inj heq)
      exact ⟨hle.trans hrest.le, hrest.behind_blanks, hnames, hsame⟩
    | some found =>
      obtain ⟨op, behind⟩ := found
      rw [hop] at hahead
      obtain ⟨hstep, hmoved⟩ := gives_step_operator hrest hop
      obtain ⟨r, hgives, hanswers⟩ :=
        hexponent (q.before text behind) behind hq (at_offsetOf (suffix_of_operator? hrest hop))
      refine ⟨_, hahead.bind (hstep.bind (gives_applied hgives)), ?_⟩
      cases hread : reader' behind with
      | none =>
        obtain rfl : r = none := by rwa [hread] at hanswers
        simp only [hread]
        rfl
      | some read =>
        rw [hread] at hanswers
        simp only [hread]
        exact hanswers.binary op hvalue hnames (hle.trans hmoved.le) hsame

theorem Follows.signed (hsigned : Follows text input values reader m depth)
    (hatom : Follows text input values reader' m' depth) :
    Follows text input values
      (fun s => match operator? [.add, .sub] s with
        | some (.sub, rest) => (reader rest).map fun (e, tail) => (.negate e, tail)
        | some (_, rest) => reader rest
        | none => reader' s)
      (do
        match ← operatorAhead text [.add, .sub] with
        | some .sub =>
          step 1
          let operand ← m
          given (Number.combine? .sub (.int 0) operand)
        | some _ =>
          step 1
          m
        | none => m') depth := by
  intro p s hdepth hat
  have hahead := gives_operatorAhead p hat [.add, .sub]
  dsimp only
  cases hop : operator? [.add, .sub] s with
  | none =>
    rw [hop] at hahead
    obtain ⟨r, hgives, hanswers⟩ := hatom (p.before text (Arithmetic.skipBlanks s)) s hdepth hat.behind_blanks
    exact ⟨r, hahead.bind hgives, hanswers.of_le rfl hat.le rfl⟩
  | some found =>
    obtain ⟨op, behind⟩ := found
    rw [hop] at hahead
    obtain ⟨hstep, hmoved⟩ := gives_step_operator hat hop
    obtain ⟨r, hgives, hanswers⟩ :=
      hsigned (p.before text behind) behind hdepth (at_offsetOf (suffix_of_operator? hat hop))
    cases op with
    | sub =>
      refine ⟨_, hahead.bind (hstep.bind (gives_applied hgives)), ?_⟩
      dsimp only
      cases hread : reader behind with
      | none =>
        obtain rfl : r = none := by rwa [hread] at hanswers
        rfl
      | some read =>
        rw [hread] at hanswers
        have hzero : Stands input values p (.number (.int 0)) (some (.int 0)) := fun _ _ => rfl
        exact hanswers.binary .sub hzero rfl hmoved.le rfl
    | add | mul | div | rem | pow => exact ⟨r, hahead.bind (hstep.bind hgives), hanswers.of_le rfl hmoved.le rfl⟩

/-- By induction on the levels that are left: the depth is one more where there is one level less. -/
theorem follows_level (text : String) (input : Number) (values : List (Option Number)) (room depth : Nat)
    (h : room + depth = maxNesting) :
    Follows text input values (Arithmetic.power room) (power text input values (room + 1)) depth ∧
      Follows text input values (Arithmetic.signed room) (signed text input values (room + 1)) depth := by
  induction room generalizing depth with
  | zero =>
    constructor
    · rw [OnePass.power]
      exact .nested (fun hlt => by omega) fun _ s => by rw [Arithmetic.power]
    · rw [OnePass.signed]
      exact .nested (fun hlt => by omega) fun _ s => by rw [Arithmetic.signed]
  | succ room ih =>
    obtain ⟨hpower, hsigned⟩ := ih (depth + 1) (by omega)
    constructor
    · rw [OnePass.power]
      exact .nested (fun _ => hsigned.power hpower) fun hfull => by omega
    · rw [OnePass.signed]
      exact .nested (fun _ => hsigned.signed hpower.sum.atom) fun hfull => by omega

/-- The value that is found in one pass is that of the tree that is read. -/
theorem evaluate?_eq (text : String) (input : Number) (values : List (Option Number)) :
    evaluate? text input values = pure (Arithmetic.evaluate? text input values) := by
  have hsum := (follows_level text input values maxNesting 0 rfl).1.sum
  have hstart := at_offsetOf (List.suffix_refl text.toList)
  rw [offsetOf_toList] at hstart
  obtain ⟨r, hgives, hanswers⟩ := hsum ⟨0, [], 0⟩ text.toList rfl hstart
  rw [evaluate?, hgives, pure_bind, Arithmetic.evaluate?, parse?]
  cases hread : sums (Arithmetic.power maxNesting) text.toList with
  | none =>
    obtain rfl : r = none := by rwa [hread] at hanswers
    rfl
  | some read =>
    obtain ⟨e, rest⟩ := read
    rw [hread] at hanswers
    have hvalue : e.eval? input (look values (e.names [])) = r.map Prod.fst := hanswers.1 _ List.prefix_rfl
    cases r with
    | none =>
      dsimp only
      split
      · exact congrArg pure hvalue.symm
      · rfl
    | some result =>
      obtain ⟨n, q⟩ := result
      obtain ⟨-, hrest, -, -⟩ := hanswers.2 n q rfl
      have hend : q.pos + runFrom isAsciiBlank text q.pos < text.utf8ByteSize ↔ Arithmetic.skipBlanks rest ≠ [] := by
        rw [hrest.skip]
        refine ⟨fun hlt hnil => ?_, offsetOf_lt_size hrest.suffix⟩
        rw [hnil, offsetOf_nil] at hlt
        exact Nat.lt_irrefl _ hlt
      dsimp only
      split
      · next hmore =>
        rw [if_neg (hend.mp hmore)]
        rfl
      · next hdone =>
        rw [if_pos (not_not.mp fun hne => hdone (hend.mpr hne))]
        exact congrArg pure hvalue.symm

end Levels

end Stencil.ByOffset.OnePass
