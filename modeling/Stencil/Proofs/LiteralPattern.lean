import Mathlib.Data.List.Forall2
import Stencil.Proofs.Bracket
import Stencil.Proofs.LiteralProgram
import Stencil.Tag.Condition

/-!
# Patterns of escaped texts

A text that is escaped and put between anchors is read as the sequence of its characters, and the pattern
that it is compiled to matches the text and no other.
-/
namespace Stencil.Pattern

open Stencil.Text Stencil.Unicode Stencil.Tag

def isSafe (c : Char) : Bool := c.isAlphanum || c == ' ' || c == '<' || c == '>' || 128 ≤ c.toNat

theorem escapeLiteral_cons (c : Char) (w : List Char) :
    escapeLiteral (c :: w) = (if isSafe c then [c] else ['\\', c]) ++ escapeLiteral w := rfl

theorem isSafe_ne {c : Char} (h : isSafe c = true) :
    c ∉ ['\\', '.', '^', '$', '(', ')', '|', '[', '?', '*', '+', '\x7b'] :=
  not_mem_of_class h (by decide)

theorem isEscapable_of_not_safe {c : Char} (h : isSafe c = false) : isEscapable c = true := by
  simp only [isSafe, Bool.or_eq_false_iff, beq_eq_false_iff_ne, decide_eq_false_iff_not] at h
  simp only [isEscapable, Bool.and_eq_true, decide_eq_true_eq, Bool.not_eq_true', bne_iff_ne]
  obtain ⟨⟨⟨⟨hal, -⟩, hlt⟩, hgt⟩, hn⟩ := h
  exact ⟨⟨⟨by omega, hal⟩, hlt⟩, hgt⟩

variable {l : Level} {naming : Naming} {place : Place} {rest : List Char}

theorem primitive_safe {c : Char} (hc : isSafe c = true) :
    primitive ⟨c :: rest, place, false⟩ =
      .ok (.literal ⟨c, false, ⟨place, place.after c⟩⟩, ⟨rest, place.after c, false⟩) := by
  have hne := isSafe_ne hc
  have hpeek : Source.peek? ⟨c :: rest, place, false⟩ = some c := rfl
  unfold primitive
  rw [hpeek]
  split
  · next h => exact absurd (Option.some.inj h) (by rintro rfl; simp at hne)
  · next h => exact absurd (Option.some.inj h) (by rintro rfl; simp at hne)
  · next h => exact absurd (Option.some.inj h) (by rintro rfl; simp at hne)
  · next h => exact absurd (Option.some.inj h) (by rintro rfl; simp at hne)
  · next h =>
    obtain rfl := Option.some.inj h
    rfl
  · next h => simp at h

theorem termRest_primitive {c : Char} {t : Term} {after : Source}
    (hc : c ∉ ['(', ')', '|', '[', '?', '*', '+', '\x7b'])
    (h : primitive ⟨c :: rest, place, false⟩ = .ok (t, after)) (fuel : ℕ) :
    termRest l [] naming (fuel + 1) ⟨c :: rest, place, false⟩ =
      termRest (l.add place t) [] naming fuel after := by
  have hskip : Source.skip ⟨c :: rest, place, false⟩ = ⟨c :: rest, place, false⟩ := rfl
  have hpeek : Source.peek? ⟨c :: rest, place, false⟩ = some c := rfl
  rw [termRest]
  dsimp only
  rw [hskip, hpeek]
  split
  · next h => simp at h
  · next h => exact absurd (Option.some.inj h) (by rintro rfl; simp at hc)
  · next h => exact absurd (Option.some.inj h) (by rintro rfl; simp at hc)
  · next h => exact absurd (Option.some.inj h) (by rintro rfl; simp at hc)
  · next h => exact absurd (Option.some.inj h) (by rintro rfl; simp at hc)
  · next h => exact absurd (Option.some.inj h) (by rintro rfl; simp at hc)
  · next h => exact absurd (Option.some.inj h) (by rintro rfl; simp at hc)
  · next h => exact absurd (Option.some.inj h) (by rintro rfl; simp at hc)
  · next h => exact absurd (Option.some.inj h) (by rintro rfl; simp at hc)
  · rw [h]
    rfl

theorem termRest_safe {c : Char} (hc : isSafe c = true) (fuel : ℕ) :
    termRest l [] naming (fuel + 1) ⟨c :: rest, place, false⟩ =
      termRest (l.add place (.literal ⟨c, false, ⟨place, place.after c⟩⟩)) [] naming fuel
        ⟨rest, place.after c, false⟩ := by
  have hne := isSafe_ne hc
  exact termRest_primitive (by grind) (primitive_safe hc) fuel

theorem escape_escapable {c : Char} (hc : isSafe c = false) :
    escape ⟨'\\' :: c :: rest, place, false⟩ =
      .ok (.literal ⟨c, false, ⟨place, (place.after '\\').after c⟩⟩,
        ⟨rest, (place.after '\\').after c, false⟩) := by
  have hescapable := isEscapable_of_not_safe hc
  have halnum : c.isAlphanum = false := by
    simp only [isSafe, Bool.or_eq_false_iff] at hc
    exact hc.1.1.1.1
  have hdigit : c.isDigit = false := by
    rw [Char.isAlphanum, Bool.or_eq_false_iff] at halnum
    exact halnum.2
  have hletter : ∀ d ∈ ['x', 'u', 'U', 'p', 'P'], c ≠ d := by
    rintro d hd rfl
    simp only [List.mem_cons, List.not_mem_nil, or_false] at hd
    rcases hd with rfl | rfl | rfl | rfl | rfl <;> exact absurd halnum (by decide)
  have hx : ¬(c = 'x' ∨ c = 'u' ∨ c = 'U') := by
    simpa using ⟨hletter 'x' (by simp), hletter 'u' (by simp), hletter 'U' (by simp)⟩
  have hp : ¬(c = 'p' ∨ c = 'P') := by
    simpa using ⟨hletter 'p' (by simp), hletter 'P' (by simp)⟩
  have hpeek : (Source.next ⟨'\\' :: c :: rest, place, false⟩).peek? = some c := rfl
  unfold escape
  dsimp only
  rw [hpeek]
  dsimp only
  rw [if_neg (by simp [hdigit]), if_neg hx, if_neg hp, if_pos (.inr hescapable)]
  rfl

theorem termRest_escaped {c : Char} (hc : isSafe c = false) (fuel : ℕ) :
    termRest l [] naming (fuel + 1) ⟨'\\' :: c :: rest, place, false⟩ =
      termRest (l.add place (.literal ⟨c, false, ⟨place, (place.after '\\').after c⟩⟩)) [] naming fuel
        ⟨rest, (place.after '\\').after c, false⟩ := by
  have hprimitive : primitive ⟨'\\' :: c :: rest, place, false⟩ = _ := escape_escapable hc
  exact termRest_primitive (by simp) hprimitive fuel

theorem termRest_start (fuel : ℕ) :
    termRest l [] naming (fuel + 1) ⟨'^' :: rest, place, false⟩ =
      termRest (l.add place (.anchor .lineStart ⟨place, place.after '^'⟩)) [] naming fuel
        ⟨rest, place.after '^', false⟩ := by
  rfl

theorem termRest_stop (fuel : ℕ) :
    termRest l [] naming (fuel + 1) ⟨'$' :: rest, place, false⟩ =
      termRest (l.add place (.anchor .lineEnd ⟨place, place.after '$'⟩)) [] naming fuel
        ⟨rest, place.after '$', false⟩ := by
  rfl

/-- The terms of a text, with their places: one for each character, which stands for itself. -/
def Spells (terms : List (Place × Term)) (w : List Char) : Prop :=
  List.Forall₂ (fun t c => ∃ span, t.2 = Term.literal ⟨c, false, span⟩) terms w

/-- An escaped text is read character by character. -/
theorem termRest_escapeLiteral (w : List Char) (l : Level) (place : Place) (rest : List Char) :
    ∃ terms place', Spells terms w ∧ ∀ fuel,
      termRest l [] naming (fuel + w.length) ⟨escapeLiteral w ++ rest, place, false⟩ =
        termRest { l with terms := terms.reverse ++ l.terms } [] naming fuel
          ⟨rest, place', false⟩ := by
  induction w generalizing l place with
  | nil => exact ⟨[], place, .nil, fun fuel => rfl⟩
  | cons c w ih =>
    have step : ∃ span place', ∀ fuel,
        termRest l [] naming (fuel + w.length + 1) ⟨escapeLiteral (c :: w) ++ rest, place, false⟩ =
          termRest (l.add place (.literal ⟨c, false, span⟩)) [] naming (fuel + w.length)
            ⟨escapeLiteral w ++ rest, place', false⟩ := by
      cases hc : isSafe c with
      | true =>
        refine ⟨⟨place, place.after c⟩, place.after c, fun fuel => ?_⟩
        rw [escapeLiteral_cons, if_pos hc, List.singleton_append, List.cons_append]
        exact termRest_safe hc _
      | false =>
        refine ⟨⟨place, (place.after '\\').after c⟩, (place.after '\\').after c, fun fuel => ?_⟩
        rw [escapeLiteral_cons, if_neg (by simp [hc])]
        exact termRest_escaped hc _
    obtain ⟨span, place', hstep⟩ := step
    obtain ⟨terms, place'', hspells, h⟩ := ih (l.add place (.literal ⟨c, false, span⟩)) place'
    refine ⟨(place, .literal ⟨c, false, span⟩) :: terms, place'', .cons ⟨span, rfl⟩ hspells, ?_⟩
    intro fuel
    rw [List.length_cons, ← Nat.add_assoc, hstep, h]
    simp [Level.add]

theorem length_le_escapeLiteral (w : List Char) : w.length ≤ (escapeLiteral w).length := by
  induction w with
  | nil => exact Nat.le_refl _
  | cons c w ih =>
    rw [escapeLiteral_cons, List.length_append, List.length_cons]
    split
    · rw [List.length_singleton]
      omega
    · rw [List.length_cons, List.length_singleton]
      omega

theorem termRest_nil (fuel : ℕ) :
    termRest l [] naming (fuel + 1) ⟨[], place, false⟩ = .ok (l.term place) := rfl

theorem term_sequence {t : Place × Term} {ts : List (Place × Term)} (hne : ts ≠ [])
    (start first stop : Place) :
    ∃ span, Level.term ⟨start, t :: ts, first, []⟩ stop =
      .sequence ((t :: ts).reverse.map Prod.snd) span := by
  obtain ⟨u, us, rfl⟩ := List.exists_cons_of_ne_nil hne
  exact ⟨_, rfl⟩

/-- The term that an escaped text between anchors is read as. -/
def anchored (terms : List (Place × Term)) (start stop span : Span) : Term :=
  .sequence (.anchor .lineStart start :: (terms.map Prod.snd ++ [.anchor .lineEnd stop])) span

theorem termRest_anchored (w : List Char) :
    ∃ terms start stop span, Spells terms w ∧
      termRest (.open_ .first) [] ⟨[], 0⟩ (('^' :: (escapeLiteral w ++ ['$'])).length + 1)
        ⟨'^' :: (escapeLiteral w ++ ['$']), .first, false⟩ =
          .ok (anchored terms start stop span) := by
  obtain ⟨fuel, hfuel⟩ : ∃ fuel, (escapeLiteral w).length = fuel + w.length :=
    ⟨_, (Nat.sub_add_cancel (length_le_escapeLiteral w)).symm⟩
  have hlen : ('^' :: (escapeLiteral w ++ ['$'])).length + 1 = fuel + 1 + 1 + w.length + 1 := by
    rw [List.length_cons, List.length_append, List.length_singleton, hfuel]
    omega
  obtain ⟨terms, place, hspells, hread⟩ := termRest_escapeLiteral w
    (Level.add (.open_ .first) .first (.anchor .lineStart ⟨.first, Place.first.after '^'⟩))
    (Place.first.after '^') ['$']
  rw [hlen, termRest_start, hread, termRest_stop, termRest_nil]
  obtain ⟨span, hspan⟩ := @term_sequence (place, .anchor .lineEnd ⟨place, place.after '$'⟩)
    (terms.reverse ++ [(.first, .anchor .lineStart ⟨.first, Place.first.after '^'⟩)]) (by simp)
    .first .first (place.after '$')
  have hterm : Term.sequence (((place, Term.anchor .lineEnd ⟨place, place.after '$'⟩) ::
      (terms.reverse ++ [(Place.first, .anchor .lineStart ⟨.first, Place.first.after '^'⟩)])).reverse.map
        Prod.snd) span =
      anchored terms ⟨.first, Place.first.after '^'⟩ ⟨place, place.after '$'⟩ span := by
    simp [anchored]
  exact ⟨terms, ⟨.first, Place.first.after '^'⟩, ⟨place, place.after '$'⟩, span, hspells,
    congrArg Except.ok (hspan.trans hterm)⟩

theorem tooDeepIn?_eq_none {ts : List Term} (h : ∀ t ∈ ts, ∀ room, t.tooDeep? room = none)
    (room : ℕ) : Term.tooDeepIn? room ts = none := by
  induction ts with
  | nil => rw [Term.tooDeepIn?]
  | cons t ts ih =>
    rw [Term.tooDeepIn?, h t (by simp), ih fun u hu => h u (by simp [hu])]
    rfl

theorem Spells.literal {terms : List (Place × Term)} {w : List Char} (h : Spells terms w) :
    ∀ t ∈ terms.map Prod.snd, ∃ c span, t = Term.literal ⟨c, false, span⟩ := by
  intro t ht
  obtain ⟨u, hu, rfl⟩ := List.mem_map.mp ht
  obtain ⟨k, hk, rfl⟩ := List.mem_iff_getElem.mp hu
  obtain ⟨span, hspan⟩ := List.Forall₂.get h hk (h.length_eq ▸ hk)
  exact ⟨_, span, hspan⟩

theorem tooDeep?_anchored {terms : List (Place × Term)} {w : List Char} (h : Spells terms w)
    (start stop span : Span) : (anchored terms start stop span).tooDeep? maxNesting = none := by
  have hflat : ∀ t ∈ Term.anchor .lineStart start ::
      (terms.map Prod.snd ++ [Term.anchor .lineEnd stop]), ∀ room, t.tooDeep? room = none := by
    intro t ht room
    rcases List.mem_cons.mp ht with rfl | ht
    · cases room <;> rw [Term.tooDeep?] <;> simp
    · rcases List.mem_append.mp ht with ht | ht
      · obtain ⟨c, span, rfl⟩ := h.literal t ht
        cases room <;> rw [Term.tooDeep?] <;> simp
      · obtain rfl := List.mem_singleton.mp ht
        cases room <;> rw [Term.tooDeep?] <;> simp
  rw [anchored, maxNesting, Term.tooDeep?, tooDeepIn?_eq_none hflat]

/-- An escaped text between anchors is read as the sequence of the anchors and its characters. -/
theorem parse_anchored (w : List Char) :
    ∃ terms start stop span, Spells terms w ∧
      Term.parse ('^' :: (escapeLiteral w ++ ['$'])) = .ok (anchored terms start stop span) := by
  obtain ⟨terms, start, stop, span, hspells, hread⟩ := termRest_anchored w
  refine ⟨terms, start, stop, span, hspells, ?_⟩
  have hdeep := tooDeep?_anchored hspells start stop span
  unfold Term.parse
  rw [hread]
  dsimp only [bind, Except.bind]
  rw [hdeep]
  rfl

def wordNodes (w : List Char) : List Node :=
  .look .textStart :: (w.map (fun c => Node.oneOf (.single c)) ++ [.look .textEnd])

theorem ofTerms_spells {terms : List (Place × Term)} {w : List Char} (h : Spells terms w)
    {rest : List Term} {ns : List Node}
    (hrest : Node.ofTerms .standard rest = .ok (ns, .standard)) :
    Node.ofTerms .standard (terms.map Prod.snd ++ rest) =
      .ok (w.map (fun c => Node.oneOf (.single c)) ++ ns, .standard) := by
  induction h with
  | nil => exact hrest
  | @cons t c terms w ht _ ih =>
    obtain ⟨span, hspan⟩ := ht
    have hchar : Node.ofTerm .standard (.literal ⟨c, false, span⟩) =
        .ok (.oneOf (.single c), .standard) := rfl
    rw [List.map_cons, hspan, List.cons_append, Node.ofTerms, hchar]
    dsimp only [bind, Except.bind]
    rw [ih]
    rfl

theorem ofTerm_anchored {terms : List (Place × Term)} {w : List Char} (h : Spells terms w)
    (start stop span : Span) :
    Node.ofTerm .standard (anchored terms start stop span) =
      .ok (Node.sequence (wordNodes w), .standard) := by
  have hstart : Node.ofTerm .standard (.anchor .lineStart start) = .ok (.look .textStart, .standard) :=
    rfl
  have hstop : Node.ofTerms .standard [.anchor .lineEnd stop] = .ok ([.look .textEnd], .standard) := rfl
  rw [anchored, Node.ofTerm, Node.ofTerms, hstart]
  dsimp only [bind, Except.bind]
  rw [ofTerms_spells h hstop]
  rfl

/-- The nodes of an anchored text are parts of sequences as they are. -/
theorem sequence_wordNodes (w : List Char) :
    Node.sequence (wordNodes w) = Node.ofParts (wordNodes w) := by
  have hparts : ∀ ns : List Node, (∀ n ∈ ns, n.parts = [n]) → ns.flatMap Node.parts = ns := by
    intro ns hns
    induction ns with
    | nil => rfl
    | cons n ns ih =>
      rw [List.flatMap_cons, hns n (by simp), ih fun m hm => hns m (by simp [hm]),
        List.singleton_append]
  rw [Node.sequence, hparts]
  intro n hn
  rcases List.mem_cons.mp hn with rfl | hn
  · rfl
  · rcases List.mem_append.mp hn with hn | hn
    · obtain ⟨c, -, rfl⟩ := List.mem_map.mp hn
      rfl
    · obtain rfl := List.mem_singleton.mp hn
      rfl

def instruction? : Node → Option Instruction
  | .oneOf s => some (.oneOf s)
  | .look l => some (.look l)
  | _ => none

theorem code_ofParts {ns : List Node} {is : List Instruction}
    (h : List.Forall₂ (fun n i => instruction? n = some i) ns is) (base : ℕ) :
    (Node.ofParts ns).code base = is := by
  have hcode : ∀ n i, instruction? n = some i → ∀ base, n.code base = [i] := by
    intro n i hi base
    cases n <;> simp_all [instruction?, Node.code]
  induction h generalizing base with
  | nil => rfl
  | @cons n i ns is hn hrest ih =>
    cases hrest with
    | nil => exact hcode n i hn base
    | @cons m j ns is hm hrest =>
      rw [Node.ofParts, Node.code, hcode n i hn, ih]
      · rfl
      · simp

def wordCode (w : List Char) : List Instruction :=
  .look .textStart :: (w.map (fun c => Instruction.oneOf (.single c)) ++ [.look .textEnd])

theorem code_wordNodes (w : List Char) (base : ℕ) :
    (Node.sequence (wordNodes w)).code base = wordCode w := by
  have hchars : List.Forall₂ (fun n i => instruction? n = some i)
      (w.map (fun c => Node.oneOf (.single c)) ++ [.look .textEnd])
      (w.map (fun c => Instruction.oneOf (.single c)) ++ [.look .textEnd]) := by
    induction w with
    | nil => exact .cons rfl .nil
    | cons c w ih => exact .cons rfl ih
  rw [sequence_wordNodes]
  exact code_ofParts (.cons rfl hchars) base

theorem ofNode_wordNodes (w : List Char) :
    Program.ofNode (Node.sequence (wordNodes w)) =
      (.save 0 :: .look .textStart :: (w.map (fun c => Instruction.oneOf (.single c)) ++
        [.look .textEnd, .save 1, .accept])).toArray := by
  rw [Program.ofNode, Node.code, code_wordNodes, wordCode]
  simp

theorem isWordProgram_ofNode (w : List Char) :
    IsWordProgram (Program.ofNode (Node.sequence (wordNodes w))) w := by
  have hbehind (k : ℕ) : (w.map (fun c => Instruction.oneOf (.single c)) ++
      [.look .textEnd, .save 1, .accept])[w.length + k]? =
        [Instruction.look .textEnd, .save 1, .accept][k]? := by
    rw [List.getElem?_append_right (by simp), List.length_map, Nat.add_sub_cancel_left]
  rw [ofNode_wordNodes]
  constructor
  · simp
  · rfl
  · rfl
  · intro k c hc
    have hk : k < w.length := (List.getElem?_eq_some_iff.mp hc).1
    rw [List.getElem?_toArray, Nat.add_comm 2 k, List.getElem?_cons_succ, List.getElem?_cons_succ,
      List.getElem?_append_left (by simpa using hk), List.getElem?_map, hc]
    rfl
  · rw [List.getElem?_toArray, Nat.add_comm 2, List.getElem?_cons_succ, List.getElem?_cons_succ]
    exact hbehind 0
  · rw [List.getElem?_toArray, Nat.add_comm 3, List.getElem?_cons_succ, List.getElem?_cons_succ]
    exact hbehind 1
  · rw [List.getElem?_toArray, Nat.add_comm 4, List.getElem?_cons_succ, List.getElem?_cons_succ]
    exact hbehind 2

def anchoredSource (w : List Char) : String := String.ofList ('^' :: (escapeLiteral w ++ ['$']))

/-- The pattern of an escaped text between anchors is within its bound of memory or is not compiled; if it
is, it matches the text and no other. -/
theorem compile_anchored (w : List Char) :
    Pattern.compile .standard (anchoredSource w) = .error .tooLarge ∨
    ∃ p, Pattern.compile .standard (anchoredSource w) = .ok p ∧
      ∀ text, p.isMatch text = true ↔ text = w := by
  obtain ⟨terms, start, stop, span, hspells, hparse⟩ := parse_anchored w
  have hnode := ofTerm_anchored hspells start stop span
  unfold Pattern.compile
  rw [anchoredSource, String.toList_ofList, hparse]
  dsimp only [bind, Except.bind]
  rw [hnode]
  dsimp only
  cases hfits : (Node.sequence (wordNodes w)).fits with
  | false => exact .inl rfl
  | true => exact .inr ⟨_, rfl, isMatch_word (isWordProgram_ofNode w)⟩

end Stencil.Pattern
