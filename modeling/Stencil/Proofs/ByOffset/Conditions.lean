import Stencil.Proofs.ByOffset.Arguments
import Stencil.Proofs.ByOffset.Marks
import Stencil.Tag.Condition

/-!
# Conditions by offsets

A condition is a slice up to a closing parenthesis, and it is cut at the operator that stands first in it. Each operator
is looked for on its own, and the one with the least offset counts.
-/
namespace Stencil.ByOffset.Conditions

open Stencil.Text Stencil.Tag

def occurrence? (op : Comparison) (s : List Char) : Option (Nat × Comparison) :=
  (breakAt? op.symbol.toList s).map fun (before, _) => (byteLength before, op)

def earlier : Option (Nat × Comparison) → Option (Nat × Comparison) → Option (Nat × Comparison)
  | some p, some q => if q.1 < p.1 then some q else some p
  | some p, none => some p
  | none, q => q

def operators : List Comparison := [.equal, .notEqual, .regex, .notRegex]

/-- The operator that occurs first, and where. -/
def operator? (s : List Char) : Option (Nat × Comparison) :=
  (operators.map (occurrence? · s)).foldr earlier none

def unquote (text : String) : Checked String := do
  match ← between '"' text with
  | some inside => return inside
  | none =>
    match ← between '\'' text with
    | some inside => return inside
    | none => return text

def startsRegex (text : String) : Checked Bool := do
  if ← startsWith text 0 "/" then return (← nextFree text '/' 1).isSome else return false

def named (condition : String) (reference : List Char) (make : String → Condition) : Except ConditionError Condition :=
  match nameOf? reference with
  | some name => .ok (make name)
  | none => .error (.malformedCondition condition)

def searched (condition : String) (op : Comparison) (name right : String) :
    Checked (Except ConditionError Condition) := do
  if ← startsRegex right then return .ok (.matchesRegex op.isNegated name right)
  else return .error (.expectedRegex op.symbol condition)

def equated (condition : String) (op : Comparison) (name right : String) :
    Checked (Except ConditionError Condition) :=
  if startsReference right.toList then return named condition right.toList (.same op.isNegated name)
  else if right.toList = [] then return .error (.malformedCondition condition)
  else do return .ok (.equals op.isNegated name (← unquote right))

def compared (condition : String) (op : Comparison) (left right : String) :
    Checked (Except ConditionError Condition) :=
  if startsReference left.toList then
    match nameOf? left.toList with
    | none => return .error (.malformedCondition condition)
    | some name =>
      match op with
      | .regex | .notRegex => searched condition op name right
      | .equal | .notEqual => equated condition op name right
  else return .error (.malformedCondition condition)

def parseCondition (condition : String) : Checked (Except ConditionError Condition) := do
  let s := condition.toList
  if s.head? = some '!' ∧ operator? s.tail = none then return named condition (trim s.tail) .undefined
  match operator? s with
  | none => return named condition s .defined
  | some (offset, op) =>
    let left ← slice condition 0 offset
    let right ← sliceFrom condition (offset + op.symbol.utf8ByteSize)
    compared condition op (trimmed left) (trimmed right)

def parseInclude (body : String) : Checked (Except ConditionError ConditionalInclude) := do
  let inner := trim body.toList
  let text := String.ofList ((dropStart? "includeIf".toList inner).getD inner)
  if ← startsWith text 0 "(" then
    match ← matchingClose text 0 with
    | none => return .error (.missingCondition body)
    | some close =>
      let condition ← slice text 1 close
      let behind ← sliceFrom text (close + 1)
      let template := match trim behind.toList with
        | '.' :: name => trim name
        | name => name
      if template = [] then return .error (.missingTemplate body)
      else return (← parseCondition (trimmed condition)).map fun c => ⟨c, String.ofList template⟩
  else return .error (.missingCondition body)

section Operators

variable {op : Comparison} {s : List Char}

theorem ofStart?_eq_some_iff : Comparison.ofStart? s = some op ↔ (dropStart? op.symbol.toList s).isSome = true := by
  fun_cases Comparison.ofStart? s with
  | case1 => cases op <;> simp [Comparison.symbol, dropStart?]
  | case2 => cases op <;> simp [Comparison.symbol, dropStart?]
  | case3 => cases op <;> simp [Comparison.symbol, dropStart?]
  | case4 => cases op <;> simp [Comparison.symbol, dropStart?]
  | case5 s hequal hnotEqual hregex hnotRegex =>
    refine iff_of_false (Option.some_ne_none op).symm fun hsome => ?_
    obtain ⟨rest, hrest⟩ := Option.isSome_iff_exists.mp hsome
    rw [dropStart?_eq_some] at hrest
    cases op with
    | equal => exact hequal rest hrest
    | notEqual => exact hnotEqual rest hrest
    | regex => exact hregex rest hrest
    | notRegex => exact hnotRegex rest hrest

/-- A place further on by the bytes of a character. -/
def behind (c : Char) (p : Nat × Comparison) : Nat × Comparison := (c.utf8Size + p.1, p.2)

theorem occurrence?_of_start {c : Char} {rest : List Char} (h : Comparison.ofStart? (c :: rest) = some op) :
    occurrence? op (c :: rest) = some (0, op) := by
  obtain ⟨after, hafter⟩ := Option.isSome_iff_exists.mp (ofStart?_eq_some_iff.mp h)
  rw [occurrence?, breakAt?, hafter]
  rfl

theorem occurrence?_of_ne {c : Char} {rest : List Char} (h : Comparison.ofStart? (c :: rest) ≠ some op) :
    occurrence? op (c :: rest) = (occurrence? op rest).map (behind c) := by
  rw [ne_eq, ofStart?_eq_some_iff, Option.not_isSome_iff_eq_none] at h
  rw [occurrence?, breakAt?, h, occurrence?, Option.map_map, Option.map_map]
  rfl

theorem earlier_behind (c : Char) (p q : Option (Nat × Comparison)) :
    earlier (p.map (behind c)) (q.map (behind c)) = (earlier p q).map (behind c) := by
  cases p with
  | none => rfl
  | some p =>
    cases q with
    | none => rfl
    | some q =>
      simp only [Option.map_some, earlier, behind, Nat.add_lt_add_iff_left]
      split <;> rfl

theorem foldr_behind (c : Char) (ps : List (Option (Nat × Comparison))) :
    (ps.map (Option.map (behind c))).foldr earlier none = (ps.foldr earlier none).map (behind c) := by
  induction ps with
  | nil => rfl
  | cons p ps ih => rw [List.map_cons, List.foldr_cons, ih, earlier_behind, List.foldr_cons]

/-- The one operator at the very beginning is the first one. -/
theorem foldr_zero {ops : List Comparison} {place? : Comparison → Option (Nat × Comparison)} (hop : op ∈ ops)
    (hzero : place? op = some (0, op)) (hpos : ∀ other ≠ op, ∀ p ∈ place? other, 0 < p.1) :
    (ops.map place?).foldr earlier none = some (0, op) := by
  induction ops with
  | nil => cases hop
  | cons other ops ih =>
    rw [List.map_cons, List.foldr_cons]
    by_cases hother : other = op
    · rw [hother, hzero]
      cases (ops.map place?).foldr earlier none with
      | none => rfl
      | some q => rw [earlier, if_neg (Nat.not_lt_zero q.1)]
    · rw [ih ((List.mem_cons.mp hop).resolve_left (Ne.symm hother))]
      cases hplace : place? other with
      | none => rfl
      | some p => exact if_pos (hpos other hother p hplace)

theorem operator?_eq (s : List Char) :
    operator? s = (Comparison.find? s).map fun (before, op, _) => (byteLength before, op) := by
  induction s with
  | nil => rfl
  | cons c rest ih =>
    rw [operator?, Comparison.find?]
    cases hstart : Comparison.ofStart? (c :: rest) with
    | none =>
      -- No operator begins here, so that all of them stand further on by this character.
      have hplaces : operators.map (occurrence? · (c :: rest)) =
          (operators.map (occurrence? · rest)).map (Option.map (behind c)) := by
        rw [List.map_map]
        exact List.map_congr_left fun op _ => occurrence?_of_ne (by simp [hstart])
      rw [operator?] at ih
      rw [hplaces, foldr_behind, ih, Option.map_map, Option.map_map]
      rfl
    | some op =>
      refine foldr_zero (by cases op <;> decide) (occurrence?_of_start hstart) fun other hother p hp => ?_
      rw [occurrence?_of_ne (by simpa [hstart] using Ne.symm hother), Option.mem_def, Option.map_eq_some_iff] at hp
      obtain ⟨q, -, rfl⟩ := hp
      exact Nat.add_pos_left c.utf8Size_pos q.1

theorem eq_of_find? {before after : List Char} (h : Comparison.find? s = some (before, op, after)) :
    s = before ++ (op.symbol.toList ++ after) := by
  induction s generalizing before with
  | nil => cases h
  | cons c rest ih =>
    rw [Comparison.find?] at h
    cases hstart : Comparison.ofStart? (c :: rest) with
    | some op' =>
      rw [hstart] at h
      cases h
      obtain ⟨after, hafter⟩ := Option.isSome_iff_exists.mp (ofStart?_eq_some_iff.mp hstart)
      have hsymbol : c :: rest = op.symbol.toList ++ after := dropStart?_eq_some.mp hafter
      have hrest : rest.drop 1 = after := by
        have htwo : (c :: rest).drop 2 = (op.symbol.toList ++ after).drop 2 := congrArg _ hsymbol
        cases op <;> exact htwo
      rw [List.nil_append, hrest, hsymbol]
    | none =>
      rw [hstart] at h
      obtain ⟨⟨before', op', after'⟩, hfind, heq⟩ := Option.map_eq_some_iff.mp h
      cases heq
      rw [ih hfind]
      rfl

end Operators

theorem unquote_eq (s : List Char) : Tag.unquote s = ((inside? '"' s).or (inside? '\'' s)).getD s := by
  unfold Tag.unquote
  dsimp only
  split
  · next inside h =>
    have hdouble : inside? '"' s = some inside := h
    rw [hdouble]
    rfl
  · next inside hnone h =>
    have hdouble : inside? '"' s = none := hnone
    have hsingle : inside? '\'' s = some inside := h
    rw [hdouble, hsingle]
    rfl
  · next hnone hnone' =>
    have hdouble : inside? '"' s = none := hnone
    have hsingle : inside? '\'' s = none := hnone'
    rw [hdouble, hsingle]
    rfl

theorem unquote_ofList (s : List Char) : unquote (String.ofList s) = pure (String.ofList (Tag.unquote s)) := by
  rw [unquote, between_ofList (by decide), pure_bind, unquote_eq]
  cases inside? '"' s with
  | some inside => rfl
  | none =>
    dsimp only [Option.map_none]
    rw [between_ofList (by decide), pure_bind]
    cases inside? '\'' s <;> rfl

theorem startsRegex_ofList (s : List Char) :
    startsRegex (String.ofList s) = pure (match s with
      | '/' :: rest => (cut '/' false rest).isSome
      | _ => false) := by
  rw [startsRegex, startsWith_ofList, pure_bind]
  split
  · next hslash =>
    obtain ⟨rest, hrest⟩ := Option.isSome_iff_exists.mp hslash
    obtain rfl : s = '/' :: rest := dropStart?_eq_some.mp hrest
    rw [nextFree_eq, pure_bind, nextUnescaped_ofList (by decide) (by decide), Option.isSome_map]
    rfl
  · next hslash =>
    split
    · exact absurd rfl hslash
    · rfl

theorem searched_ofList (condition : String) (op : Comparison) (name : String) (right : List Char) :
    searched condition op name (String.ofList right) = pure (match right with
      | '/' :: rest =>
        if (cut '/' false rest).isSome then .ok (.matchesRegex op.isNegated name (String.ofList right))
        else .error (.expectedRegex op.symbol condition)
      | _ => .error (.expectedRegex op.symbol condition)) := by
  rw [searched, startsRegex_ofList, pure_bind]
  split
  · split <;> rfl
  · rfl

theorem equated_ofList (condition : String) (op : Comparison) (name : String) (right : List Char) :
    equated condition op name (String.ofList right) = pure (
      if startsReference right then named condition right (.same op.isNegated name)
      else if right = [] then .error (.malformedCondition condition)
      else .ok (.equals op.isNegated name (String.ofList (Tag.unquote right)))) := by
  rw [equated, String.toList_ofList, unquote_ofList]
  split
  · rfl
  split <;> rfl

section Parsing

variable {s before after : List Char} {op : Comparison}

theorem compared_ofList (hnegated : ¬(s.head? = some '!' ∧ Comparison.find? s.tail = none))
    (hfind : Comparison.find? s = some (before, op, after)) :
    compared (String.ofList s) op (String.ofList (trim before)) (String.ofList (trim after)) =
      pure (Condition.parse s) := by
  unfold Condition.parse
  rw [hfind]
  split
  · next hnone => exact (hnegated ⟨rfl, hnone⟩).elim
  · next heq _ => cases heq
  · next heq _ =>
    cases heq
    rw [compared, String.toList_ofList]
    dsimp only
    cases startsReference (trim before) with
    | false => rfl
    | true =>
      cases nameOf? (trim before) with
      | none => rfl
      | some name =>
        cases op with
        | regex | notRegex => exact searched_ofList ..
        | equal | notEqual =>
          refine (equated_ofList ..).trans ?_
          cases hother : nameOf? (trim after) with
          | none => simp only [named, hother]; rfl
          | some other => simp only [named, hother]; rfl

theorem map_named (condition : String) (reference : List Char) (make : String → Condition) :
    (match nameOf? reference with
      | some name => Except.ok name
      | none => Except.error (ConditionError.malformedCondition condition)).map make =
      named condition reference make := by
  rw [named]
  cases nameOf? reference <;> rfl

theorem parse_negated {rest : List Char} (h : Comparison.find? rest = none) :
    Condition.parse ('!' :: rest) = named (String.ofList ('!' :: rest)) (trim rest) .undefined := by
  unfold Condition.parse
  simp only [List.drop_one, List.tail_cons, h]
  exact map_named ..

theorem parse_without_operator (hnegated : ¬(s.head? = some '!' ∧ Comparison.find? s.tail = none))
    (hfind : Comparison.find? s = none) : Condition.parse s = named (String.ofList s) s .defined := by
  unfold Condition.parse
  rw [hfind]
  split
  · next h => exact (hnegated ⟨rfl, h⟩).elim
  · exact map_named ..
  · next h _ => cases h

theorem parseCondition_ofList (s : List Char) : parseCondition (String.ofList s) = pure (Condition.parse s) := by
  have hnone (s : List Char) : operator? s = none ↔ Comparison.find? s = none := by
    rw [operator?_eq, Option.map_eq_none_iff]
  rw [parseCondition, String.toList_ofList]
  by_cases hnegated : s.head? = some '!' ∧ Comparison.find? s.tail = none
  · obtain ⟨hhead, htail⟩ := hnegated
    obtain ⟨rest, rfl⟩ := List.head?_eq_some_iff.mp hhead
    rw [List.tail_cons] at htail ⊢
    rw [if_pos ⟨hhead, (hnone rest).mpr htail⟩, parse_negated htail]
  · rw [if_neg fun h => hnegated ⟨h.1, (hnone _).mp h.2⟩, operator?_eq]
    cases hfind : Comparison.find? s with
    | none => rw [parse_without_operator hnegated hfind, Option.map_none]
    | some found =>
      obtain ⟨before, op, after⟩ := found
      have htext : (String.ofList s).toList = before ++ (op.symbol.toList ++ after) := by
        rw [String.toList_ofList, eq_of_find? hfind]
      have hbehind := htext ▸ List.suffix_append before _
      have hleft := slice_front htext
      have hright := sliceFrom_offsetOf ((List.suffix_append op.symbol.toList after).trans hbehind)
      rw [offsetOf_of_append htext] at hleft
      rw [offsetOf_append hbehind, offsetOf_of_append htext, byteLength_toList] at hright
      dsimp only [Option.map_some]
      rw [hleft, pure_bind, hright, pure_bind, trimmed_ofList, trimmed_ofList, compared_ofList hnegated hfind]

end Parsing

theorem parseInclude_eq (body : String) : parseInclude body = pure (ConditionalInclude.parse body) := by
  rw [parseInclude, ConditionalInclude.parse]
  dsimp only
  generalize (dropStart? "includeIf".toList (trim body.toList)).getD (trim body.toList) = s
  rw [startsWith_ofList, pure_bind]
  split
  · next hparen =>
    obtain ⟨rest, hrest⟩ := Option.isSome_iff_exists.mp hparen
    obtain rfl : s = '(' :: rest := dropStart?_eq_some.mp hrest
    have h := suffix_ofList ('(' :: rest)
    have hfound := matchingClose_parenthesis h
    rw [offsetOf_ofList] at hfound
    rw [hfound, pure_bind]
    cases hclosing : closing '(' ')' 0 true rest with
    | none => simp [hclosing]
    | some p =>
      obtain ⟨inside, after⟩ := p
      have hinside := eq_of_closing hclosing
      have hslice := slice_behind h (by decide) hinside
      rw [offsetOf_ofList] at hslice
      dsimp only [Option.map_some]
      rw [hslice, pure_bind, sliceFrom_behind (suffix_behind h hinside) (by decide), pure_bind, trimmed_ofList, parseCondition_ofList,
        String.toList_ofList]
      simp only [hclosing, pure_bind]
      exact (apply_ite pure _ _ _).symm
  · next hparen =>
    split
    · exact absurd rfl hparen
    · rfl

end Stencil.ByOffset.Conditions
