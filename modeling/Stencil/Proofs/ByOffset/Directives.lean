import Stencil.Proofs.ByOffset.Marks
import Stencil.Proofs.ByOffset.Moves
import Stencil.Proofs.WrittenReplacement

/-!
# Directives by offsets

A directive is cut at the slashes of a text, which are found by their offsets. A replacement is read by the indices of
its characters, and each escape takes a number of them. They are the directives and replacements that are read through
the characters.
-/
namespace Stencil.ByOffset.Directives

open Stencil.Text Stencil.Pattern

/-- Where the slash stands that a substitution begins with, behind a letter or not. -/
def firstSlash? (text : String) : Checked (Option Nat) := do
  if ← startsWith text 0 "s/" then return some 1
  else if ← startsWith text 0 "/" then return some 0
  else return none

def parseSubstitution (raw : String) : Checked (Except DirectiveFault Directive) := do
  let text := trimmed raw
  match ← firstSlash? text with
  | none => return .error (.missingDelimiter text)
  | some first =>
    match ← nextFree text '/' (first + 1) with
    | none => return .error (.missingDelimiter text)
    | some stop =>
      match ← nextFree text '/' (stop + 1) with
      | none => return .error (.missingDelimiter text)
      | some last =>
        let pattern ← slice text (first + 1) stop
        let replacement ← slice text (stop + 1) last
        let tail ← sliceFrom text (last + 1)
        return .ok (.withFlags pattern.toList (some replacement.toList) tail.toList)

def parseMatch (raw : String) : Checked (Except DirectiveFault Directive) := do
  let text := trimmed raw
  if ← startsWith text 0 "/" then
    match ← nextFree text '/' 1 with
    | none => return .error (.missingDelimiter text)
    | some stop =>
      let pattern ← slice text 1 stop
      let tail ← sliceFrom text (stop + 1)
      return .ok (.withFlags pattern.toList none tail.toList)
  else return .ok (.withFlags text.toList none [])

section Slashes

variable {text : String} {rest inside : List Char}

theorem nextFree_slash (h : '/' :: rest <:+ text.toList) :
    nextFree text '/' (offsetOf text ('/' :: rest) + 1) =
      pure ((cut '/' false rest).map fun (_, after) => offsetOf text ('/' :: after)) := by
  rw [nextFree_eq, offsetOf_add_one h (by decide), nextUnescaped_offsetOf h (by decide)]

theorem firstSlash?_ofList (s : List Char) :
    firstSlash? (String.ofList s) = pure (((dropStart? ['s', '/'] s).or (dropStart? ['/'] s)).map fun inner =>
      offsetOf (String.ofList s) ('/' :: inner)) := by
  have hletters : "s/".toList = ['s', '/'] := rfl
  have hmark : "/".toList = ['/'] := rfl
  rw [firstSlash?, startsWith_ofList, pure_bind, startsWith_ofList, pure_bind, hletters, hmark]
  cases hletter : dropStart? ['s', '/'] s with
  | some inner =>
    obtain rfl : s = 's' :: '/' :: inner := dropStart?_eq_some.mp hletter
    rw [Option.some_or, Option.map_some, offsetOf_ofList_cons (by decide)]
    rfl
  | none =>
    cases hslash : dropStart? ['/'] s with
    | none => rfl
    | some inner =>
      obtain rfl : s = '/' :: inner := dropStart?_eq_some.mp hslash
      rw [Option.none_or, Option.map_some, offsetOf_ofList]
      rfl

theorem suffix_of_first {s : List Char} (h : inside ∈ (dropStart? ['s', '/'] s).or (dropStart? ['/'] s)) :
    '/' :: inside <:+ s := by
  rcases Option.or_eq_some_iff.mp h with hletter | ⟨-, hslash⟩
  · exact ⟨['s'], (dropStart?_eq_some.mp hletter).symm⟩
  · exact ⟨[], (dropStart?_eq_some.mp hslash).symm⟩

end Slashes

theorem parseSubstitution_eq (raw : String) : parseSubstitution raw = pure (Directive.parseSubstitution raw) := by
  rw [parseSubstitution, trimmed, Directive.parseSubstitution]
  generalize trim raw.toList = s
  dsimp only
  rw [firstSlash?_ofList, pure_bind]
  cases hfirst : (dropStart? ['s', '/'] s).or (dropStart? ['/'] s) with
  | none => rfl
  | some inner =>
    have h := (suffix_of_first hfirst).trans (suffix_ofList s)
    dsimp only [Option.map_some]
    rw [nextFree_slash h, pure_bind]
    cases hcut : cut '/' false inner with
    | none => simp [hcut]
    | some p =>
      obtain ⟨pattern, rest⟩ := p
      have hrest := suffix_behind h (eq_of_cut hcut)
      dsimp only [Option.map_some]
      rw [nextFree_slash hrest, pure_bind]
      cases hcut' : cut '/' false rest with
      | none => simp [hcut, hcut']
      | some p =>
        obtain ⟨replacement, tail⟩ := p
        dsimp only [Option.map_some]
        rw [slice_behind h (by decide) (eq_of_cut hcut), slice_behind hrest (by decide) (eq_of_cut hcut'),
          sliceFrom_behind (suffix_behind hrest (eq_of_cut hcut')) (by decide)]
        simp [hcut, hcut']

theorem parseMatch_eq (raw : String) : parseMatch raw = pure (Directive.parseMatch raw) := by
  rw [parseMatch, trimmed, Directive.parseMatch]
  generalize trim raw.toList = s
  rw [startsWith_ofList, pure_bind]
  split
  · next hslash =>
    obtain ⟨rest, hrest⟩ := Option.isSome_iff_exists.mp hslash
    obtain rfl : s = '/' :: rest := dropStart?_eq_some.mp hrest
    have h := suffix_ofList ('/' :: rest)
    have hnext := nextFree_slash h
    rw [offsetOf_ofList] at hnext
    rw [hnext, pure_bind]
    cases hcut : cut '/' false rest with
    | none => simp [hcut]
    | some p =>
      obtain ⟨pattern, tail⟩ := p
      have hslice := slice_behind h (by decide) (eq_of_cut hcut)
      rw [offsetOf_ofList] at hslice
      dsimp only [Option.map_some]
      rw [hslice, sliceFrom_behind (suffix_behind h (eq_of_cut hcut)) (by decide)]
      simp [hcut]
  · next hslash =>
    rw [String.toList_ofList]
    split
    · exact absurd rfl hslash
    · rfl

open Stencil.Pattern.Replacement

def index? (mark : Char) (chars : List Char) : Option Nat :=
  if mark ∈ chars then some (chars.takeWhile (· != mark)).length else none

/-- A reference to a group, and how many characters it takes. -/
def reference? : List Char → Checked (Option (List Char × Nat))
  | '$' :: '\x7b' :: rest =>
    match index? '\x7d' rest with
    | some stop => do
      let name ← range rest 0 stop
      return if name = [] then none else some (name, stop + 3)
    | none => return none
  | c :: rest =>
    if c = '$' ∨ c = '\\' then
      let digits := rest.takeWhile Char.isDigit
      return if digits = [] then none else some (digits, digits.length + 1)
    else return none
  | [] => return none

def hexChar? (chars : List Char) : Checked (Option Char) :=
  if chars.length < 4 then return none
  else return Replacement.hexChar? (← range chars 0 4)

/-- What a backslash and the character `c` stand for, and how many of the characters behind them they take. -/
def escaped (c : Char) (chars : Checked (List Char)) : Checked (List Char × Nat) :=
  match control? c with
  | some d => return ([d], 0)
  | none =>
    if c = 'u' then do
      match ← hexChar? (← chars) with
      | some d => return (literal d, 4)
      | none => return ([c], 0)
    else if c = '0' then do
      let (d, used) := octalChar (← chars)
      return (literal d, used)
    else if c.isDigit then return (braced [c], 0)
    else if c = 'U' ∨ c = 'L' then do
      match ← reference? (← chars) with
      | some (name, used) => return (['!', c, '@'] ++ braced name ++ ['@', c, '!'], used)
      | none => return ([c], 0)
    else return (literal c, 0)

def plainRound (chars : List Char) (i : Nat) (out : List Char) : Checked (Round (List Char) (List Char)) :=
  if i < chars.length then do
    let c ← item chars i
    if c = '\\' ∧ i + 1 < chars.length then
      let (plain, used) ← escaped (← item chars (i + 1)) (range chars (i + 2) chars.length)
      return .again (i + 2 + used) (out ++ plain)
    else if c = '$' then
      match ← reference? (← range chars i chars.length) with
      | some (name, used) => return .again (i + used) (out ++ braced name)
      | none => return .again (i + 1) (out ++ ['$', '$'])
    else return .again (i + 1) (out ++ [c])
  else return .done out

/-- The plain form of a replacement. -/
def toPlain (text : String) : Checked (List Char) := loop text (plainRound text.toList) 0 []

theorem index?_append {mark : Char} {front : List Char} (h : mark ∉ front) (after : List Char) :
    index? mark (front ++ mark :: after) = some front.length := by
  have htake : (front ++ mark :: after).takeWhile (· != mark) = front := by
    refine takeWhile_append_stop (fun c hc => ?_) (by simp)
    simpa using ne_of_mem_of_not_mem hc h
  rw [index?, if_pos (by simp), htake]

theorem splitAt?_of_notMem {mark : Char} {chars : List Char} (h : mark ∉ chars) : splitAt? mark chars = none := by
  have hdrop : chars.dropWhile (· != mark) = [] := by
    refine List.dropWhile_eq_nil_iff.mpr fun c hc => ?_
    simpa using ne_of_mem_of_not_mem hc h
  rw [splitAt?, hdrop]

theorem drop_takeWhile (p : Char → Bool) (chars : List Char) :
    chars.drop (chars.takeWhile p).length = chars.dropWhile p := by
  have h : (chars.takeWhile p ++ chars.dropWhile p).drop (chars.takeWhile p).length = chars.dropWhile p :=
    List.drop_left
  rwa [List.takeWhile_append_dropWhile] at h

theorem reference?_eq (chars : List Char) :
    ∃ found, reference? chars = pure found ∧
      Replacement.reference? chars = found.map fun (name, used) => (name, chars.drop used) := by
  unfold reference?
  split
  · next rest =>
    rw [Replacement.reference?]
    by_cases hclose : '\x7d' ∈ rest
    · obtain ⟨name, after, rfl, hname⟩ := List.eq_append_cons_of_mem hclose
      have hrange : range (name ++ '\x7d' :: after) 0 name.length = pure name := by
        rw [range_front (by simp), List.take_left]
      rw [index?_append hname, splitAt?_append hname]
      dsimp only
      rw [hrange]
      refine ⟨_, rfl, ?_⟩
      by_cases hempty : name = []
      · simp [hempty]
      · simp [hempty, List.drop_append]
    · rw [index?, if_neg hclose, splitAt?_of_notMem hclose]
      exact ⟨none, rfl, rfl⟩
  · next c rest hc =>
    rw [Replacement.reference?.eq_2 c rest hc]
    split
    · refine ⟨_, rfl, ?_⟩
      rw [← drop_takeWhile]
      dsimp only
      split
      · rfl
      · rfl
    · exact ⟨none, rfl, rfl⟩
  · exact ⟨none, rfl, rfl⟩

theorem hexChar?_eq (chars : List Char) :
    hexChar? chars = pure (if chars.length < 4 then none else Replacement.hexChar? (chars.take 4)) := by
  rw [hexChar?]
  split
  · rfl
  · rw [range_front (by omega)]
    rfl

theorem escaped_eq (c : Char) (chars : List Char) :
    ∃ plain used, escaped c (pure chars) = pure (plain, used) ∧
      Replacement.escaped c chars = (plain, chars.drop used) := by
  rw [escaped, Replacement.escaped]
  cases control? c with
  | some d => exact ⟨_, _, rfl, rfl⟩
  | none =>
    dsimp only
    split
    · rw [pure_bind, hexChar?_eq, pure_bind]
      cases if chars.length < 4 then none else Replacement.hexChar? (chars.take 4) with
      | none => exact ⟨_, _, rfl, rfl⟩
      | some d => exact ⟨_, _, rfl, rfl⟩
    split
    · exact ⟨_, _, rfl, rfl⟩
    split
    · exact ⟨_, _, rfl, rfl⟩
    split
    · obtain ⟨found, hfound, hmodel⟩ := reference?_eq chars
      rw [pure_bind, hfound, pure_bind, hmodel]
      cases found with
      | none => exact ⟨_, _, rfl, rfl⟩
      | some p => exact ⟨_, _, rfl, rfl⟩
    · exact ⟨_, _, rfl, rfl⟩

section Rounds

variable {chars : List Char} {i : Nat} {c d : Char} {rest : List Char}

theorem length_of_drop (h : chars.drop i = c :: rest) : chars.length = i + rest.length + 1 := by
  have hlength := congrArg List.length h
  rw [List.length_drop, List.length_cons] at hlength
  omega

theorem drop_behind (h : chars.drop i = c :: rest) : chars.drop (i + 1) = rest := by
  rw [← List.drop_drop, h]
  rfl

theorem plainRound_text (h : chars.drop i = c :: rest) (hb : c = '\\' → rest = []) (hd : c ≠ '$') (out : List Char) :
    plainRound chars i out = pure (.again (i + 1) (out ++ [c])) := by
  have hlength := length_of_drop h
  have hescape : ¬(c = '\\' ∧ i + 1 < chars.length) := by
    rintro ⟨hc, hmore⟩
    rw [hb hc, List.length_nil] at hlength
    omega
  rw [plainRound, if_pos (by omega), item_of_drop h, pure_bind, if_neg hescape, if_neg hd]

theorem plainRound_escape (h : chars.drop i = '\\' :: d :: rest) (out : List Char) :
    ∃ used, chars.drop (i + 2 + used) = (Replacement.escaped d rest).2 ∧
      plainRound chars i out = pure (.again (i + 2 + used) (out ++ (Replacement.escaped d rest).1)) := by
  have hlength := length_of_drop h
  rw [List.length_cons] at hlength
  have hnext := drop_behind h
  have hrest : chars.drop (i + 2) = rest := drop_behind hnext
  obtain ⟨plain, used, hescaped, hmodel⟩ := escaped_eq d rest
  refine ⟨used, ?_, ?_⟩
  · rw [← List.drop_drop, hrest, hmodel]
  · rw [plainRound, if_pos (by omega), item_of_drop h, pure_bind, if_pos ⟨rfl, by omega⟩, item_of_drop hnext, pure_bind,
      range_back (by omega), hrest, hescaped, hmodel]
    rfl

theorem plainRound_dollar (h : chars.drop i = '$' :: rest) (out : List Char) :
    (∃ name used, 0 < used ∧ Replacement.reference? ('$' :: rest) = some (name, chars.drop (i + used)) ∧
      plainRound chars i out = pure (.again (i + used) (out ++ braced name))) ∨
    Replacement.reference? ('$' :: rest) = none ∧
      plainRound chars i out = pure (.again (i + 1) (out ++ ['$', '$'])) := by
  have hlength := length_of_drop h
  obtain ⟨found, hfound, hmodel⟩ := reference?_eq ('$' :: rest)
  have hround : plainRound chars i out = (do
      match ← reference? ('$' :: rest) with
      | some (name, used) => return .again (i + used) (out ++ braced name)
      | none => return .again (i + 1) (out ++ ['$', '$'])) := by
    rw [plainRound, if_pos (by omega), item_of_drop h, pure_bind, if_neg (by simp), if_pos rfl, range_back (by omega), h,
      pure_bind]
  rw [hround, hfound, hmodel]
  cases found with
  | none => exact .inr ⟨rfl, rfl⟩
  | some p =>
    obtain ⟨name, used⟩ := p
    -- What is left behind a reference is shorter, so that the round moves on.
    have hshorter := reference?_length_lt hmodel
    have hused : 0 < used := by
      by_contra hzero
      rw [Nat.eq_zero_of_not_pos hzero] at hshorter
      exact Nat.lt_irrefl _ hshorter
    refine .inl ⟨name, used, hused, ?_, rfl⟩
    rw [← List.drop_drop, h]
    rfl

end Rounds

section Replacements

variable {text : String} {i : Nat}

/-- A round that takes a character goes on further behind. -/
theorem loop_index {c : Char} {rest out out' : List Char} {next : Nat} (h : text.toList.drop i = c :: rest)
    (hnext : i < next) (hround : plainRound text.toList i out = pure (.again next out')) :
    loop text (plainRound text.toList) i out = loop text (plainRound text.toList) next out' := by
  have hlength := length_of_drop h
  have hsize := length_le_byteLength text.toList
  rw [byteLength_toList] at hsize
  exact loop_again hround hnext (by omega)

theorem loop_end (h : text.toList.drop i = []) (out : List Char) :
    loop text (plainRound text.toList) i out = pure out :=
  loop_done (if_neg (by simpa using h))

/-- The loop from the index at which the rest of the replacement begins. -/
theorem loop_plainRound {rest : List Char} (h : text.toList.drop i = rest) (out : List Char) :
    loop text (plainRound text.toList) i out = pure (out ++ Replacement.toPlain rest) := by
  fun_induction Replacement.toPlain rest generalizing i out with
  | case1 => rw [loop_end h, List.append_nil]
  | case2 =>
    rw [loop_index h (Nat.lt_succ_self i) (plainRound_text h (fun _ => rfl) (by decide) out), loop_end (drop_behind h)]
  | case3 d rest _ ih =>
    obtain ⟨used, hdrop, hround⟩ := plainRound_escape h out
    rw [loop_index h (by omega) hround, ih hdrop, List.append_assoc]
  | case4 d rest name after _ href ih =>
    obtain ⟨name', used, hused, href', hround⟩ | ⟨hnone, -⟩ := plainRound_dollar h out
    · obtain ⟨rfl, hafter⟩ := Prod.mk.inj (Option.some.inj (href.symm.trans href'))
      rw [loop_index h (by omega) hround, ih hafter.symm, List.append_assoc]
    · cases href.symm.trans hnone
  | case5 d rest _ hnone ih =>
    obtain ⟨name, used, -, href, -⟩ | ⟨-, hround⟩ := plainRound_dollar h out
    · cases href.symm.trans hnone
    · rw [loop_index h (Nat.lt_succ_self i) hround, ih (drop_behind h), List.append_assoc]
  | case6 c d rest hb hd ih =>
    rw [loop_index h (Nat.lt_succ_self i) (plainRound_text h (absurd · hb) hd out), ih (drop_behind h)]
    simp
  | case7 c hb =>
    by_cases hd : c = '$'
    · subst hd
      have hnone : Replacement.reference? ['$'] = none := rfl
      obtain ⟨name, used, -, href, -⟩ | ⟨-, hround⟩ := plainRound_dollar h out
      · cases hnone.symm.trans href
      · rw [loop_index h (Nat.lt_succ_self i) hround, loop_end (drop_behind h)]
        rfl
    · rw [loop_index h (Nat.lt_succ_self i) (plainRound_text h (fun _ => rfl) hd out), loop_end (drop_behind h), literal,
        if_neg hd]

end Replacements

theorem toPlain_eq (text : String) : toPlain text = pure (Replacement.toPlain text.toList) :=
  loop_plainRound rfl []

end Stencil.ByOffset.Directives
