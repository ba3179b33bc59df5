import Stencil.Proofs.CaseMarks
import Stencil.Proofs.Grammar
import Stencil.Proofs.GroupNames

/-!
# Written replacements

A replacement as a row of texts and references to groups, and how it is written: with a backslash before each
backslash, dollar sign and slash of a text, and with the number of a group in braces. What is written goes through
three readers, of which the first ends it at a slash, the second resolves the escapes, and the third knows dollar
signs only.
-/
namespace Stencil.Pattern.Replacement

open Stencil.Text Stencil.Tag.Grammar

structure GroupNumber where
  digits : List Char
  nonempty : digits ≠ []
  valid : digits.all Char.isDigit = true

def GroupNumber.value (n : GroupNumber) : ℕ := Decimal.natOfDigits n.digits

inductive Piece where
  | text (s : List Char)
  | group (n : GroupNumber)

def isEscapedMark (c : Char) : Bool := c == '\\' || c == '$' || c == '/'

namespace Piece

def written : Piece → List Char
  | text s => escapeMarks isEscapedMark s
  | group n => braced n.digits

/-- What a piece stands for at a match. Group numbers have 64 bits; there is no group of a higher number. -/
def meaning (input : List Char) (m : Match) : Piece → List Char
  | text s => s
  | group n => if n.value < Nat.pow 2 64 then m.groupText input n.value else []

def plain : Piece → List Char
  | text s => s.flatMap literal
  | group n => braced n.digits

def parts : Piece → List Part
  | text s => s.map .char
  | group n => [.group n.digits]

end Piece

theorem splitAt?_append {mark : Char} {s : List Char} (h : mark ∉ s) (t : List Char) :
    splitAt? mark (s ++ mark :: t) = some (s, t) := by
  have hs : ∀ c ∈ s, (c != mark) = true := by
    intro c hc
    rw [bne_iff_ne]
    rintro rfl
    exact h hc
  have htake : (s ++ mark :: t).takeWhile (· != mark) = s :=
    takeWhile_append_stop hs (by simp)
  have hdrop : (s ++ mark :: t).dropWhile (· != mark) = mark :: t :=
    dropWhile_append_stop hs (by simp)
  rw [splitAt?, hdrop, htake]

variable (n : GroupNumber)

theorem GroupNumber.not_mem {c : Char} (hc : c.isDigit = false) : c ∉ n.digits := by
  intro hmem
  have := List.all_eq_true.mp n.valid c hmem
  simp [hc] at this

theorem reference?_braced (t : List Char) :
    reference? ('$' :: '\x7b' :: (n.digits ++ '\x7d' :: t)) = some (n.digits, t) := by
  rw [reference?, splitAt?_append (n.not_mem (by decide))]
  simp [n.nonempty]

theorem braced_append (name t : List Char) :
    braced name ++ t = '$' :: '\x7b' :: (name ++ '\x7d' :: t) := by
  simp [braced]

theorem toPlain_braced (t : List Char) : toPlain (braced n.digits ++ t) = braced n.digits ++ toPlain t := by
  rw [braced_append, toPlain, if_neg (by decide), if_pos rfl]
  split
  · next name after h =>
    rw [reference?_braced, Option.some.injEq, Prod.mk.injEq] at h
    rw [h.1, h.2]
  · next h =>
    rw [reference?_braced] at h
    simp at h

theorem parts_braced (t : List Char) : parts (braced n.digits ++ t) = .group n.digits :: parts t := by
  have hname : name? ('\x7b' :: (n.digits ++ '\x7d' :: t)) = some (n.digits, t) :=
    splitAt?_append (n.not_mem (by decide)) t
  rw [braced_append, parts, if_pos rfl]
  · split
    · next name after h =>
      rw [hname, Option.some.injEq, Prod.mk.injEq] at h
      rw [h.1, h.2]
    · next h =>
      rw [hname] at h
      simp at h
  · simp

theorem toPlain_cons {c : Char} (hb : c ≠ '\\') (hd : c ≠ '$') (s : List Char) :
    toPlain (c :: s) = c :: toPlain s := by
  cases s with
  | nil => simp [toPlain, literal, hd]
  | cons d s => rw [toPlain, if_neg hb, if_neg hd]

theorem toPlain_escaped {c : Char} (hc : isEscapedMark c = true) (s : List Char) :
    toPlain ('\\' :: c :: s) = literal c ++ toPlain s := by
  have hescaped : escaped c s = (literal c, s) := by
    simp only [isEscapedMark, Bool.or_eq_true, beq_iff_eq] at hc
    rcases hc with (rfl | rfl) | rfl <;> rfl
  rw [toPlain, if_pos rfl, hescaped]

theorem toPlain_text (s t : List Char) :
    toPlain (escapeMarks isEscapedMark s ++ t) = s.flatMap literal ++ toPlain t := by
  induction s with
  | nil => rfl
  | cons c s ih =>
    rw [List.flatMap_cons, List.append_assoc, ← ih]
    cases hc : isEscapedMark c with
    | true => rw [escapeMarks_cons_of_mark hc, List.cons_append, List.cons_append, toPlain_escaped hc]
    | false =>
      have hne : c ≠ '\\' ∧ c ≠ '$' := by
        simp only [isEscapedMark, Bool.or_eq_false_iff, beq_eq_false_iff_ne] at hc
        exact hc.1
      rw [escapeMarks_cons_of_not_mark hc, List.cons_append, toPlain_cons hne.1 hne.2, literal, if_neg hne.2,
        List.singleton_append]

theorem parts_literal (c : Char) (s : List Char) : parts (literal c ++ s) = .char c :: parts s := by
  by_cases hc : c = '$'
  -- two dollar signs stand for one
  · rw [literal, if_pos hc, hc]
    simp [parts]
  · rw [literal, if_neg hc, List.singleton_append, parts, if_neg hc]
    simp [hc]

theorem parts_text (s t : List Char) : parts (s.flatMap literal ++ t) = s.map .char ++ parts t := by
  induction s with
  | nil => rfl
  | cons c s ih => rw [List.flatMap_cons, List.append_assoc, parts_literal, ih, List.map_cons, List.cons_append]

variable (ps : List Piece)

def written : List Char := ps.flatMap Piece.written

def meaning (input : List Char) (m : Match) : List Char := ps.flatMap (Piece.meaning input m)

theorem toPlain_written : toPlain (written ps) = ps.flatMap Piece.plain := by
  induction ps with
  | nil => simp [written, toPlain]
  | cons p ps ih =>
    rw [written, List.flatMap_cons, List.flatMap_cons, ← ih]
    cases p with
    | text s => exact toPlain_text s _
    | group n => exact toPlain_braced n _

theorem parts_written : parts (toPlain (written ps)) = ps.flatMap Piece.parts := by
  rw [toPlain_written]
  induction ps with
  | nil => simp [parts]
  | cons p ps ih =>
    rw [List.flatMap_cons, List.flatMap_cons, ← ih]
    cases p with
    | text s => exact parts_text s _
    | group n => exact parts_braced n _

/-- A written replacement does not end before the slash behind it. -/
theorem guarded_written : Guarded '/' (written ps) := by
  induction ps with
  | nil => exact guarded_nil '/'
  | cons p ps ih =>
    refine Guarded.append ?_ ih
    cases p with
    | text s => exact guarded_escapeMarks_of_backslash rfl rfl (by decide)
    | group n =>
      have hslash := n.not_mem (c := '/') (by decide)
      have hbackslash := n.not_mem (c := '\\') (by decide)
      exact guarded_of_not_mem (by simpa [Piece.written, braced] using hslash)
        (by simpa [Piece.written, braced] using hbackslash)

theorem unsigned?_digits :
    Decimal.unsigned? 64 n.digits = if n.value < Nat.pow 2 64 then some n.value else none := by
  have hplus := n.not_mem (c := '+') (by decide)
  have hnatural : Decimal.natural? n.digits = some n.value := by
    rw [Decimal.natural?, if_pos ⟨n.nonempty, n.valid⟩, GroupNumber.value]
  rw [Decimal.unsigned?, hnatural, Option.filter_some]
  · exact if_congr decide_eq_true_iff rfl rfl
  · intro rest h
    simp [h] at hplus

/-- A reference by number is to the group of this number, since no group has a number for a name. -/
theorem index?_digits {p : Pattern} (hp : ∀ x ∈ p.names, IsGroupName x.1) :
    index? p n.digits = if n.value < Nat.pow 2 64 then some n.value else none := by
  have hnames : p.names.find? (·.1 == String.ofList n.digits) = none := by
    rw [List.find?_eq_none]
    intro x hx
    rw [beq_iff_eq]
    exact (hp x hx).not_digits n.valid
  rw [index?, unsigned?_digits, hnames]
  by_cases hvalue : n.value < Nat.pow 2 64
  · rw [if_pos hvalue]
  · rw [if_neg hvalue, Option.map_none]

theorem expand_written {p : Pattern} (hp : ∀ x ∈ p.names, IsGroupName x.1) (input : List Char) (m : Match) :
    expand p input m (parts (toPlain (written ps))) = meaning ps input m := by
  rw [parts_written, expand, List.flatMap_assoc, meaning]
  refine List.flatMap_congr fun piece _ => ?_
  cases piece with
  | text s => exact expand_chars p input m s
  | group n =>
    rw [Piece.parts, List.flatMap_singleton, Part.expand, index?_digits n hp, Piece.meaning]
    by_cases hvalue : n.value < Nat.pow 2 64
    · rw [if_pos hvalue, if_pos hvalue]
    · rw [if_neg hvalue, if_neg hvalue]

theorem changeCase_of_no_closing {s : List Char} (hU : ¬closingMark 'U' <:+: s) (hL : ¬closingMark 'L' <:+: s) :
    changeCase s = s := by
  have hupper : ¬HasPair (openingMark 'U') (closingMark 'U') s := fun h => hU h.closes
  have hlower : ¬HasPair (openingMark 'L') (closingMark 'L') s := fun h => hL h.closes
  rw [changeCase_eq, changeMarked_of_not_hasPair (closingMark_ne_nil 'U') hupper,
    changeMarked_of_not_hasPair (closingMark_ne_nil 'L') hlower]

end Stencil.Pattern.Replacement

namespace Stencil.Pattern.Directive

open Stencil.Text Stencil.Tag.Grammar Replacement

variable {d : Directive}

def ofParts (pattern replacement flags : List Char) : Directive :=
  ⟨String.ofList pattern, some (String.ofList replacement), 'g' ∈ flags, 'i' ∈ flags, 'm' ∈ flags, 's' ∈ flags⟩

theorem withFlags_flags (pattern replacement : List Char) (flags : Flags) :
    withFlags pattern (some replacement) flags.chars = ofParts pattern replacement flags.chars := by
  have hflags : flags.chars.reverse.takeWhile isFlag = flags.chars.reverse :=
    List.takeWhile_eq_self_iff.mpr fun c hc => flags.valid c (List.mem_reverse.mp hc)
  rw [withFlags, hflags]
  simp [ofParts]

/-- A substitution whose parts keep their slashes escaped is read back as it was written. -/
theorem parseSubstitution_parts (pattern replacement : Body) (flags : Flags) :
    parseSubstitution (String.ofList
        ('s' :: '/' :: (pattern.chars ++ '/' :: (replacement.chars ++ '/' :: flags.chars)))) =
      .ok (ofParts pattern.chars replacement.chars flags.chars) := by
  have hlast : ∀ c ∈ '/' :: flags.chars, isBlank c = false :=
    List.forall_mem_cons.mpr ⟨by decide, fun c hc => isBlank_of_isFlag (flags.valid c hc)⟩
  have htrim : trim ('s' :: '/' :: (pattern.chars ++ '/' :: (replacement.chars ++ '/' :: flags.chars))) =
      's' :: '/' :: (pattern.chars ++ '/' :: (replacement.chars ++ '/' :: flags.chars)) := by
    have hparts : 's' :: '/' :: (pattern.chars ++ '/' :: (replacement.chars ++ '/' :: flags.chars)) =
        ('s' :: '/' :: (pattern.chars ++ '/' :: replacement.chars)) ++ '/' :: flags.chars := by simp
    refine trim_of_ends ?_ ?_
    · rintro _ ⟨⟩
      decide
    · rw [hparts]
      exact getLast_append (List.cons_ne_nil _ _) hlast
  rw [parseSubstitution, String.toList_ofList, htrim]
  simp only [dropStart?, if_true, Option.some_or, Option.bind_eq_bind, Option.bind_some, pattern.guarded.cut,
    replacement.guarded.cut, withFlags_flags]
  rfl

variable {p : Pattern}

theorem names_of_compile (hp : d.compile = .ok p) : ∀ x ∈ p.names, IsGroupName x.1 := by
  obtain ⟨n, t, ht, rfl⟩ := compile_eq_ok hp
  exact parse_yields _ _ ht

/-- A substitution written as a pattern with its slashes escaped, a written replacement and flags is read as such,
and rewrites the matches, or the first one without the flag `g`, as the pieces of the replacement say. -/
theorem substitute_written (pattern : Body) (ps : List Piece) (flags : Flags)
    (hp : (ofParts pattern.chars (written ps) flags.chars).compile = .ok p) (input : List Char) :
    parseSubstitution (String.ofList
        ('s' :: '/' :: (pattern.chars ++ '/' :: (written ps ++ '/' :: flags.chars)))) =
      .ok (ofParts pattern.chars (written ps) flags.chars) ∧
    ∃ out, Rewritten (fun m _ => meaning ps input m) 0
        (if 'g' ∈ flags.chars then p.all input else (p.find? input 0).toList) input out ∧
      (¬closingMark 'U' <:+: out → ¬closingMark 'L' <:+: out →
        (ofParts pattern.chars (written ps) flags.chars).substitute input = .ok out) := by
  have hmeaning (m : Match) : expand p input m (parts (toPlain (String.ofList (written ps)).toList)) =
      meaning ps input m := by
    rw [String.toList_ofList]
    exact expand_written ps (names_of_compile hp) input m
  obtain ⟨out, hout, hsubstitute⟩ :=
    substitute_rewritten (f := fun m _ => meaning ps input m) hp input fun m _ => hmeaning m
  simp only [ofParts, decide_eq_true_eq] at hout
  refine ⟨parseSubstitution_parts pattern ⟨written ps, guarded_written ps⟩ flags, out, hout, fun hU hL => ?_⟩
  rw [hsubstitute, changeCase_of_no_closing hU hL]

def mixedPieces : List Piece :=
  [.text "$1/".toList, .group ⟨['0', '1'], by decide, by decide⟩, .group ⟨['7'], by decide, by decide⟩]

theorem substitute_written_groups :
    ∃ p, (ofParts "a(b)".toList (written mixedPieces) ['g']).compile = .ok p ∧
      parseSubstitution "s/a(b)/\\$1\\/$\x7b01\x7d$\x7b7\x7d/g" =
        .ok (ofParts "a(b)".toList (written mixedPieces) ['g']) ∧
      (ofParts "a(b)".toList (written mixedPieces) ['g']).substitute "ab-ab".toList = .ok "$1/b-$1/b".toList := by
  obtain ⟨p, hp, hall⟩ := exists_compile (ofParts "a(b)".toList (written mixedPieces) ['g']) "ab-ab".toList
    [⟨0, 2, [(1, 2), (3, 2), (2, 1), (0, 0)]⟩, ⟨3, 5, [(1, 5), (3, 5), (2, 4), (0, 3)]⟩] (by decide +kernel)
  obtain ⟨hparse, out, hout, hsubstitute⟩ := substitute_written ⟨"a(b)".toList, by decide⟩ mixedPieces
    ⟨['g'], List.forall_mem_singleton.mpr rfl⟩ hp "ab-ab".toList
  have hrewritten : Rewritten (fun m _ => meaning mixedPieces "ab-ab".toList m) 0 (p.all "ab-ab".toList)
      ([] ++ (['a', 'b'] ++ (['-'] ++ (['a', 'b'] ++ []))))
      ([] ++ ("$1/b".toList ++ (['-'] ++ ("$1/b".toList ++ [])))) := by
    rw [hall]
    exact .next rfl rfl (.next rfl rfl (.rest 5 []))
  obtain rfl := hout.unique hrewritten
  exact ⟨p, hp, hparse, hsubstitute (by decide) (by decide)⟩

/-- A comment may end in a backslash, which takes the slash behind it out of the literal. -/
theorem parseSubstitution_backslash :
    '/' ∉ "(?x)a#\\".toList ∧
      (∃ p, (ofParts "(?x)a#\\".toList (written [.text ['b']]) []).compile = .ok p) ∧
      parseSubstitution (String.ofList
          ('s' :: '/' :: ("(?x)a#\\".toList ++ '/' :: (written [.text ['b']] ++ '/' :: [])))) =
        .error (.missingDelimiter "s/(?x)a#\\/b/") := by
  obtain ⟨p, hp, -⟩ := exists_compile (ofParts "(?x)a#\\".toList (written [.text ['b']]) [])
    ['a'] [⟨0, 1, [(1, 1), (0, 0)]⟩] (by decide +kernel)
  exact ⟨by decide, ⟨p, hp⟩, by decide +kernel⟩

end Stencil.Pattern.Directive
