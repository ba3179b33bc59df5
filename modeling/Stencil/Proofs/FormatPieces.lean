import Stencil.Format
import Stencil.Proofs.Numerals

/-!
# Formats piece by piece

A format is read as it is written: texts, in which percent signs are doubled, and conversions between them. A text
comes out unchanged and a conversion gives what it gives alone, as long as one conversion takes the value. The
next conversion that takes a value is the fault of the format.
-/
namespace Stencil.Format

/-- A conversion as it is written. The digits of a width do not begin with a zero, which is a flag. -/
structure Conversion where
  flags : List Char
  width : List Char
  precision : Option (List Char)
  letter : Char
  isFlag_of_mem_flags : ∀ c ∈ flags, isFlag c = true
  isDigit_of_mem_width : ∀ c ∈ width, c.isDigit = true
  head_width_ne : ∀ c ∈ width.head?, c ≠ '0'
  width_le : Decimal.natOfDigits width ≤ maxWidth
  isDigit_of_mem_precision : ∀ p ∈ precision, ∀ c ∈ p, c.isDigit = true
  isAlpha_letter : letter.isAlpha = true

namespace Conversion

variable (c : Conversion)

def precisionText : List Char := (c.precision.map ('.' :: ·)).getD []

def text : List Char := '%' :: (c.flags ++ (c.width ++ (c.precisionText ++ [c.letter])))

def Bounded : Prop := ∀ p ∈ c.precision, Decimal.natOfDigits p ≤ maxWidth

def consumes : Bool := c.letter != 'n'

def spec : Spec where
  left := '-' ∈ c.flags
  plus := '+' ∈ c.flags
  space := ' ' ∈ c.flags
  zero := '0' ∈ c.flags
  group := ',' ∈ c.flags
  alternate := '#' ∈ c.flags
  width := Decimal.natOfDigits c.width
  precision := c.precision.map Decimal.natOfDigits
  conversion := c.letter

def plain (letter : Char) (h : letter.isAlpha = true := by decide) : Conversion where
  flags := []
  width := []
  precision := none
  letter := letter
  isFlag_of_mem_flags := List.forall_mem_nil _
  isDigit_of_mem_width := List.forall_mem_nil _
  head_width_ne := by simp
  width_le := Nat.zero_le _
  isDigit_of_mem_precision := by simp
  isAlpha_letter := h

/-- An integer in a field of so many characters. A width of zero is written like the flag. -/
def field (flags : List Char) (width : Nat) (hflags : ∀ c ∈ flags, isFlag c = true) (hwidth : width ≤ maxWidth) :
    Conversion where
  flags := if width = 0 then flags ++ ['0'] else flags
  width := if width = 0 then [] else Nat.toDigits 10 width
  precision := none
  letter := 'd'
  isFlag_of_mem_flags := by
    split
    · exact List.forall_mem_append.mpr ⟨hflags, List.forall_mem_singleton.mpr rfl⟩
    · exact hflags
  isDigit_of_mem_width := by
    split
    · exact List.forall_mem_nil _
    · exact fun c => Decimal.isDigit_of_mem_toDigits
  head_width_ne := by
    split
    · simp
    · next h => exact Decimal.head_toDigits_ne_zero (Nat.pos_of_ne_zero h)
  width_le := by
    split
    · exact Nat.zero_le _
    · rwa [Decimal.natOfDigits_toDigits]
  isDigit_of_mem_precision := by simp
  isAlpha_letter := rfl

end Conversion

theorem beq_eq_false_of_class {p : Char → Bool} {c d : Char} (hc : p c = true) (hd : p d = false) :
    (c == d) = false :=
  beq_eq_false_iff_ne.mpr (Text.ne_of_class hc hd)

theorem isFlag_of_isAlpha {c : Char} (hc : c.isAlpha = true) : isFlag c = false := by
  have h := fun d => beq_eq_false_of_class (d := d) hc
  simp only [isFlag, h '-' rfl, h '+' rfl, h ' ' rfl, h '0' rfl, h ',' rfl, h '#' rfl, Bool.or_false]

theorem isFlag_of_isDigit {c : Char} (hc : c.isDigit = true) (hne : c ≠ '0') : isFlag c = false := by
  have h := fun d => beq_eq_false_of_class (d := d) hc
  simp only [isFlag, h '-' rfl, h '+' rfl, h ' ' rfl, h ',' rfl, h '#' rfl, beq_eq_false_iff_ne.mpr hne, Bool.or_false]

theorem isDigit_of_isAlpha {c : Char} (hc : c.isAlpha = true) : c.isDigit = false := by
  have hlow : 65 ≤ c.toNat := by
    delta Char.isAlpha Char.isUpper Char.isLower at hc
    simp only [Bool.or_eq_true, Bool.and_eq_true, decide_eq_true_eq, ge_iff_le, UInt32.le_iff_toNat_le] at hc
    rcases hc with ⟨h, _⟩ | ⟨h, _⟩
    · exact h
    · exact le_trans (by decide) h
  refine Bool.eq_false_iff.mpr fun hdigit => ?_
  have hhigh := (Decimal.range_of_isDigit hdigit).2
  omega

section Number

variable {f : String → Fault} {s t : List Char} (hs : ∀ c ∈ s, c.isDigit = true)
  (ht : ∀ c ∈ t.head?, c.isDigit = false)
include hs ht

theorem number_of_le (h : Decimal.natOfDigits s ≤ maxWidth) :
    ∃ n, number f (s ++ t) = .ok (n, t) ∧ n.getD 0 = Decimal.natOfDigits s := by
  simp only [number, Text.takeWhile_append_stop hs ht, Text.dropWhile_append_stop hs ht, if_pos h]
  split
  · next hnil => exact ⟨none, rfl, hnil ▸ rfl⟩
  · exact ⟨some (Decimal.natOfDigits s), rfl, rfl⟩

theorem number_of_lt (h : maxWidth < Decimal.natOfDigits s) :
    number f (s ++ t) = .error (f (String.ofList s)) := by
  have hne : s ≠ [] := by
    rintro rfl
    exact Nat.not_lt_zero _ h
  rw [number, Text.takeWhile_append_stop hs ht, Text.dropWhile_append_stop hs ht, if_neg hne, if_neg (by omega)]

end Number

section Percent

variable {s t : List Char}

theorem pieces_percent_of_ok {p : Spec} (h : spec s = .ok (p, t)) : pieces ('%' :: s) = .conversion p :: pieces t := by
  rw [pieces, if_pos rfl]
  split
  · next herror => cases h.symm.trans herror
  · next hok =>
    cases h.symm.trans hok
    rfl

theorem pieces_percent_of_error {f : Fault} (h : spec s = .error f) : pieces ('%' :: s) = [.fault f] := by
  rw [pieces, if_pos rfl]
  split
  · next herror =>
    cases h.symm.trans herror
    rfl
  · next hok => cases h.symm.trans hok

end Percent

section Reading

variable (c : Conversion) (t : List Char)

theorem isDigit_head_letter : ∀ d ∈ (c.letter :: t).head?, d.isDigit = false := by
  rintro d ⟨⟩
  exact isDigit_of_isAlpha c.isAlpha_letter

theorem precision_of_bounded (hbounded : c.Bounded) :
    precision (c.precisionText ++ c.letter :: t) = .ok (c.precision.map Decimal.natOfDigits, c.letter :: t) := by
  unfold Conversion.precisionText
  cases hp : c.precision with
  | none =>
    have hdot : c.letter ≠ '.' := Text.ne_of_class c.isAlpha_letter rfl
    simp [precision, hdot]
  | some p =>
    obtain ⟨n, hnumber, hn⟩ := number_of_le (f := .precision) (c.isDigit_of_mem_precision p hp)
      (isDigit_head_letter c t) (hbounded p hp)
    simp [precision, hnumber, hn, Except.map]

theorem precision_of_lt {p : List Char} (hp : c.precision = some p) (hlt : maxWidth < Decimal.natOfDigits p) :
    precision (c.precisionText ++ c.letter :: t) = .error (.precision (String.ofList p)) := by
  have hnumber := number_of_lt (f := .precision) (c.isDigit_of_mem_precision p hp) (isDigit_head_letter c t) hlt
  simp [Conversion.precisionText, hp, precision, hnumber, Except.map]

theorem head_precisionText : ∀ d ∈ (c.precisionText ++ c.letter :: t).head?, d.isDigit = false ∧ isFlag d = false := by
  unfold Conversion.precisionText
  cases c.precision with
  | none =>
    rintro d ⟨⟩
    exact ⟨isDigit_of_isAlpha c.isAlpha_letter, isFlag_of_isAlpha c.isAlpha_letter⟩
  | some p =>
    rintro d ⟨⟩
    exact ⟨rfl, rfl⟩

theorem head_width : ∀ d ∈ (c.width ++ (c.precisionText ++ c.letter :: t)).head?, isFlag d = false := by
  cases hw : c.width with
  | nil => exact fun d hd => (head_precisionText c t d hd).2
  | cons w ws =>
    rintro d ⟨⟩
    exact isFlag_of_isDigit (c.isDigit_of_mem_width w (hw ▸ List.mem_cons_self)) (c.head_width_ne w (by simp [hw]))

theorem takeWhile_flags :
    (c.flags ++ (c.width ++ (c.precisionText ++ c.letter :: t))).takeWhile isFlag = c.flags :=
  Text.takeWhile_append_stop c.isFlag_of_mem_flags (head_width c t)

theorem dropWhile_flags :
    (c.flags ++ (c.width ++ (c.precisionText ++ c.letter :: t))).dropWhile isFlag =
      c.width ++ (c.precisionText ++ c.letter :: t) :=
  Text.dropWhile_append_stop c.isFlag_of_mem_flags (head_width c t)

theorem number_width :
    ∃ n, number .width (c.width ++ (c.precisionText ++ c.letter :: t)) = .ok (n, c.precisionText ++ c.letter :: t) ∧
      n.getD 0 = Decimal.natOfDigits c.width :=
  number_of_le c.isDigit_of_mem_width (fun d hd => (head_precisionText c t d hd).1) c.width_le

theorem text_append :
    c.text ++ t = '%' :: (c.flags ++ (c.width ++ (c.precisionText ++ c.letter :: t))) := by
  simp [Conversion.text]

theorem pieces_text (hbounded : c.Bounded) : pieces (c.text ++ t) = .conversion c.spec :: pieces t := by
  obtain ⟨n, hnumber, hn⟩ := number_width c t
  rw [text_append]
  apply pieces_percent_of_ok
  simp only [spec, takeWhile_flags, dropWhile_flags, hnumber, precision_of_bounded c t hbounded, hn, Conversion.spec]

/-- A precision that is too large ends the reading. -/
theorem pieces_text_of_lt {p : List Char} (hp : c.precision = some p) (hlt : maxWidth < Decimal.natOfDigits p) :
    pieces (c.text ++ t) = [.fault (.precision (String.ofList p))] := by
  obtain ⟨n, hnumber, hn⟩ := number_width c t
  rw [text_append]
  apply pieces_percent_of_error
  simp only [spec, dropWhile_flags, hnumber, precision_of_lt c t hp hlt]

end Reading

def doubled (a : List Char) : List Char := a.flatMap fun c => if c = '%' then ['%', '%'] else [c]

/-- A double percent sign is a conversion of its own. -/
def percent : Spec where
  left := false
  plus := false
  space := false
  zero := false
  group := false
  alternate := false
  width := 0
  precision := none
  conversion := '%'

theorem pieces_double_percent (t : List Char) : pieces ('%' :: '%' :: t) = .conversion percent :: pieces t :=
  pieces_percent_of_ok rfl

theorem map_empty_append (x : Except Fault String) : x.map ("" ++ ·) = x := by
  cases x with
  | error f => rfl
  | ok s => exact congrArg Except.ok String.empty_append

theorem map_append_append (x : Except Fault String) (s t : String) :
    (x.map (t ++ ·)).map (s ++ ·) = x.map (s ++ t ++ ·) := by
  cases x with
  | error f => rfl
  | ok u => exact congrArg Except.ok String.append_assoc.symm

/-- A text comes out as it is, whatever follows it. -/
theorem write_doubled (value : String) (fresh : Bool) (a t : List Char) :
    write value fresh (pieces (doubled a ++ t)) =
      (write value fresh (pieces t)).map (String.ofList a ++ ·) := by
  induction a with
  | nil => exact (map_empty_append _).symm
  | cons c a ih =>
    rw [String.ofList_cons]
    by_cases hc : c = '%'
    · subst hc
      have hwritten : doubled ('%' :: a) ++ t = '%' :: '%' :: (doubled a ++ t) := rfl
      rw [hwritten, pieces_double_percent, write, if_pos (show percent.conversion = '%' from rfl), ih, map_append_append]
      rfl
    · have hwritten : doubled (c :: a) ++ t = c :: (doubled a ++ t) := by simp [doubled, hc]
      rw [hwritten, pieces, if_neg hc, write, ih, map_append_append]

section Write

variable {c : Conversion} {value : String} {fresh : Bool} (t : List Char)

theorem write_text (hbounded : c.Bounded) :
    write value fresh (pieces (c.text ++ t)) =
      if c.letter = 'n' then (write value fresh (pieces t)).map ("\n" ++ ·)
      else if fresh then
        match convert c.spec value with
        | .error f => .error f
        | .ok s => (write value false (pieces t)).map (s ++ ·)
      else .error (.missingArgument c.letter) := by
  have hpercent : c.spec.conversion ≠ '%' := Text.ne_of_class c.isAlpha_letter rfl
  rw [pieces_text c t hbounded, write, if_neg hpercent]
  cases fresh <;> rfl

theorem format_text (hbounded : c.Bounded) :
    format (String.ofList c.text) value = if c.consumes then convert c.spec value else .ok "\n" := by
  rw [format, String.toList_ofList, ← List.append_nil c.text, write_text [] hbounded]
  by_cases hn : c.letter = 'n'
  · have hconsumes : c.consumes = false := by simp [Conversion.consumes, hn]
    rw [if_pos hn, hconsumes, pieces, write]
    rfl
  · rw [if_neg hn, if_pos rfl, if_pos (show c.consumes = true from bne_iff_ne.mpr hn), pieces, write]
    cases convert c.spec value with
    | error f => rfl
    | ok s => exact congrArg Except.ok String.append_empty

/-- Before the value is used a conversion gives what it gives alone, and one that takes no value does so always. -/
theorem write_text_of_alone {r : String} (hbounded : c.Bounded)
    (halone : format (String.ofList c.text) value = .ok r) (hfresh : c.consumes = true → fresh = true) :
    write value fresh (pieces (c.text ++ t)) =
      (write value (fresh && !c.consumes) (pieces t)).map (r ++ ·) := by
  rw [format_text hbounded] at halone
  rw [write_text t hbounded]
  cases hconsumes : c.consumes with
  | false =>
    have hn : c.letter = 'n' := by simpa [Conversion.consumes] using hconsumes
    rw [hconsumes] at halone
    cases halone
    rw [if_pos hn, Bool.not_false, Bool.and_true]
  | true =>
    rw [if_pos hconsumes] at halone
    rw [if_neg (bne_iff_ne.mp hconsumes), if_pos (hfresh hconsumes), halone, Bool.not_true, Bool.and_false]

/-- The second conversion that takes the value does not find it. -/
theorem write_text_of_used (hbounded : c.Bounded) (hconsumes : c.consumes = true) :
    write value false (pieces (c.text ++ t)) = .error (.missingArgument c.letter) := by
  rw [write_text t hbounded, if_neg (bne_iff_ne.mp hconsumes), if_neg Bool.false_ne_true]

theorem write_text_of_lt {p : List Char} (hp : c.precision = some p) (hlt : maxWidth < Decimal.natOfDigits p) :
    write value fresh (pieces (c.text ++ t)) = .error (.precision (String.ofList p)) := by
  rw [pieces_text_of_lt c t hp hlt, write]

end Write

theorem exists_convert {p : Spec} (h : p.conversion ∈ ['s', 'S', 'b']) (value : String) :
    ∃ s, convert p value = .ok s := by
  obtain ⟨_, _, _, _, _, _, _, _, conversion⟩ := p
  simp only [List.mem_cons, List.not_mem_nil, or_false] at h
  rcases h with rfl | rfl | rfl
  · exact ⟨_, rfl⟩
  · exact ⟨_, rfl⟩
  · exact ⟨_, rfl⟩

/-- A conversion of texts gives a result for every value. -/
theorem exists_format_text {c : Conversion} (value : String) (hbounded : c.Bounded)
    (hletter : c.letter ∈ ['s', 'S', 'b', 'n']) : ∃ r, format (String.ofList c.text) value = .ok r := by
  rw [format_text hbounded]
  split
  · next hconsumes =>
    have hn : c.letter ≠ 'n' := bne_iff_ne.mp hconsumes
    have hconversion : c.letter ∈ ['s', 'S', 'b'] := by simpa [hn] using hletter
    exact exists_convert hconversion value
  · exact ⟨"\n", rfl⟩

def written : List (Conversion × List Char) → List Char
  | [] => []
  | (c, a) :: rest => c.text ++ (doubled a ++ written rest)

def joined : List (Conversion × List Char) → List String → String
  | (_, a) :: rest, r :: results => r ++ (String.ofList a ++ joined rest results)
  | _, _ => ""

theorem written_append (segments after : List (Conversion × List Char)) :
    written (segments ++ after) = written segments ++ written after := by
  induction segments with
  | nil => rfl
  | cons s segments ih =>
    rw [List.cons_append, written, written, ih, List.append_assoc, List.append_assoc]

section Run

variable {segments : List (Conversion × List Char)} {results : List String} {value : String} {fresh : Bool}

/-- By induction on the conversions: those read so far leave the value for the rest, unless one of them takes it. -/
theorem write_written (hbounded : ∀ s ∈ segments, s.1.Bounded)
    (halone : List.Forall₂ (fun s r => format (String.ofList s.1.text) value = .ok r) segments results)
    (hcount : segments.countP (·.1.consumes) ≤ fresh.toNat) (t : List Char) :
    write value fresh (pieces (written segments ++ t)) =
      (write value (fresh && !segments.any (·.1.consumes)) (pieces t)).map (joined segments results ++ ·) := by
  induction halone generalizing fresh with
  | nil =>
    rw [List.any_nil, Bool.not_false, Bool.and_true]
    exact (map_empty_append _).symm
  | @cons s r segments results hs hrest ih =>
    obtain ⟨c, a⟩ := s
    rw [List.countP_cons] at hcount
    have hfresh : c.consumes = true → fresh = true := by
      intro hconsumes
      cases fresh with
      | true => rfl
      | false => simp [hconsumes] at hcount
    have hcount' : segments.countP (·.1.consumes) ≤ (fresh && !c.consumes).toNat := by
      cases hconsumes : c.consumes with
      | false => simpa [hconsumes] using hcount
      | true => simpa [hconsumes, hfresh hconsumes] using hcount
    rw [written, List.append_assoc, List.append_assoc, write_text_of_alone _ (hbounded _ List.mem_cons_self) hs hfresh,
      write_doubled, ih (fun s hs => hbounded s (List.mem_cons_of_mem _ hs)) hcount', map_append_append, map_append_append,
      joined, String.append_assoc, List.any_cons, Bool.not_or, Bool.and_assoc]

theorem exists_results (value : String) (hbounded : ∀ s ∈ segments, s.1.Bounded)
    (hletter : ∀ s ∈ segments, s.1.letter ∈ ['s', 'S', 'b', 'n']) :
    ∃ results, List.Forall₂ (fun s r => format (String.ofList s.1.text) value = .ok r) segments results := by
  induction segments with
  | nil => exact ⟨[], .nil⟩
  | cons s segments ih =>
    obtain ⟨r, hr⟩ := exists_format_text value (hbounded s List.mem_cons_self) (hletter s List.mem_cons_self)
    obtain ⟨results, hresults⟩ := ih (fun s hs => hbounded s (List.mem_cons_of_mem _ hs))
      (fun s hs => hletter s (List.mem_cons_of_mem _ hs))
    exact ⟨r :: results, .cons hr hresults⟩

theorem format_append (a t : List Char) (hbounded : ∀ s ∈ segments, s.1.Bounded)
    (halone : List.Forall₂ (fun s r => format (String.ofList s.1.text) value = .ok r) segments results)
    (hcount : segments.countP (·.1.consumes) ≤ 1) :
    format (String.ofList (doubled a ++ (written segments ++ t))) value =
      (write value (!segments.any (·.1.consumes)) (pieces t)).map
        (String.ofList a ++ joined segments results ++ ·) := by
  have hfresh : segments.countP (·.1.consumes) ≤ true.toNat := hcount
  rw [format, String.toList_ofList, write_doubled, write_written hbounded halone hfresh, Bool.true_and, map_append_append]

/-- Texts come out unchanged between conversions of texts, of which each gives what it gives alone, as long as one
at most takes the value. The second one that takes it is the fault of the format, and so is a precision that is too
large, whichever stands first. -/
theorem format_written (a : List Char) (value : String)
    (hletter : ∀ s ∈ segments, s.1.letter ∈ ['s', 'S', 'b', 'n']) :
    ((∀ s ∈ segments, s.1.Bounded) → segments.countP (·.1.consumes) ≤ 1 →
      ∃ results, List.Forall₂ (fun s r => format (String.ofList s.1.text) value = .ok r) segments results ∧
        format (String.ofList (doubled a ++ written segments)) value =
          .ok (String.ofList a ++ joined segments results)) ∧
    (∀ before c b after, segments = before ++ (c, b) :: after →
      (∀ s ∈ before, s.1.Bounded) → before.countP (·.1.consumes) = 1 → c.Bounded → c.consumes = true →
      format (String.ofList (doubled a ++ written segments)) value = .error (.missingArgument c.letter)) ∧
    (∀ before c b after p, segments = before ++ (c, b) :: after →
      (∀ s ∈ before, s.1.Bounded) → before.countP (·.1.consumes) ≤ 1 →
      c.precision = some p → maxWidth < Decimal.natOfDigits p →
      format (String.ofList (doubled a ++ written segments)) value = .error (.precision (String.ofList p))) := by
  refine ⟨fun hbounded hcount => ?_, ?_, ?_⟩
  · obtain ⟨results, halone⟩ := exists_results value hbounded hletter
    refine ⟨results, halone, ?_⟩
    rw [← List.append_nil (written segments), format_append a [] hbounded halone hcount, pieces, write]
    exact congrArg Except.ok String.append_empty
  · rintro before c b after rfl hbounded hcount hc hconsumes
    obtain ⟨results, halone⟩ := exists_results value hbounded (fun s hs => hletter s (List.mem_append_left _ hs))
    have hused : before.any (·.1.consumes) = true := by
      obtain ⟨s, hs, htakes⟩ := List.countP_pos_iff.mp (hcount.symm ▸ Nat.one_pos)
      exact List.any_eq_true.mpr ⟨s, hs, htakes⟩
    rw [written_append, format_append a _ hbounded halone hcount.le, hused, written,
      Bool.not_true, write_text_of_used _ hc hconsumes]
    rfl
  · rintro before c b after p rfl hbounded hcount hp hlt
    obtain ⟨results, halone⟩ := exists_results value hbounded (fun s hs => hletter s (List.mem_append_left _ hs))
    rw [written_append, format_append a _ hbounded halone hcount, written, write_text_of_lt _ hp hlt]
    rfl

end Run

def Conversion.cut (places : List Char) (h : places.all Char.isDigit = true := by decide) : Conversion where
  __ := Conversion.plain 's'
  precision := some places
  isDigit_of_mem_precision := by
    rintro p ⟨⟩
    exact List.all_eq_true.mp h

theorem format_written_cut :
    format "50%% %.1s|" "abc" = .ok "50% a|" ∧
    format "50%% %.1s|%.1s" "abc" = .error (.missingArgument 's') ∧
    format "50%% %.1s|%.4097s" "abc" = .error (.precision "4097") := by
  have hbounded : (Conversion.cut ['1']).Bounded := by
    rintro p ⟨⟩
    decide
  have hone : ∀ s ∈ [(Conversion.cut ['1'], ['|'])], s.1.letter ∈ ['s', 'S', 'b', 'n'] := by decide
  have htwo : ∀ s ∈ [(Conversion.cut ['1'], ['|']), (.cut ['1'], [])], s.1.letter ∈ ['s', 'S', 'b', 'n'] := by decide
  have hlarge : ∀ s ∈ [(Conversion.cut ['1'], ['|']), (.cut "4097".toList, [])],
      s.1.letter ∈ ['s', 'S', 'b', 'n'] := by decide
  refine ⟨?_, ?_, ?_⟩
  · obtain ⟨results, halone, hformat⟩ :=
      (format_written "50% ".toList "abc" hone).1 (by simpa using hbounded) (by decide)
    have hcut : format "%.1s" "abc" = .ok "a" := by decide +kernel
    rcases halone with _ | ⟨hr, _ | _⟩
    cases hcut.symm.trans hr
    exact hformat
  · exact (format_written "50% ".toList "abc" htwo).2.1 [_] _ [] [] rfl (by simpa using hbounded) (by decide) hbounded
      (by decide)
  · exact (format_written "50% ".toList "abc" hlarge).2.2 [_] _ [] [] _ rfl (by simpa using hbounded) (by decide) rfl
      (by decide)

/-- A single conversion is refused if its precision is too large. -/
theorem format_written_large_precision :
    ∃ c : Conversion, c.letter = 's' ∧ c.flags = [] ∧ c.width = [] ∧
      String.ofList (doubled [] ++ written [(c, [])]) = "%.4097s" ∧
      format (String.ofList (doubled [] ++ written [(c, [])])) "v" = .error (.precision "4097") := by
  refine ⟨.cut "4097".toList, rfl, rfl, rfl, rfl, ?_⟩
  decide +kernel

end Stencil.Format
