import Mathlib.Data.List.Induction
import Stencil.Text.Escape

/-!
# Texts that keep a mark escaped

Scanning for an unescaped mark passes over a text in which every occurrence of the mark is escaped, and stops at
the first one that is not. The parity that the scan carries along is the parity of the run of backslashes behind
it.
-/
namespace Stencil.Text

/-- Whether the character after a text is escaped; the flag tells whether its first one is. -/
def escapedPast (escaped : Bool) (s : List Char) : Bool :=
  s.foldl (fun b c => escapes c b) escaped

@[simp] theorem escapedPast_nil (b : Bool) : escapedPast b [] = b := rfl

@[simp] theorem escapedPast_cons (b : Bool) (c : Char) (s : List Char) :
    escapedPast b (c :: s) = escapedPast (escapes c b) s := rfl

theorem escapedPast_append (b : Bool) (s t : List Char) :
    escapedPast b (s ++ t) = escapedPast (escapedPast b s) t := List.foldl_append

theorem escapedPast_append_singleton (b : Bool) (s : List Char) (c : Char) :
    escapedPast b (s ++ [c]) = escapes c (escapedPast b s) := by
  simp [escapedPast]

theorem escapedAfter_cons (c : Char) (behind : List Char) :
    escapedAfter (c :: behind) = escapes c (escapedAfter behind) := by
  by_cases hc : c = '\\'
  · have hp : ∀ n : ℕ, ((n + 1) % 2 == 1) = !(n % 2 == 1) := by
      intro n
      rcases Nat.mod_two_eq_zero_or_one n with h | h <;> simp [Nat.add_mod, h]
    simp [escapedAfter, escapes, hc, hp]
  · simp [escapedAfter, escapes, hc]

/-- The carried parity looks no further back than the backslashes right behind. -/
theorem escapedPast_false (s : List Char) : escapedPast false s = escapedAfter s.reverse := by
  induction s using List.reverseRecOn with
  | nil => rfl
  | append_singleton s c ih =>
    rw [escapedPast_append_singleton, ih, List.reverse_append, List.reverse_singleton,
      List.singleton_append, escapedAfter_cons]

theorem escapedAfter_reverse_append (front s : List Char) :
    escapedAfter (front ++ s).reverse = escapedPast (escapedAfter front.reverse) s := by
  rw [← escapedPast_false, escapedPast_append, escapedPast_false]

theorem escapedPast_of_no_backslash {s : List Char} (h : '\\' ∉ s) :
    escapedPast false s = false := by
  induction s with
  | nil => rfl
  | cons c s ih =>
    simp only [List.mem_cons, not_or] at h
    have hc : escapes c false = false := by simp [escapes, Ne.symm h.1]
    rw [escapedPast_cons, hc, ih h.2]

/-- Where the scan finds nothing it goes on behind the text with the parity of its end. -/
theorem cut_append_of_none {mark : Char} {b : Bool} {s : List Char} (h : cut mark b s = none)
    (t : List Char) :
    cut mark b (s ++ t) = (cut mark (escapedPast b s) t).map fun (x, y) => (s ++ x, y) := by
  induction s generalizing b with
  | nil => simp
  | cons c s ih =>
    rw [cut] at h
    split at h
    · simp at h
    · next hc =>
      have hs := Option.map_eq_none_iff.mp h
      rw [List.cons_append, cut, if_neg hc, ih hs, escapedPast_cons, Option.map_map]
      rfl

theorem cut_eq_none_iff {mark : Char} {b : Bool} {s : List Char} :
    cut mark b s = none ↔
      ∀ before after, s = before ++ mark :: after → escapedPast b before = true := by
  induction s generalizing b with
  | nil => simp [cut]
  | cons c s ih =>
    rw [cut]
    constructor
    · intro h before after hs
      split at h
      · simp at h
      · next hc =>
        have hrest := ih.mp (Option.map_eq_none_iff.mp h)
        cases before with
        | nil =>
          simp only [List.nil_append, List.cons.injEq] at hs
          simpa [hs.1] using hc
        | cons d before =>
          simp only [List.cons_append, List.cons.injEq] at hs
          obtain ⟨rfl, hs⟩ := hs
          exact hrest before after hs
    · intro h
      have hc : ¬(c = mark ∧ b = false) := by
        rintro ⟨rfl, rfl⟩
        simpa using h [] s rfl
      rw [if_neg hc, Option.map_eq_none_iff]
      refine ih.mpr fun before after hs => ?_
      exact h (c :: before) after (by simp [hs])

/-- A text in which each `mark` is escaped and after which nothing is. -/
structure Guarded (mark : Char) (s : List Char) : Prop where
  inside : ∀ before after, s = before ++ mark :: after → escapedAfter before.reverse = true
  past : escapedAfter s.reverse = false

theorem guarded_iff {mark : Char} {s : List Char} :
    Guarded mark s ↔ cut mark false s = none ∧ escapedAfter s.reverse = false := by
  simp only [cut_eq_none_iff, escapedPast_false]
  exact ⟨fun h => ⟨h.inside, h.past⟩, fun h => ⟨h.1, h.2⟩⟩

instance (mark : Char) (s : List Char) : Decidable (Guarded mark s) :=
  decidable_of_iff _ guarded_iff.symm

theorem guarded_of_not_mem {mark : Char} {s : List Char} (hm : mark ∉ s) (hb : '\\' ∉ s) :
    Guarded mark s := by
  constructor
  · rintro before after rfl
    simp at hm
  · rw [← escapedPast_false, escapedPast_of_no_backslash hb]

/-- A guarded text ends at the first mark after it. -/
theorem Guarded.cut {mark : Char} {s : List Char} (h : Guarded mark s) (t : List Char) :
    Text.cut mark false (s ++ mark :: t) = some (s, t) := by
  have hs := (guarded_iff.mp h).1
  rw [cut_append_of_none hs, escapedPast_false, h.past]
  simp [Text.cut]

theorem Guarded.through? {mark : Char} {s : List Char} (h : Guarded mark s) (t : List Char) :
    Text.through? mark (s ++ mark :: t) = some (s ++ [mark], t) := by
  simp [Text.through?, h.cut]

theorem guarded_nil (mark : Char) : Guarded mark [] := guarded_iff.mpr ⟨rfl, rfl⟩

theorem Guarded.append {mark : Char} {s t : List Char} (hs : Guarded mark s) (ht : Guarded mark t) :
    Guarded mark (s ++ t) := by
  obtain ⟨hcut, hpast⟩ := guarded_iff.mp hs
  obtain ⟨hcut', hpast'⟩ := guarded_iff.mp ht
  rw [← escapedPast_false] at hpast hpast'
  rw [guarded_iff, ← escapedPast_false, cut_append_of_none hcut, escapedPast_append, hpast, hcut']
  exact ⟨rfl, hpast'⟩

/-- The scan passes over text that holds neither the mark nor a backslash. -/
theorem cut_append_of_not_mem {mark : Char} {s : List Char} (hm : mark ∉ s) (hb : '\\' ∉ s)
    (t : List Char) :
    Text.cut mark false (s ++ t) = (Text.cut mark false t).map fun (x, y) => (s ++ x, y) := by
  have hs := (guarded_iff.mp (guarded_of_not_mem hm hb)).1
  rw [cut_append_of_none hs, escapedPast_of_no_backslash hb]

structure FreeMark (mark : Char) (s before after : List Char) : Prop where
  eq : s = before ++ mark :: after
  free : escapedAfter before.reverse = false

theorem escapedPast_of_cut {mark : Char} {b : Bool} {s before after : List Char}
    (h : cut mark b s = some (before, after)) : escapedPast b before = false := by
  induction s generalizing b before with
  | nil => simp [cut] at h
  | cons c s ih =>
    rw [cut] at h
    split at h
    · next hc =>
      obtain ⟨rfl, -⟩ := Prod.mk.inj (Option.some.inj h)
      exact hc.2
    · obtain ⟨⟨x, y⟩, hx, heq⟩ := Option.map_eq_some_iff.mp h
      obtain ⟨rfl, rfl⟩ := Prod.mk.inj heq
      rw [escapedPast_cons]
      exact ih hx

theorem freeMark_of_cut {mark : Char} {s before after : List Char}
    (h : cut mark false s = some (before, after)) : FreeMark mark s before after where
  eq := eq_of_cut h
  free := (escapedPast_false before).symm.trans (escapedPast_of_cut h)

/-- A cut is made at the first unescaped mark. -/
theorem length_le_of_cut {mark : Char} {b : Bool} {s before after x y : List Char}
    (h : cut mark b s = some (before, after)) (hs : s = x ++ mark :: y)
    (hfree : escapedPast b x = false) : before.length ≤ x.length := by
  induction s generalizing b before x with
  | nil => simp at hs
  | cons c s ih =>
    rw [cut] at h
    split at h
    · obtain ⟨rfl, -⟩ := Prod.mk.inj (Option.some.inj h)
      exact Nat.zero_le _
    · next hc =>
      obtain ⟨⟨u, v⟩, hu, heq⟩ := Option.map_eq_some_iff.mp h
      obtain ⟨rfl, rfl⟩ := Prod.mk.inj heq
      cases x with
      | nil => exact absurd ⟨(List.cons.inj hs).1, hfree⟩ hc
      | cons d x =>
        obtain ⟨rfl, hrest⟩ := List.cons.inj hs
        exact Nat.succ_le_succ (ih hu hrest hfree)

theorem FreeMark.length_le {mark : Char} {s before after x y : List Char}
    (h : FreeMark mark s x y) (hcut : cut mark false s = some (before, after)) :
    before.length ≤ x.length :=
  length_le_of_cut hcut h.eq ((escapedPast_false x).trans h.free)

theorem FreeMark.exists_cut {mark : Char} {s x y : List Char} (h : FreeMark mark s x y) :
    ∃ before after, cut mark false s = some (before, after) := by
  cases hcut : cut mark false s with
  | none =>
    have hescaped := cut_eq_none_iff.mp hcut x y h.eq
    rw [escapedPast_false, h.free] at hescaped
    exact absurd hescaped Bool.false_ne_true
  | some p => exact ⟨p.1, p.2, rfl⟩

/-- Escapes are not carried over a place that is not escaped. -/
theorem escapedAfter_append {front : List Char} (hfront : escapedAfter front.reverse = false)
    (s : List Char) : escapedAfter (front ++ s).reverse = escapedAfter s.reverse := by
  rw [escapedAfter_reverse_append, hfront, escapedPast_false]

theorem freeMark_append_iff {mark : Char} {front s x y : List Char}
    (hfront : escapedAfter front.reverse = false) :
    FreeMark mark (front ++ s) (front ++ x) y ↔ FreeMark mark s x y := by
  constructor
  · rintro ⟨heq, hfree⟩
    rw [List.append_assoc, List.append_cancel_left_eq] at heq
    exact ⟨heq, (escapedAfter_append hfront x).symm.trans hfree⟩
  · rintro ⟨rfl, hfree⟩
    exact ⟨(List.append_assoc front x _).symm, (escapedAfter_append hfront x).trans hfree⟩

theorem escapedAfter_concat {c : Char} (hc : c ≠ '\\') (front : List Char) :
    escapedAfter (front ++ [c]).reverse = false := by
  rw [escapedAfter_reverse_append]
  simp [escapes, hc]

def escapeMarks (isMark : Char → Bool) (s : List Char) : List Char :=
  s.flatMap fun c => if isMark c then ['\\', c] else [c]

section EscapeMarks

variable {isMark : Char → Bool} {s : List Char}

@[simp] theorem escapeMarks_nil : escapeMarks isMark [] = [] := rfl

theorem escapeMarks_cons_of_mark {c : Char} (hc : isMark c = true) :
    escapeMarks isMark (c :: s) = '\\' :: c :: escapeMarks isMark s := by
  simp [escapeMarks, hc]

theorem escapeMarks_cons_of_not_mark {c : Char} (hc : isMark c = false) :
    escapeMarks isMark (c :: s) = c :: escapeMarks isMark s := by
  simp [escapeMarks, hc]

theorem escapeMarks_of_not_mem (h : ∀ c ∈ s, isMark c = false) : escapeMarks isMark s = s := by
  induction s with
  | nil => rfl
  | cons c s ih =>
    rw [escapeMarks_cons_of_not_mark (h c (by simp)), ih fun d hd => h d (by simp [hd])]

theorem unescape_cons_of_ne {mark c : Char} (hc : c ≠ '\\') (s : List Char) :
    unescape mark (c :: s) = c :: unescape mark s := by
  rw [unescape.eq_def]
  split <;> simp_all

/-- Dropping the backslashes before one mark leaves those before the others. -/
theorem unescape_escapeMarks (mark : Char) (hb : '\\' ∉ s) :
    unescape mark (escapeMarks isMark s) = escapeMarks (fun c => isMark c && c != mark) s := by
  induction s with
  | nil => rfl
  | cons c s ih =>
    simp only [List.mem_cons, not_or] at hb
    have hne : c ≠ '\\' := Ne.symm hb.1
    cases hc : isMark c with
    | false =>
      rw [escapeMarks_cons_of_not_mark hc, escapeMarks_cons_of_not_mark (by simp [hc]), unescape_cons_of_ne hne,
        ih hb.2]
    | true =>
      rw [escapeMarks_cons_of_mark hc, unescape]
      by_cases hmark : c = mark
      · rw [if_pos hmark, escapeMarks_cons_of_not_mark (by simp [hmark]), ih hb.2, hmark]
      · rw [if_neg hmark, escapeMarks_cons_of_mark (by simp [hc, hmark]), unescape_cons_of_ne hne, ih hb.2]

theorem getLast?_escapeMarks : (escapeMarks isMark s).getLast? = s.getLast? := by
  induction s using List.reverseRecOn with
  | nil => rfl
  | append_singleton s c _ =>
    rw [escapeMarks, List.flatMap_append, List.flatMap_singleton]
    split <;> simp [List.getLast?_append]

theorem head?_escapeMarks {c : Char} (hc : c ∈ (escapeMarks isMark s).head?) : c = '\\' ∨ c ∈ s.head? := by
  cases s with
  | nil => simp at hc
  | cons d s =>
    cases hd : isMark d with
    | false =>
      rw [escapeMarks_cons_of_not_mark hd] at hc
      exact .inr hc
    | true =>
      rw [escapeMarks_cons_of_mark hd] at hc
      exact .inl (by simpa using hc.symm)

/-- A text without backslashes in which a mark has been escaped is guarded against it. -/
theorem guarded_escapeMarks {mark : Char} (hmark : isMark mark = true) (hne : mark ≠ '\\') (hb : '\\' ∉ s) :
    Guarded mark (escapeMarks isMark s) := by
  rw [guarded_iff, ← escapedPast_false]
  induction s with
  | nil => exact ⟨rfl, rfl⟩
  | cons c s ih =>
    simp only [List.mem_cons, not_or] at hb
    obtain ⟨hcut, hpast⟩ := ih hb.2
    cases hc : isMark c with
    | false =>
      have hcm : c ≠ mark := by
        rintro rfl
        simp [hc] at hmark
      have hbackslash : (c == '\\') = false := by simpa using Ne.symm hb.1
      simp [escapeMarks_cons_of_not_mark hc, cut, hcm, escapes, hbackslash, hcut, hpast]
    | true =>
      simp [escapeMarks_cons_of_mark hc, cut, Ne.symm hne, escapes, hcut, hpast]

/-- A text in which a mark and all backslashes have been escaped is guarded against the mark. -/
theorem guarded_escapeMarks_of_backslash {mark : Char} (hmark : isMark mark = true) (hb : isMark '\\' = true)
    (hne : mark ≠ '\\') : Guarded mark (escapeMarks isMark s) := by
  rw [guarded_iff, ← escapedPast_false]
  induction s with
  | nil => exact ⟨rfl, rfl⟩
  | cons c s ih =>
    obtain ⟨hcut, hpast⟩ := ih
    cases hc : isMark c with
    | false =>
      have hcm : c ≠ mark := by
        rintro rfl
        simp [hc] at hmark
      have hbackslash : (c == '\\') = false := by
        rw [beq_eq_false_iff_ne]
        rintro rfl
        simp [hc] at hb
      simp [escapeMarks_cons_of_not_mark hc, cut, hcm, escapes, hbackslash, hcut, hpast]
    | true => simp [escapeMarks_cons_of_mark hc, cut, Ne.symm hne, escapes, hcut, hpast]

end EscapeMarks

end Stencil.Text
