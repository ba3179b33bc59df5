import Mathlib.Data.Nat.Notation
import Stencil.Pattern

/-!
# Programs of anchored words

The program that matches one text and no other, and what the machine does with it. The thread that starts
before the text follows the characters one by one; each thread that starts later ends at once, since there
is a character before it.
-/
namespace Stencil.Pattern

open Stencil.Unicode

theorem upTo_self (key : ℕ → ℕ) (n m : ℕ) : upTo key n m m = m := by
  rw [upTo, dif_neg (Nat.lt_irrefl m)]

theorem upTo_one (key : ℕ → ℕ) (n : ℕ) : upTo key n 0 1 = if key 0 ≤ n then 1 else 0 := by
  rw [upTo, dif_pos (by decide)]
  dsimp only
  split
  · exact upTo_self key n 1
  · exact upTo_self key n 0

theorem contains_single (c d : Char) : (CharSet.single c).contains d = true ↔ d = c := by
  have hsize : (CharSet.single c).ranges.size = 1 := rfl
  rw [CharSet.contains, CharSet.containsCode, hsize, upTo_one]
  by_cases h : c.toNat ≤ d.toNat
  · have hkey : ((CharSet.single c).ranges.getD 0 (0, 0)).1 ≤ d.toNat := h
    have hle : d.toNat ≤ c.toNat ↔ d = c := by
      constructor
      · intro hd
        exact Char.toNat_inj.mp (Nat.le_antisymm hd h)
      · rintro rfl
        exact Nat.le_refl _
    rw [if_pos hkey]
    simpa [CharSet.single] using hle
  · have hkey : ¬((CharSet.single c).ranges.getD 0 (0, 0)).1 ≤ d.toNat := h
    have hne : d ≠ c := by
      rintro rfl
      exact h (Nat.le_refl _)
    rw [if_neg hkey]
    simpa using hne

section follow

variable {p : Program} {before after : Option Char} {place fuel pc : ℕ}
  {slots : List (ℕ × ℕ)} {rest : List Thread} {seen : Array Bool}

/-- An instruction of the program that no thread has come to at this place. -/
structure Fresh (p : Program) (seen : Array Bool) (pc : ℕ) (i : Instruction) : Prop where
  instruction : p[pc]? = some i
  unseen : seen.getD pc true = false

theorem follow_nil (fuel : ℕ) (seen : Array Bool) : follow p before after place fuel [] seen = [] := by
  cases fuel <;> rfl

theorem follow_save {slot : ℕ} (h : Fresh p seen pc (.save slot)) :
    follow p before after place (fuel + 1) (⟨pc, slots⟩ :: rest) seen =
      follow p before after place fuel (⟨pc + 1, (slot, place) :: slots⟩ :: rest)
        (seen.setIfInBounds pc true) := by
  rw [follow, h.unseen, h.instruction]
  rfl

theorem follow_look {l : Look} (h : Fresh p seen pc (.look l)) :
    follow p before after place (fuel + 1) (⟨pc, slots⟩ :: rest) seen =
      follow p before after place fuel
        (if l.holds before after then ⟨pc + 1, slots⟩ :: rest else rest)
        (seen.setIfInBounds pc true) := by
  rw [follow, h.unseen, h.instruction]
  rfl

theorem follow_oneOf {s : CharSet} (h : Fresh p seen pc (.oneOf s)) :
    follow p before after place (fuel + 1) (⟨pc, slots⟩ :: rest) seen =
      ⟨pc, slots⟩ :: follow p before after place fuel rest (seen.setIfInBounds pc true) := by
  rw [follow, h.unseen, h.instruction]
  rfl

theorem follow_accept (h : Fresh p seen pc .accept) :
    follow p before after place (fuel + 1) (⟨pc, slots⟩ :: rest) seen =
      ⟨pc, slots⟩ :: follow p before after place fuel rest (seen.setIfInBounds pc true) := by
  rw [follow, h.unseen, h.instruction]
  rfl

theorem Fresh.set {other : ℕ} {i : Instruction} (h : Fresh p seen pc i) (hne : other ≠ pc) :
    Fresh p (seen.setIfInBounds other true) pc i := by
  refine ⟨h.instruction, ?_⟩
  have hseen := h.unseen
  simp only [Array.getD_eq_getD_getElem?] at hseen ⊢
  rw [Array.getElem?_setIfInBounds_ne hne, hseen]

end follow

/-- The threads that wait for the next character where some threads have come to a place. -/
def ready (p : Program) (before after : Option Char) (place : ℕ) (threads : List Thread) :
    List Thread :=
  let started := threads ++ [⟨0, []⟩]
  follow p before after place (started.length + 2 * p.size + 1) started (Array.replicate p.size false)

theorem scan_nil {p : Program} {before : Option Char} {place : ℕ} {threads ts : List Thread}
    {found : Option (List (ℕ × ℕ))}
    (h : advance p none (ready p before none place threads) = (ts, found)) :
    scan p before place threads none [] = found := by
  rw [ready] at h
  unfold scan
  simp only [Option.isNone_none, if_true, List.head?_nil, h, Option.or_none]

theorem scan_cons {p : Program} {before : Option Char} {place : ℕ} {threads ts : List Thread}
    {c : Char} (h : advance p (some c) (ready p before (some c) place threads) = (ts, none))
    (rest : List Char) :
    scan p before place threads none (c :: rest) = scan p (some c) (place + 1) ts none rest := by
  rw [ready] at h
  rw [scan]
  simp only [Option.isNone_none, if_true, List.head?_cons, h, Option.or_none, Option.isSome_none,
    Bool.and_false, Bool.false_eq_true, if_false]

theorem fresh_start {p : Program} {pc : ℕ} {i : Instruction} (h : p[pc]? = some i) :
    Fresh p (Array.replicate p.size false) pc i := by
  obtain ⟨hlt, -⟩ := Array.getElem?_eq_some_iff.mp h
  refine ⟨h, ?_⟩
  simp [Array.getD_eq_getD_getElem?, hlt]

/-- A program that saves the start of the text, follows the characters of a word and saves the end. -/
structure IsWordProgram (p : Program) (w : List Char) : Prop where
  size : p.size = w.length + 5
  save : p[0]? = some (.save 0)
  start : p[1]? = some (.look .textStart)
  char : ∀ k c, w[k]? = some c → p[2 + k]? = some (.oneOf (.single c))
  stop : p[2 + w.length]? = some (.look .textEnd)
  saveStop : p[3 + w.length]? = some (.save 1)
  accept : p[4 + w.length]? = some .accept

section word

variable {p : Program} {w : List Char} (hp : IsWordProgram p w) {before after : Option Char}
  {place fuel : ℕ} {seen : Array Bool}

theorem follow_late (hp : IsWordProgram p w) (b : Char) (hsave : seen.getD 0 true = false)
    (hstart : seen.getD 1 true = false) :
    follow p (some b) after place (fuel + 2) [⟨0, []⟩] seen = [] := by
  have h0 : Fresh p seen 0 (.save 0) := ⟨hp.save, hsave⟩
  have h1 : Fresh p (seen.setIfInBounds 0 true) 1 (.look .textStart) :=
    Fresh.set ⟨hp.start, hstart⟩ (by decide)
  rw [follow_save h0, follow_look h1]
  exact follow_nil _ _

theorem ready_nil (hp : IsWordProgram p w) (b : Char) : ready p (some b) after place [] = [] := by
  have hfuel : ([] ++ [(⟨0, []⟩ : Thread)]).length + 2 * p.size + 1 = 2 * p.size + 2 := by
    simp
    omega
  rw [ready, hfuel]
  exact follow_late hp b (fresh_start hp.save).unseen (fresh_start hp.start).unseen

theorem scan_dead (hp : IsWordProgram p w) (b : Char) (place : ℕ) (text : List Char) :
    scan p (some b) place [] none text = none := by
  induction text generalizing b place with
  | nil =>
    have h : advance p none (ready p (some b) none place []) = ([], none) := by
      rw [ready_nil hp]
      rfl
    exact scan_nil h
  | cons c rest ih =>
    have h : advance p (some c) (ready p (some b) (some c) place []) = ([], none) := by
      rw [ready_nil hp]
      rfl
    rw [scan_cons h, ih]

theorem length_two (t t' : Thread) : ([t] ++ [t']).length + 2 * p.size + 1 = 2 * p.size + 2 + 1 := by
  simp
  omega

theorem ready_inside (hp : IsWordProgram p w) {k : ℕ} {c : Char} (hc : w[k]? = some c) (b : Char)
    (slots : List (ℕ × ℕ)) :
    ready p (some b) after place [⟨2 + k, slots⟩] = [⟨2 + k, slots⟩] := by
  have hword := fresh_start (hp.char k c hc)
  have hsave : Fresh p ((Array.replicate p.size false).setIfInBounds (2 + k) true) 0 _ :=
    (fresh_start hp.save).set (by omega)
  have hstart : Fresh p ((Array.replicate p.size false).setIfInBounds (2 + k) true) 1 _ :=
    (fresh_start hp.start).set (by omega)
  rw [ready, length_two, List.singleton_append, follow_oneOf hword,
    follow_late hp b hsave.unseen hstart.unseen]

/-- Behind the word the thread ends where the text goes on. -/
theorem ready_past (hp : IsWordProgram p w) (b c : Char) (slots : List (ℕ × ℕ)) :
    ready p (some b) (some c) place [⟨2 + w.length, slots⟩] = [] := by
  have hstop := fresh_start hp.stop
  have hsave : Fresh p ((Array.replicate p.size false).setIfInBounds (2 + w.length) true) 0 _ :=
    (fresh_start hp.save).set (by omega)
  have hstart : Fresh p ((Array.replicate p.size false).setIfInBounds (2 + w.length) true) 1 _ :=
    (fresh_start hp.start).set (by omega)
  rw [ready, length_two, List.singleton_append, follow_look hstop, if_neg (by simp [Look.holds]),
    follow_late hp b hsave.unseen hstart.unseen]

/-- At the end of the text the thread behind the word goes on until it accepts. -/
theorem follow_end {slots : List (ℕ × ℕ)} {rest : List Thread}
    (hstop : Fresh p seen (2 + w.length) (.look .textEnd))
    (hsave : Fresh p seen (3 + w.length) (.save 1)) (haccept : Fresh p seen (4 + w.length) .accept) :
    follow p before none place (fuel + 3) (⟨2 + w.length, slots⟩ :: rest) seen =
      ⟨4 + w.length, (1, place) :: slots⟩ :: follow p before none place fuel rest
        (((seen.setIfInBounds (2 + w.length) true).setIfInBounds (3 + w.length) true).setIfInBounds
          (4 + w.length) true) := by
  have hpc : 2 + w.length + 1 = 3 + w.length := by omega
  have hpc' : 3 + w.length + 1 = 4 + w.length := by omega
  have hsave' : Fresh p (seen.setIfInBounds (2 + w.length) true) (3 + w.length) _ :=
    hsave.set (by omega)
  have haccept' : Fresh p ((seen.setIfInBounds (2 + w.length) true).setIfInBounds (3 + w.length) true)
      (4 + w.length) _ := (haccept.set (by omega)).set (by omega)
  have hholds : Look.textEnd.holds before none = true := rfl
  rw [follow_look hstop, if_pos hholds, hpc, follow_save hsave', hpc', follow_accept haccept']

theorem ready_end (hp : IsWordProgram p w) (b : Char) (slots : List (ℕ × ℕ)) :
    ready p (some b) none place [⟨2 + w.length, slots⟩] =
      [⟨4 + w.length, (1, place) :: slots⟩] := by
  have hlate {pc : ℕ} {i : Instruction} (hi : p[pc]? = some i) (hpc : pc < 2) :
      Fresh p ((((Array.replicate p.size false).setIfInBounds (2 + w.length) true).setIfInBounds
        (3 + w.length) true).setIfInBounds (4 + w.length) true) pc i :=
    (((fresh_start hi).set (by omega)).set (by omega)).set (by omega)
  have hsize : 2 * p.size + 2 + 1 = 2 * p.size - 2 + 2 + 3 := by
    have := hp.size
    omega
  rw [ready, length_two, List.singleton_append, hsize,
    follow_end (fresh_start hp.stop) (fresh_start hp.saveStop) (fresh_start hp.accept),
    follow_late hp b (hlate hp.save (by decide)).unseen (hlate hp.start (by decide)).unseen]

theorem advance_inside (hp : IsWordProgram p w) {k : ℕ} {c : Char} (hc : w[k]? = some c)
    (next : Option Char) (slots : List (ℕ × ℕ)) :
    advance p next [⟨2 + k, slots⟩] =
      (if next = some c then [⟨2 + (k + 1), slots⟩] else [], none) := by
  have hany : next.any (CharSet.single c).contains = true ↔ next = some c := by
    cases next with
    | none => simp
    | some d => simpa using contains_single c d
  rw [advance, hp.char k c hc]
  dsimp only
  by_cases h : next = some c
  · rw [if_pos (hany.mpr h), if_pos h]
    rfl
  · rw [if_neg (mt hany.mp h), if_neg h]
    rfl

theorem advance_accept (hp : IsWordProgram p w) (next : Option Char) (slots : List (ℕ × ℕ)) :
    advance p next [⟨4 + w.length, slots⟩] = ([], some slots) := by
  rw [advance, hp.accept]

/-- The thread that has followed the word up to some place accepts where the rest of the word is the rest of
the text. -/
theorem scan_word (hp : IsWordProgram p w) {k : ℕ} {todo : List Char} (hk : k ≤ w.length)
    (htodo : w.drop k = todo) (b : Char) (place : ℕ) (slots : List (ℕ × ℕ)) (text : List Char) :
    scan p (some b) place [⟨2 + k, slots⟩] none text =
      if text = todo then some ((1, place + text.length) :: slots) else none := by
  induction todo generalizing k b place text with
  | nil =>
    obtain rfl : k = w.length := Nat.le_antisymm hk (List.drop_eq_nil_iff.mp htodo)
    cases text with
    | nil =>
      have h := advance_accept hp none ((1, place) :: slots)
      rw [← ready_end hp b] at h
      rw [scan_nil h, if_pos rfl]
      rfl
    | cons c rest =>
      have h : advance p (some c) (ready p (some b) (some c) place [⟨2 + w.length, slots⟩]) =
          ([], none) := by
        rw [ready_past hp]
        rfl
      rw [scan_cons h, scan_dead hp, if_neg (by simp)]
  | cons c todo ih =>
    have hc : w[k]? = some c := by
      rw [← List.head?_drop, htodo, List.head?_cons]
    have hnext : w.drop (k + 1) = todo := by
      rw [← List.tail_drop, htodo, List.tail_cons]
    have hlt : k + 1 ≤ w.length := (List.getElem?_eq_some_iff.mp hc).1
    have hadvance (next : Option Char) := advance_inside hp hc next slots
    cases text with
    | nil =>
      have h := hadvance none
      rw [if_neg (by simp), ← ready_inside hp hc b slots] at h
      rw [scan_nil h, if_neg (by simp)]
    | cons d rest =>
      have h := hadvance (some d)
      rw [← ready_inside hp hc b slots] at h
      by_cases hd : d = c
      · obtain rfl := hd
        rw [if_pos rfl] at h
        rw [scan_cons h, ih hlt hnext]
        simp only [List.cons.injEq, true_and, List.length_cons, Nat.add_assoc, Nat.add_comm 1]
      · rw [if_neg (by simpa using hd)] at h
        rw [scan_cons h, scan_dead hp, if_neg (by simp [hd])]

/-- Before the text the first thread goes on to the first character of the word. -/
theorem follow_first (hp : IsWordProgram p w) :
    follow p none after place (fuel + 2) [⟨0, []⟩] (Array.replicate p.size false) =
      follow p none after place fuel [⟨2, [(0, place)]⟩]
        (((Array.replicate p.size false).setIfInBounds 0 true).setIfInBounds 1 true) := by
  have hstart : Fresh p ((Array.replicate p.size false).setIfInBounds 0 true) 1 _ :=
    (fresh_start hp.start).set (by decide)
  have hholds : Look.textStart.holds none after = true := rfl
  rw [follow_save (fresh_start hp.save), follow_look hstart, if_pos hholds]

theorem fresh_behind_start {pc : ℕ} {i : Instruction} (h : p[pc]? = some i) (hpc : 1 < pc) :
    Fresh p (((Array.replicate p.size false).setIfInBounds 0 true).setIfInBounds 1 true) pc i :=
  ((fresh_start h).set (by omega)).set (by omega)

theorem ready_first (hp : IsWordProgram p w) :
    ready p none after place [] =
      follow p none after place (2 * w.length + 10) [⟨2, [(0, place)]⟩]
        (((Array.replicate p.size false).setIfInBounds 0 true).setIfInBounds 1 true) := by
  have hfuel : ([] ++ [(⟨0, []⟩ : Thread)]).length + 2 * p.size + 1 = 2 * w.length + 10 + 2 := by
    rw [hp.size, List.nil_append, List.length_singleton]
    omega
  rw [ready, hfuel, List.nil_append, follow_first hp]

theorem scan_start (hp : IsWordProgram p w) (text : List Char) :
    scan p none 0 [] none text =
      if text = w then some [(1, text.length), (0, 0)] else none := by
  cases w with
  | nil =>
    have hstop := fresh_behind_start hp.stop (by simp)
    have hsave := fresh_behind_start hp.saveStop (by simp)
    have haccept := fresh_behind_start hp.accept (by simp)
    cases text with
    | nil =>
      have h : advance p none (ready p none none 0 []) = ([], some [(1, 0), (0, 0)]) := by
        have hend := @follow_end p [] none 0 7 _ [(0, 0)] [] hstop hsave haccept
        rw [follow_nil] at hend
        rw [ready_first hp]
        exact (congrArg (advance p none) hend).trans (advance_accept hp none _)
      rw [scan_nil h, if_pos rfl]
      rfl
    | cons c rest =>
      have h : advance p (some c) (ready p none (some c) 0 []) = ([], none) := by
        have hpast := @follow_look p none (some c) 0 9 2 [(0, 0)] [] _ _ hstop
        rw [if_neg (by simp [Look.holds]), follow_nil] at hpast
        rw [ready_first hp]
        exact congrArg (advance p (some c)) hpast
      rw [scan_cons h, scan_dead hp, if_neg (by simp)]
  | cons c w =>
    have hc : (c :: w)[0]? = some c := rfl
    have hready (next : Option Char) : ready p none next 0 [] = [⟨2 + 0, [(0, 0)]⟩] := by
      rw [ready_first hp, follow_oneOf (fresh_behind_start (hp.char 0 c hc) (by decide)), follow_nil]
    cases text with
    | nil =>
      have h := advance_inside hp hc none [(0, 0)]
      rw [if_neg (by simp), ← hready none] at h
      rw [scan_nil h, if_neg (by simp)]
    | cons d rest =>
      have h := advance_inside hp hc (some d) [(0, 0)]
      rw [← hready (some d)] at h
      by_cases hd : d = c
      · obtain rfl := hd
        rw [if_pos rfl] at h
        rw [scan_cons h, scan_word hp (by simp) rfl]
        simp [Nat.add_comm]
      · rw [if_neg (by simpa using hd)] at h
        rw [scan_cons h, scan_dead hp, if_neg (by simp [hd])]

end word

/-- The program of an anchored word matches this word and no other text. -/
theorem isMatch_word {p : Pattern} {w : List Char} (hp : IsWordProgram p.program w)
    (text : List Char) : p.isMatch text = true ↔ text = w := by
  have hsearch : search p.program text 0 =
      if text = w then some [(1, text.length), (0, 0)] else none := by
    rw [search, if_neg (by simp)]
    exact scan_start hp text
  rw [isMatch, find?, hsearch]
  split
  · next h => simp [h, Match.group?, Match.slot?]
  · next h => simp [h]

end Stencil.Pattern
