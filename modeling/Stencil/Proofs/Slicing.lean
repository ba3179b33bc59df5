import Mathlib.Algebra.Order.Ring.Int
import Mathlib.Data.List.Basic
import Stencil.Value.Slice

/-!
# Slices as progressions

A slice picks the items of an arithmetic progression over the integers. Its words never overflow: where the
next index would be no word, the progression has left the list.
-/
namespace Stencil.Slice

/-- The indices `i`, `i + step`, `i + 2 * step` and so on of a list of `n` items, as long as they lie before
`stop` in the direction of the step and are in the list. -/
def progression (n : Nat) (stop step i : Int) : List (Fin n) :=
  if h : ((0 < step ∧ i < stop) ∨ (step < 0 ∧ stop < i)) ∧ 0 ≤ i ∧ i < n then
    ⟨i.toNat, by omega⟩ :: progression n stop step (i + step)
  else []
termination_by (if 0 < step then n - i else i + 1).toNat
decreasing_by split <;> omega

def distance (s : Slice) : Int := s.step.getD 1

/-- A negative bound has the length added and is at least zero; all are at most the length. -/
def clamped (n : Nat) (i : Int) : Int := min (if i < 0 then max (i + n) 0 else i) n

/-- Where the progression starts: going down, at the last item at most. -/
def first (s : Slice) (n : Nat) : Int :=
  match s.start with
  | some i => if s.distance < 0 then min (clamped n i) (n - 1) else clamped n i
  | none => if s.distance < 0 then n - 1 else 0

def limit (s : Slice) (n : Nat) : Int :=
  match s.stop with
  | some i => clamped n i
  | none => if s.distance < 0 then -1 else n

def picked (s : Slice) (n : Nat) : List (Fin n) := progression n (s.limit n) s.distance (s.first n)

theorem progression_eq_nil {n : Nat} {stop step i : Int}
    (h : ¬((0 < step ∧ i < stop) ∨ (step < 0 ∧ stop < i))) : progression n stop step i = [] := by
  rw [progression, dif_neg fun hat => h hat.1]

theorem clamped_mem (n : Nat) (i : Int) : 0 ≤ clamped n i ∧ clamped n i ≤ n := by
  unfold clamped
  split <;> omega

theorem first_mem (s : Slice) (n : Nat) :
    -1 ≤ s.first n ∧ s.first n ≤ n ∧ (s.distance < 0 → s.first n < n) ∧
      (¬s.distance < 0 → 0 ≤ s.first n) := by
  unfold first
  split
  · next i _ =>
    have := clamped_mem n i
    split <;> omega
  · split <;> omega

theorem limit_mem (s : Slice) (n : Nat) :
    -1 ≤ s.limit n ∧ s.limit n ≤ n ∧ (¬s.distance < 0 → 0 ≤ s.limit n) := by
  unfold limit
  split
  · next i _ =>
    have := clamped_mem n i
    omega
  · split <;> omega

theorem toInt_min (a b : Int64) : (min a b).toInt = min a.toInt b.toInt := by
  rw [show min a b = if a ≤ b then a else b from rfl]
  split <;> simp_all only [Int64.le_iff_toInt_le] <;> omega

theorem toInt_max (a b : Int64) : (max a b).toInt = max a.toInt b.toInt := by
  rw [show max a b = if a ≤ b then b else a from rfl]
  split <;> simp_all only [Int64.le_iff_toInt_le] <;> omega

theorem toInt_stepOrOne (s : Slice) : s.stepOrOne.toInt = s.distance := by
  rw [stepOrOne, distance, step]
  cases s.stepWord <;> simp

theorem toInt_add_of_fits {a b : Int64} (hlow : -(2 ^ 63) ≤ a.toInt + b.toInt)
    (hhigh : a.toInt + b.toInt < 2 ^ 63) : (a + b).toInt = a.toInt + b.toInt := by
  rw [Int64.toInt_add]
  exact Int.bmod_eq_of_le (by omega) (by omega)

variable {n : Nat} (hn : n < 2 ^ 63)
include hn

theorem toInt_fromEnd (i : Int64) :
    (fromEnd (Int64.ofNat n) i).toInt = if i.toInt < 0 then max (i.toInt + n) 0 else i.toInt := by
  have hlen := Int64.toInt_ofNat_of_lt hn
  have hlow := i.le_toInt
  rw [fromEnd]
  simp only [Int64.lt_iff_toInt_lt, Int64.toInt_zero]
  split
  · rw [toInt_max, toInt_add_of_fits (by omega) (by omega), hlen, Int64.toInt_zero]
  · rfl

theorem toInt_pred_length : (Int64.ofNat n - 1).toInt = n - 1 := by
  have hlen := Int64.toInt_ofNat_of_lt hn
  rw [Int64.toInt_sub, hlen, Int64.toInt_one]
  exact Int.bmod_eq_of_le (by omega) (by omega)

theorem toInt_startWithin (s : Slice) : (s.startWithin (Int64.ofNat n)).toInt = s.first n := by
  have hlen := Int64.toInt_ofNat_of_lt hn
  have hpred := toInt_pred_length hn
  have hstep := toInt_stepOrOne s
  have hend (i : Int64) := toInt_fromEnd hn i
  simp only [startWithin, first, start, clamped, apply_ite Int64.toInt, Int64.lt_iff_toInt_lt,
    Int64.le_iff_toInt_le, toInt_min, hstep, Int64.toInt_zero, hlen, hpred]
  cases s.startWord with
  | none =>
    simp only [Option.map_none, apply_ite Int64.toInt, hpred, Int64.toInt_zero]
    omega
  | some i =>
    simp only [Option.map_some, hend]
    omega

theorem toInt_stopWithin (s : Slice) : (s.stopWithin (Int64.ofNat n)).toInt = s.limit n := by
  have hlen := Int64.toInt_ofNat_of_lt hn
  have hone : (-1 : Int64).toInt = -1 := rfl
  have hend (i : Int64) := toInt_fromEnd hn i
  simp only [stopWithin, limit, stop, clamped, Int64.lt_iff_toInt_lt, toInt_min,
    toInt_stepOrOne, Int64.toInt_zero]
  cases s.stopWord with
  | none =>
    simp only [Option.map_none, apply_ite Int64.toInt, hlen, hone]
    omega
  | some i => simp only [Option.map_some, hend, hlen]

/-- The words that a slice is fitted to are those of its progression. One with nothing to pick stops where it
starts. -/
theorem bounds_eq (s : Slice) :
    (s.bounds n).step = (if s.distance = 0 then 1 else s.distance) ∧ (s.bounds n).start = s.first n ∧
    (s.bounds n).stop =
      if (0 < s.distance ∧ s.first n ≤ s.limit n) ∨ (s.distance < 0 ∧ s.limit n ≤ s.first n) then s.limit n
      else s.first n := by
  have hzero : s.stepOrOne = 0 ↔ s.distance = 0 := by
    rw [← Int64.toInt_inj, toInt_stepOrOne, Int64.toInt_zero]
  have hstart := toInt_startWithin hn s
  have hstop := toInt_stopWithin hn s
  simp only [bounds, Int64.lt_iff_toInt_lt, toInt_stepOrOne, Int64.toInt_zero, hstart, hstop, hzero]
  split
  · simp [Bounds.step, Bounds.start, Bounds.stop, hstart]
    omega
  split <;> simp [Bounds.step, Bounds.start, Bounds.stop, hstart, hstop, toInt_stepOrOne] <;> omega

omit hn

/-- An index and a stop that a stride keeps to a list of `n` items: it goes up from within the list or before its
end, or down from within the list or behind its start. -/
def Inside (n : Nat) (stop step i : Int) : Prop :=
  (0 < step ∧ 0 ≤ i ∧ stop ≤ n) ∨ (step < 0 ∧ -1 ≤ stop ∧ i < n)

theorem before_iff {stop step i : Int64} :
    Before stop step i ↔
      (0 < step.toInt ∧ i.toInt < stop.toInt) ∨ (step.toInt < 0 ∧ stop.toInt < i.toInt) := by
  simp only [Before, Int64.lt_iff_toInt_lt, Int64.toInt_zero]

/-- The words of a stride are those of the progression: a step that leaves the words has left the list. -/
theorem stride_eq_progression {stop step i : Int64} (hn : n < 2 ^ 63)
    (h : Inside n stop.toInt step.toInt i.toInt) :
    (stride stop step i).map Int64.toInt =
      (progression n stop.toInt step.toInt i.toInt).map fun k : Fin n => (k.val : Int) := by
  fun_induction stride stop step i with
  | case1 i hbefore ih =>
    rw [before_iff] at hbefore
    have hmem : 0 ≤ i.toInt ∧ i.toInt < n := by
      unfold Inside at h
      omega
    rw [progression, dif_pos ⟨hbefore, hmem⟩, List.map_cons, List.map_cons]
    congr 1
    · exact (Int.toNat_of_nonneg hmem.1).symm
    split
    · next next hnext =>
      have hsum := toInt_of_checkedAdd? hnext
      rw [← hsum]
      refine ih next hnext ?_
      unfold Inside at h ⊢
      omega
    · next hnext =>
      have hsum := checkedAdd?_eq_none hnext
      rw [Int64.toInt_minValue, Int64.toInt_maxValue] at hsum
      rw [progression_eq_nil, List.map_nil, List.map_nil]
      unfold Inside at h
      omega
  | case2 i hbefore =>
    rw [before_iff] at hbefore
    rw [progression_eq_nil hbefore, List.map_nil, List.map_nil]

theorem map_get_progression_one {α : Type} (items : List α) (count start : ℕ)
    (h : start + count ≤ items.length) :
    (progression items.length (start + count : ℕ) 1 start).map items.get = (items.drop start).take count := by
  induction count generalizing start with
  | zero => simp [progression_eq_nil]
  | succ count ih =>
    have hlt : start < items.length := by omega
    rw [progression, dif_pos (by omega), List.map_cons, List.drop_eq_getElem_cons hlt, List.take_succ_cons]
    have htail := ih (start + 1) (by omega)
    rw [show start + 1 + count = start + (count + 1) by omega] at htail
    exact List.cons_eq_cons.mpr ⟨rfl, htail⟩

/-- Going down by one from the item before `count`, the progression has the first `count` items reversed. -/
theorem map_get_progression_down {α : Type} (items : List α) (count : ℕ) (h : count ≤ items.length) :
    (progression items.length (-1) (-1) ((count : Int) - 1)).map items.get = (items.take count).reverse := by
  induction count with
  | zero => simp [progression_eq_nil]
  | succ count ih =>
    have hlt : count < items.length := by omega
    have hstart : ((count + 1 : Nat) : Int) - 1 = count := by omega
    rw [hstart, progression, dif_pos (by omega), List.map_cons, List.take_succ_eq_append_getElem hlt,
      List.reverse_append, ← ih (by omega)]
    rfl

variable {α : Type} (items : List α)

theorem filterMap_getElem?_toInt (words : List Int64) :
    (words.filterMap fun i => if 0 ≤ i then items.toArray[i.toInt.toNat]? else none) =
      (words.map Int64.toInt).filterMap fun i => if 0 ≤ i then items[i.toNat]? else none := by
  rw [List.filterMap_map]
  simp [Int64.le_iff_toInt_le]

theorem filterMap_getElem?_val (indices : List (Fin items.length)) :
    ((indices.map fun k => (k.val : Int)).filterMap fun i => if 0 ≤ i then items[i.toNat]? else none) =
      indices.map items.get := by
  rw [List.filterMap_map, ← List.filterMap_eq_map]
  simp

variable (s : Slice) (hlen : items.length < 2 ^ 63)
include hlen

/-- Where the bounds stop does not matter if there is nothing to pick. -/
theorem progression_bounds_stop :
    progression items.length (s.bounds items.length).stop s.distance (s.first items.length) =
      s.picked items.length := by
  rw [(bounds_eq hlen s).2.2, picked]
  split
  · rfl
  · next hnothing =>
    rw [progression_eq_nil (by omega), progression_eq_nil (by omega)]

/-- The contiguous part of a list that a slice with step one picks is in range. -/
theorem bounds_in_range (hstep : (s.bounds items.length).step = 1) :
    0 ≤ (s.bounds items.length).start ∧ (s.bounds items.length).start ≤ (s.bounds items.length).stop ∧
      (s.bounds items.length).stop ≤ items.length := by
  have hfirst := first_mem s items.length
  have hlimit := limit_mem s items.length
  obtain ⟨hdistance, hstart, hstop⟩ := bounds_eq hlen s
  rw [hstep] at hdistance
  rw [hstart, hstop]
  split at hdistance <;> split <;> omega

theorem contiguous_eq_map_get (hstep : (s.bounds items.length).step = 1) :
    (items.drop (s.bounds items.length).start.toNat).take
        ((s.bounds items.length).stop.toNat - (s.bounds items.length).start.toNat) =
      (s.picked items.length).map items.get := by
  obtain ⟨hdistance, hstart, hstop⟩ := bounds_eq hlen s
  have hrange := bounds_in_range items s hlen hstep
  have hpicked := progression_bounds_stop items s hlen
  rw [hstep] at hdistance
  split at hdistance
  · next hzero =>
    rw [if_neg (by omega)] at hstop
    rw [picked, progression_eq_nil (by omega), hstop, hstart, Nat.sub_self, List.take_zero, List.map_nil]
  · obtain ⟨start, hstart'⟩ := Int.eq_ofNat_of_zero_le hrange.1
    obtain ⟨count, hcount⟩ := Int.eq_ofNat_of_zero_le (Int.sub_nonneg_of_le hrange.2.1)
    have hstop' : (s.bounds items.length).stop = (start + count : Nat) := by omega
    have hcount' : (start + count : Nat) - start = count := by omega
    rw [← hpicked, ← hdistance, ← hstart, hstart', hstop', map_get_progression_one items count start (by omega),
      Int.toNat_natCast, Int.toNat_natCast, hcount']

theorem apply_eq_map_get : s.apply items = (s.picked items.length).map items.get := by
  obtain ⟨hdistance, hstart, -⟩ := bounds_eq hlen s
  have hword : (s.bounds items.length).stepWord = 1 ↔ (s.bounds items.length).step = 1 := by
    rw [← Int64.toInt_inj, Int64.toInt_one, Bounds.step]
  rw [apply]
  dsimp only
  split
  · next hone => exact contiguous_eq_map_get items s hlen (hword.mp hone)
  · next hmore =>
    have hne : s.distance ≠ 0 := fun hzero => hmore (hword.mpr (by rw [hdistance, if_pos hzero]))
    rw [if_neg hne] at hdistance
    have hinside : Inside items.length (s.bounds items.length).stop (s.bounds items.length).step
        (s.bounds items.length).start := by
      have hfirst := first_mem s items.length
      have hlimit := limit_mem s items.length
      have hstop := (bounds_eq hlen s).2.2
      rw [hdistance, hstart, hstop]
      unfold Inside
      split <;> omega
    have hstride := stride_eq_progression hlen hinside
    rw [filterMap_getElem?_toInt, hstride, filterMap_getElem?_val]
    rw [← progression_bounds_stop items s hlen, ← hdistance, ← hstart]
    rfl

omit hlen

theorem picked_reverse : (reverse.picked items.length).map items.get = items.reverse := by
  have h := map_get_progression_down items items.length (Nat.le_refl _)
  rwa [List.take_length] at h

/-- A slice picks the items of its progression in order. With step one they are a contiguous part in range, and
the reversed list is one such slice. -/
theorem apply_eq_progression (hlen : items.length < 2 ^ 63) :
    s.apply items = (s.picked items.length).map items.get ∧
    ((s.bounds items.length).step = 1 →
      0 ≤ (s.bounds items.length).start ∧ (s.bounds items.length).start ≤ (s.bounds items.length).stop ∧
        (s.bounds items.length).stop ≤ items.length) ∧
    reverse.apply items = items.reverse := by
  refine ⟨apply_eq_map_get items s hlen, bounds_in_range items s hlen, ?_⟩
  rw [apply_eq_map_get items reverse hlen, picked_reverse]

/-- A step that no index but the first can take. -/
theorem apply_eq_progression_max_step :
    [0, 1, 2, 3, 4, 5].length < 2 ^ 63 ∧
    (⟨some 1, some 5, some Int64.maxValue⟩ : Slice).apply [0, 1, 2, 3, 4, 5] = [1] ∧
    reverse.apply [0, 1, 2, 3, 4, 5] = [5, 4, 3, 2, 1, 0] := by
  have hlen : [0, 1, 2, 3, 4, 5].length < 2 ^ 63 := by decide
  have hpicked : (⟨some 1, some 5, some Int64.maxValue⟩ : Slice).picked 6 = [1] := by
    have hdistance : (⟨some 1, some 5, some Int64.maxValue⟩ : Slice).distance = 2 ^ 63 - 1 := by decide
    have hfirst : (⟨some 1, some 5, some Int64.maxValue⟩ : Slice).first 6 = 1 := by decide
    have hlimit : (⟨some 1, some 5, some Int64.maxValue⟩ : Slice).limit 6 = 5 := by decide
    rw [picked, hdistance, hfirst, hlimit, progression, dif_pos (by decide), progression_eq_nil (by decide)]
    rfl
  obtain ⟨happly, -, hreverse⟩ :=
    apply_eq_progression [0, 1, 2, 3, 4, 5] ⟨some 1, some 5, some Int64.maxValue⟩ hlen
  refine ⟨hlen, happly.trans ?_, hreverse⟩
  exact congrArg (List.map [0, 1, 2, 3, 4, 5].get) hpicked

end Stencil.Slice
