import Stencil.Proofs.Shape

/-!
# Reading written argument lists

The arguments between commas are read one by one as long as there is room for another comma to separate.
When there is none left, all that remains is one argument.
-/
namespace Stencil.Tag

open Stencil.Text Grammar

theorem closerOf?_plain {c : Char} (hc : isPlain c = true) : closerOf? c = none := by
  unfold closerOf?
  split
  · exact absurd rfl (isPlain_ne hc (by simp))
  · exact absurd rfl (isPlain_ne hc (by simp))
  · exact absurd rfl (isPlain_ne hc (by simp))
  · rfl

theorem argumentSpan_plain {c : Char} (hc : isPlain c = true) {atStart : Bool}
    (hs : c ≠ '/' ∨ atStart = false) (rest : List Char) :
    argumentSpan atStart c rest = ([], rest) := by
  have hslash : ¬(c = '/' ∧ atStart = true) := by
    rintro ⟨rfl, rfl⟩
    simp at hs
  rw [argumentSpan, if_neg (isPlain_ne hc (by simp)), if_neg hslash,
    if_neg (isPlain_ne hc (by simp)), throughBracket?, closerOf?_plain hc]
  rfl

/-- Behind the start of an argument plain characters are passed, slashes among them. -/
theorem bareArguments_inside (room : ℕ) (read : List Char) {v : List Char}
    (hv : ∀ c ∈ v, isPlain c = true) (t : List Char) :
    bareArguments room read false (v ++ t) = bareArguments room (v.reverse ++ read) false t := by
  induction v generalizing read with
  | nil => rfl
  | cons c v ih =>
    have hc := hv c (by simp)
    have hcomma : ¬(c = ',' ∧ room ≠ 0) := fun h => isPlain_ne hc (by simp) h.1
    rw [List.cons_append, bareArguments, if_neg hcomma, argumentSpan_plain hc (.inr rfl),
      Bool.false_and, List.reverse_nil, List.nil_append, ih _ fun d hd => hv d (by simp [hd])]
    simp

/-- At the start of an argument plain characters are passed that do not begin with a slash. -/
theorem bareArguments_plain (room : ℕ) (read : List Char) {v : List Char}
    (hv : ∀ c ∈ v, isPlain c = true) (hs : (trimStart v).head? ≠ some '/') (t : List Char) :
    ∃ atStart, bareArguments room read true (v ++ t) =
      bareArguments room (v.reverse ++ read) atStart t := by
  induction v generalizing read with
  | nil => exact ⟨true, rfl⟩
  | cons c v ih =>
    have hc := hv c (by simp)
    have htail : ∀ d ∈ v, isPlain d = true := fun d hd => hv d (by simp [hd])
    have hcomma : ¬(c = ',' ∧ room ≠ 0) := fun h => isPlain_ne hc (by simp) h.1
    have hslash : c ≠ '/' := by
      rintro rfl
      simp [trimStart, isBlank] at hs
    rw [List.cons_append, bareArguments, if_neg hcomma, argumentSpan_plain hc (.inl hslash),
      Bool.true_and, List.reverse_nil, List.nil_append]
    cases hblank : isBlank c with
    | false =>
      refine ⟨false, ?_⟩
      rw [bareArguments_inside room _ htail]
      simp
    | true =>
      obtain ⟨atStart, h⟩ := ih (c :: read) htail (by simpa [trimStart, hblank] using hs)
      refine ⟨atStart, ?_⟩
      rw [h]
      simp

theorem argumentSpan_literal {s flags t : List Char} (hs : Guarded '/' s)
    (hf : ∀ c ∈ flags, Cursor.isFlag c = true) (ht : ∀ c ∈ t.head?, Cursor.isFlag c = false) :
    argumentSpan true '/' (s ++ '/' :: (flags ++ t)) = (s ++ '/' :: flags, t) := by
  rw [argumentSpan, if_neg (by decide), if_pos ⟨rfl, rfl⟩, hs.through?]
  dsimp only
  rw [takeWhile_append_stop hf ht, dropWhile_append_stop hf ht, List.append_assoc, List.singleton_append]

/-- The parts of a list that are read as they are written, whether a comma follows them or nothing. -/
structure Separable (s : List Char) : Prop where
  passed : ∀ room t, (∀ c ∈ t.head?, c = ',') →
    ∃ atStart, bareArguments room [] true (s ++ t) = bareArguments room s.reverse atStart t
  whole : bareArgument s = String.ofList s

theorem quoted?_of_not_mem {s : List Char} (h : '"' ∉ s) : quoted? s = none := by
  cases s with
  | nil => rfl
  | cons c s =>
    have hc : c ≠ '"' := by
      rintro rfl
      simp at h
    unfold quoted?
    split
    · next heq => exact absurd (List.cons.inj heq).1 hc
    · rfl

theorem unescape_of_not_mem {mark : Char} {s : List Char} (h : '\\' ∉ s) : unescape mark s = s := by
  fun_induction unescape mark s with
  | case1 => simp at h
  | case2 => simp at h
  | case3 c rest _ ih => rw [ih fun hc => h (by simp [hc])]
  | case4 => rfl

theorem Grammar.Plain.separable (p : Plain) : Separable p.chars := by
  have hne : ∀ d ∈ ['\\', '"'], d ∉ p.chars := by
    intro d hd hmem
    refine isPlain_ne (d := d) (p.plain d hmem) ?_ rfl
    simp at hd ⊢
    tauto
  constructor
  · intro room t _
    obtain ⟨atStart, h⟩ := bareArguments_plain room [] p.plain p.start t
    exact ⟨atStart, by simpa using h⟩
  · have hslash : (trim p.chars).head? ≠ some '/' := fun h => p.start (head?_trim h)
    have hquoted : quoted? (trim p.chars) = none :=
      quoted?_of_not_mem fun h => hne '"' (by simp) (mem_of_mem_trim h)
    rw [bareArgument, if_neg hslash, hquoted]
    dsimp only
    rw [unescape_of_not_mem (hne '\\' (by simp))]

theorem Grammar.Test.trim_print (test : Test) : trim test.print = test.print := by
  have hflags : ∀ c ∈ '/' :: test.flags.chars, isBlank c = false := by
    intro c hc
    rcases List.mem_cons.mp hc with rfl | hc
    · decide
    · exact isBlank_of_isFlag (test.flags.valid c hc)
  have hstart : ∀ c ∈ test.print.head?, isBlank c = false := by
    intro c hc
    obtain rfl : '/' = c := by simpa [Test.print] using hc
    decide
  exact trim_of_ends hstart (getLast_append (by simp) hflags)

theorem Grammar.Test.separable (test : Test) : Separable test.print := by
  constructor
  · intro room t ht
    have hstop : ∀ c ∈ t.head?, Cursor.isFlag c = false := by
      intro c hc
      rw [ht c hc]
      decide
    have hspan := argumentSpan_literal test.pattern.guarded
      (fun c hc => isFlag_of_isFlag (test.flags.valid c hc)) hstop
    refine ⟨false, ?_⟩
    rw [Test.print, List.append_assoc, List.cons_append, List.cons_append, bareArguments,
      if_neg (by simp), hspan]
    simp [isBlank]
  · have htrim := test.trim_print
    have hslash : test.print.head? = some '/' := rfl
    rw [bareArgument, htrim, if_pos hslash]

def Delimited (s : List Char) : Prop :=
  ∀ room t, (∀ c ∈ t.head?, c = ',') →
    ∃ atStart, bareArguments room [] true (s ++ t) = bareArguments room s.reverse atStart t

theorem Separable.delimited {s : List Char} (h : Separable s) : Delimited s := h.passed

theorem map_bareArgument {items : List (List Char)} (h : ∀ s ∈ items, Separable s) :
    items.map bareArgument = items.map String.ofList :=
  List.map_congr_left fun s hs => (h s hs).whole

theorem Delimited.comma {s : List Char} (h : Delimited s) {room : ℕ} (hroom : room ≠ 0)
    (t : List Char) :
    bareArguments room [] true (s ++ ',' :: t) =
      bareArgument s :: bareArguments (room - 1) [] true t := by
  obtain ⟨atStart, hs⟩ := h room (',' :: t) (by simp)
  rw [hs, bareArguments, if_pos ⟨rfl, hroom⟩, List.reverse_reverse]

theorem Delimited.last {s : List Char} (h : Delimited s) (room : ℕ) :
    bareArguments room [] true s = [bareArgument s] := by
  obtain ⟨atStart, hs⟩ := h room [] (by simp)
  rw [List.append_nil] at hs
  rw [hs, bareArguments, List.reverse_reverse]

/-- Without room all that remains is one argument. -/
theorem bareArguments_zero (read : List Char) (atStart : Bool) (s : List Char) :
    bareArguments 0 read atStart s = [bareArgument (read.reverse ++ s)] := by
  induction hn : s.length using Nat.strongRecOn generalizing read atStart s with
  | ind n ih =>
    cases s with
    | nil => rw [bareArguments, List.append_nil]
    | cons c rest =>
      have hlen := argumentSpan_length_le atStart c rest
      have happend := argumentSpan_append atStart c rest
      rw [bareArguments, if_neg (by simp), ih _ (by simp at hn; omega) _ _ _ rfl]
      congr 2
      simp only [List.reverse_append, List.reverse_reverse, List.reverse_cons, List.append_assoc,
        List.cons_append, List.nil_append, happend]

theorem bareArguments_commas {xs ys : List (List Char)} (hxs : ∀ s ∈ xs, Delimited s)
    (hys : ys ≠ []) (room : ℕ) :
    bareArguments (xs.length + room) [] true (commas (xs ++ ys)) =
      xs.map bareArgument ++ bareArguments room [] true (commas ys) := by
  induction xs with
  | nil => simp
  | cons s xs ih =>
    have hne : xs ++ ys ≠ [] := by simp [hys]
    have hcommas : commas (s :: xs ++ ys) = s ++ ',' :: commas (xs ++ ys) := by
      obtain ⟨t, rest, h⟩ := List.exists_cons_of_ne_nil hne
      rw [List.cons_append, h, commas_cons_cons]
    have hroom : (s :: xs).length + room - 1 = xs.length + room := by
      rw [List.length_cons]
      omega
    rw [hcommas, (hxs s (by simp)).comma (by simp), hroom, ih fun t ht => hxs t (by simp [ht])]
    rfl

/-- Without room what remains behind the arguments that were separated is not read any further. -/
theorem splitBare_commas {items : List (List Char)} (h : ∀ s ∈ items, Delimited s)
    (hne : items ≠ []) :
    splitBare (commas items) =
      if items.length ≤ maxArguments then items.map bareArgument
      else (items.take (maxArguments - 1)).map bareArgument ++
        [bareArgument (commas (items.drop (maxArguments - 1)))] := by
  split
  · next hlen =>
    obtain ⟨init, last, rfl⟩ : ∃ init last, items = init ++ [last] :=
      ⟨_, _, (List.dropLast_concat_getLast hne).symm⟩
    have hroom : maxArguments - 1 = init.length + (maxArguments - 1 - init.length) := by
      rw [List.length_append, List.length_singleton] at hlen
      omega
    rw [splitBare, hroom, bareArguments_commas (fun s hs => h s (by simp [hs])) (by simp),
      commas_singleton, (h last (by simp)).last, List.map_append, List.map_singleton]
  · next hlen =>
    have htake : (items.take (maxArguments - 1)).length = maxArguments - 1 := by
      rw [List.length_take]
      omega
    have hdrop : items.drop (maxArguments - 1) ≠ [] := by
      rw [ne_eq, List.drop_eq_nil_iff]
      omega
    have hfirst : ∀ s ∈ items.take (maxArguments - 1), Delimited s :=
      fun s hs => h s (List.mem_of_mem_take hs)
    have hread := bareArguments_commas hfirst hdrop 0
    rw [List.take_append_drop, htake, bareArguments_zero] at hread
    exact hread

theorem mem_commas {c : Char} {items : List (List Char)} (h : c ∈ commas items) : c = ',' ∨ ∃ s ∈ items, c ∈ s := by
  induction items with
  | nil => simp at h
  | cons s items ih =>
    cases items with
    | nil => exact .inr ⟨s, by simp, by simpa using h⟩
    | cons t items =>
      rw [commas_cons_cons, List.mem_append, List.mem_cons] at h
      rcases h with h | h | h
      · exact .inr ⟨s, by simp, h⟩
      · exact .inl h
      · rcases ih h with h | ⟨u, hu, hc⟩
        · exact .inl h
        · exact .inr ⟨u, by simp [hu], hc⟩

section Plain

variable {ps : List Plain} (hne : ps ≠ [])
include hne

theorem arguments_plains (hlen : ps.length ≤ maxArguments) :
    arguments (commas (ps.map Plain.chars)) = ps.map fun p => String.ofList p.chars := by
  have hseparable : ∀ s ∈ ps.map Plain.chars, Separable s := by
    intro s hs
    obtain ⟨p, -, rfl⟩ := List.mem_map.mp hs
    exact p.separable
  have hquote : '"' ∉ commas (ps.map Plain.chars) := by
    intro hmem
    rcases mem_commas hmem with hcomma | ⟨s, hs, hc⟩
    · exact absurd hcomma (by decide)
    · obtain ⟨p, -, rfl⟩ := List.mem_map.mp hs
      exact isPlain_ne (p.plain _ hc) (by simp) rfl
  unfold arguments
  split
  · next rest h => exact absurd ((trimStart_suffix _).subset (h ▸ List.mem_cons_self)) hquote
  · rw [splitBare_commas (fun s hs => (hseparable s hs).delimited) (by simpa using hne), List.length_map,
      if_pos hlen, map_bareArgument hseparable, List.map_map]
    rfl

theorem callArguments_plains (hlen : ps.length ≤ maxArguments) :
    callArguments ('(' :: (commas (ps.map Plain.chars) ++ [')'])) = ps.map fun p => String.ofList p.chars := by
  have hpassed := passed_arguments (ps.map .plain)
  rw [List.map_map] at hpassed
  have hclosing : closing '(' ')' 0 true (commas (ps.map Plain.chars) ++ [')']) =
      some (commas (ps.map Plain.chars), []) := closingParen_commas hpassed []
  have hfallback : fallback? [] = none := rfl
  rw [callArguments, hclosing]
  dsimp only
  rw [arguments_plains hne hlen, hfallback, List.append_nil]

end Plain

def branchItems (branches : List Branch) : List (List Char) :=
  branches.flatMap fun b => [b.test.print, b.output.chars]

theorem branchItems_cons (b : Branch) (branches : List Branch) :
    branchItems (b :: branches) = b.test.print :: b.output.chars :: branchItems branches := rfl

theorem branchItems_append (bs bs' : List Branch) :
    branchItems (bs ++ bs') = branchItems bs ++ branchItems bs' := List.flatMap_append

theorem length_branchItems (branches : List Branch) :
    (branchItems branches).length = 2 * branches.length := by
  induction branches with
  | nil => rfl
  | cons b branches ih =>
    rw [branchItems_cons, List.length_cons, List.length_cons, ih, List.length_cons]
    omega

theorem branchItems_ne_nil {branches : List Branch} (h : branches ≠ []) :
    branchItems branches ≠ [] := by
  obtain ⟨b, branches, rfl⟩ := List.exists_cons_of_ne_nil h
  simp [branchItems_cons]

theorem separable_branchItems (branches : List Branch) :
    ∀ s ∈ branchItems branches, Separable s := by
  intro s hs
  obtain ⟨b, -, hb⟩ := List.mem_flatMap.mp hs
  rcases List.mem_cons.mp hb with rfl | hb
  · exact b.test.separable
  · obtain rfl := List.mem_singleton.mp hb
    exact b.output.separable

theorem passed_branchItems (branches : List Branch) : Passed (branchItems branches) := by
  intro s hs t
  obtain ⟨b, -, hb⟩ := List.mem_flatMap.mp hs
  rcases List.mem_cons.mp hb with rfl | hb
  · exact ⟨false, closingParen_literal b.test.pattern.guarded b.test.flags.isPlain t⟩
  · obtain rfl := List.mem_singleton.mp hb
    exact closingParen_plain b.output.plain b.output.start t

theorem commas_branchItems (branches : List Branch) :
    commas (branches.map Branch.print) = commas (branchItems branches) := by
  induction branches with
  | nil => rfl
  | cons b branches ih =>
    cases branches with
    | nil => simp [branchItems, commas_cons_cons, Branch.print]
    | cons b' branches =>
      rw [List.map_cons, List.map_cons, commas_cons_cons, ← List.map_cons, ih]
      simp only [branchItems_cons, commas_cons_cons, Branch.print, List.append_assoc,
        List.cons_append]

/-- A list of branches does not begin with a quote. -/
theorem arguments_branchItems {branches : List Branch} (h : branches ≠ []) :
    arguments (commas (branchItems branches)) = splitBare (commas (branchItems branches)) := by
  obtain ⟨b, branches, rfl⟩ := List.exists_cons_of_ne_nil h
  obtain ⟨tail, htail⟩ : ∃ tail, commas (branchItems (b :: branches)) = '/' :: tail := by
    rw [branchItems_cons, commas_cons_cons]
    exact ⟨_, rfl⟩
  have htrim : trimStart ('/' :: tail) = '/' :: tail := trimStart_of_head (by simp [isBlank])
  rw [htail, arguments, htrim]
  rfl

theorem fallback?_print (p : Plain) :
    fallback? (printFallback (some p)) = some (String.ofList p.chars) := by
  have hblank (s : List Char) : trimStart ("nomatch(".toList ++ s) = "nomatch(".toList ++ s :=
    trimStart_of_head (by simp [isBlank])
  obtain ⟨argStart, hp⟩ := closingParen_plain p.plain p.start [')']
  have hclosing : closing '(' ')' 0 true (p.chars ++ [')']) = some (p.chars, []) := by
    rw [← closingParen, hp, closingParen_end]
    simp
  rw [fallback?, printFallback_some, List.append_assoc, hblank, dropStart?_append, Option.map_some,
    hclosing]
  dsimp only
  rw [p.separable.whole]

theorem callArguments_onMatch {branches : List Branch} (h : branches ≠ []) (p : Plain) :
    callArguments ('(' :: (commas (branches.map Branch.print) ++ ')' :: printFallback (some p))) =
      splitBare (commas (branchItems branches)) ++ [fallbackMark, String.ofList p.chars] := by
  have hclosing : closing '(' ')' 0 true
      (commas (branchItems branches) ++ ')' :: printFallback (some p)) =
        some (commas (branchItems branches), printFallback (some p)) :=
    closingParen_commas (passed_branchItems branches) _
  rw [commas_branchItems, callArguments, hclosing]
  dsimp only
  rw [arguments_branchItems h, fallback?_print]

end Stencil.Tag
