import Stencil.Proofs.Grammar

/-!
# Nested texts

Texts whose quotes and brackets are closed. Every reader of argument lists passes over such a text, as long as no
slash stands where one of them takes it for the beginning of a regular-expression literal.
-/
namespace Stencil.Tag

open Stencil.Text Grammar

/-- A text whose quotes and brackets are closed, and whose slashes begin no literals. The first flag tells whether
an argument may begin where the text does, the second whether there may be commas outside of brackets. -/
inductive Nested : Bool → Bool → List Char → Prop where
  | nil {start commas : Bool} : Nested start commas []
  | plain {start commas : Bool} {c : Char} {s : List Char} (hc : isPlain c = true)
      (hslash : c = '/' → start = false) (hs : Nested (start && isBlank c) commas s) :
      Nested start commas (c :: s)
  | comma {start : Bool} {s : List Char} (hs : Nested true true s) : Nested start true (',' :: s)
  | escaped {start commas : Bool} (c : Char) {s : List Char} (hs : Nested false commas s) :
      Nested start commas ('\\' :: c :: s)
  | quoted {start commas : Bool} {q s : List Char} (hq : Guarded '"' q) (hs : Nested false commas s) :
      Nested start commas ('"' :: (q ++ '"' :: s))
  | bracket {start commas : Bool} {opener closer : Char} {inside s : List Char}
      (ho : closerOf? opener = some closer) (hinside : Nested true true inside)
      (hs : Nested false commas s) : Nested start commas (opener :: (inside ++ closer :: s))

theorem closerOf?_cases {opener closer : Char} (h : closerOf? opener = some closer) :
    opener = '(' ∧ closer = ')' ∨ opener = '\x7b' ∧ closer = '\x7d' ∨ opener = '[' ∧ closer = ']' := by
  unfold closerOf? at h
  split at h <;> simp_all [eq_comm]

theorem isPlain_of_isBlank {c : Char} (h : isBlank c = true) : isPlain c = true :=
  decide_eq_true (not_mem_of_class h (by decide))

theorem isPlain_ne_closer {c opener closer : Char} (hc : isPlain c = true)
    (h : closerOf? opener = some closer) : c ≠ opener ∧ c ≠ closer := by
  rcases closerOf?_cases h with ⟨rfl, rfl⟩ | ⟨rfl, rfl⟩ | ⟨rfl, rfl⟩
  all_goals exact ⟨isPlain_ne hc (by simp), isPlain_ne hc (by simp)⟩

theorem isBlank_of_isAsciiBlank {c : Char} (h : isAsciiBlank c = true) : isBlank c = true := by
  simp only [isAsciiBlank, Bool.or_eq_true, beq_iff_eq] at h
  rcases h with (((rfl | rfl) | rfl) | rfl) | rfl <;> decide

/-- A character that neither escapes nor quotes nor begins an argument or a literal, and is no blank. -/
structure IsMark (c : Char) : Prop where
  ne_backslash : c ≠ '\\'
  ne_quote : c ≠ '"'
  ne_slash : c ≠ '/'
  ne_comma : c ≠ ','
  not_blank : isBlank c = false

theorem isMark_of_closerOf? {opener closer : Char} (h : closerOf? opener = some closer) :
    IsMark opener ∧ IsMark closer ∧ opener ≠ closer := by
  rcases closerOf?_cases h with ⟨rfl, rfl⟩ | ⟨rfl, rfl⟩ | ⟨rfl, rfl⟩
  all_goals refine ⟨⟨?_, ?_, ?_, ?_, ?_⟩, ⟨?_, ?_, ?_, ?_, ?_⟩, ?_⟩ <;> decide

theorem IsMark.leap {c : Char} (h : IsMark c) (literal : Bool) (rest : List Char) :
    leap literal c rest = .step :=
  leap_of_ne rest h.ne_backslash h.ne_quote (.inl h.ne_slash)

theorem IsMark.not_asciiBlank {c : Char} (h : IsMark c) : isAsciiBlank c = false := by
  refine Bool.eq_false_iff.mpr fun hc => ?_
  exact Bool.noConfusion (h.not_blank.symm.trans (isBlank_of_isAsciiBlank hc))

theorem IsMark.next {c : Char} (h : IsMark c) (argStart : Bool) (depth : Nat) :
    (if isAsciiBlank c then argStart else c == ',' && depth == 0) = false := by
  simp [h.not_asciiBlank, h.ne_comma]

section Closing

variable {opener closer : Char}

/-- The search goes on behind `s` as it goes on behind the empty text. -/
def Passes (opener closer : Char) (depth : Nat) (argStart : Bool) (s : List Char) : Prop :=
  ∀ t, ∃ argStart', closing opener closer depth argStart (s ++ t) =
    (closing opener closer depth argStart' t).map fun (i, a) => (s ++ i, a)

theorem passes_nil (depth : Nat) (argStart : Bool) : Passes opener closer depth argStart [] :=
  fun t => ⟨argStart, by simp⟩

theorem Passes.append {depth : Nat} {argStart : Bool} {s s' : List Char}
    (hs : Passes opener closer depth argStart s)
    (hs' : ∀ argStart', Passes opener closer depth argStart' s') :
    Passes opener closer depth argStart (s ++ s') := by
  intro t
  obtain ⟨argStart', h⟩ := hs (s' ++ t)
  obtain ⟨argStart'', h'⟩ := hs' argStart' t
  refine ⟨argStart'', ?_⟩
  rw [List.append_assoc, h, h', Option.map_map]
  simp [Function.comp_def]

theorem Passes.over {depth : Nat} {argStart : Bool} {c : Char} {taken s : List Char}
    (h : ∀ t, leap (argStart && depth == 0) c (taken ++ t) = .over taken t)
    (hs : Passes opener closer depth false s) :
    Passes opener closer depth argStart (c :: (taken ++ s)) := by
  intro t
  obtain ⟨argStart', hrest⟩ := hs t
  refine ⟨argStart', ?_⟩
  rw [List.cons_append, List.append_assoc, closing_of_over (h _), hrest, Option.map_map]
  simp [Function.comp_def]

theorem Passes.step {depth : Nat} {argStart : Bool} {c : Char} {s : List Char}
    (h : ∀ t, leap (argStart && depth == 0) c t = .step) (ho : c ≠ opener) (hc : c ≠ closer)
    (hs : Passes opener closer depth
      (if isAsciiBlank c then argStart else c == ',' && depth == 0) s) :
    Passes opener closer depth argStart (c :: s) := by
  intro t
  obtain ⟨argStart', hrest⟩ := hs t
  refine ⟨argStart', ?_⟩
  rw [List.cons_append, closing_step (h _) (by simp [hc]), if_neg ho, if_neg hc, hrest, Option.map_map]
  simp [Function.comp_def]

theorem Passes.counted {depth : Nat} {argStart : Bool} {inside s : List Char}
    (hb : closerOf? opener = some closer) (hinside : Passes opener closer (depth + 1) false inside)
    (hs : Passes opener closer depth false s) :
    Passes opener closer depth argStart (opener :: (inside ++ closer :: s)) := by
  intro t
  obtain ⟨hopener, hcloser, hne⟩ := isMark_of_closerOf? hb
  obtain ⟨insideStart, hin⟩ := hinside (closer :: (s ++ t))
  obtain ⟨argStart', hrest⟩ := hs t
  refine ⟨argStart', ?_⟩
  rw [List.cons_append, List.append_assoc, List.cons_append,
    closing_step (hopener.leap _ _) fun h => hne h.1, if_pos rfl, hopener.next, hin,
    closing_step (hcloser.leap _ _) fun h => Nat.succ_ne_zero depth h.2, if_neg hne.symm, if_pos rfl,
    hcloser.next, Nat.succ_sub_one, hrest]
  simp [Function.comp_def]

theorem Passes.uncounted {depth : Nat} {argStart : Bool} {opener' closer' : Char} {inside s : List Char}
    (hb : closerOf? opener = some closer) (hb' : closerOf? opener' = some closer') (hne : opener' ≠ opener)
    (hinside : Passes opener closer depth false inside) (hs : Passes opener closer depth false s) :
    Passes opener closer depth argStart (opener' :: (inside ++ closer' :: s)) := by
  obtain ⟨hopener, hcloser, -⟩ := isMark_of_closerOf? hb'
  have hothers : opener' ≠ closer ∧ closer' ≠ opener ∧ closer' ≠ closer := by
    rcases closerOf?_cases hb with ⟨rfl, rfl⟩ | ⟨rfl, rfl⟩ | ⟨rfl, rfl⟩
    all_goals
      rcases closerOf?_cases hb' with ⟨rfl, rfl⟩ | ⟨rfl, rfl⟩ | ⟨rfl, rfl⟩
      all_goals first | exact absurd rfl hne | decide
  refine .step (hopener.leap _) hne hothers.1 ?_
  rw [hopener.next]
  refine hinside.append fun argStart' => ?_
  refine .step (hcloser.leap _) hothers.2.1 hothers.2.2 ?_
  rw [hcloser.next]
  exact hs

/-- Nested text is passed at all depths, as long as no literal may begin where no argument may. -/
theorem Nested.passes {start commas : Bool} {s : List Char} (h : Nested start commas s)
    (hb : closerOf? opener = some closer) (depth : Nat) (argStart : Bool)
    (hstart : (argStart && depth == 0) = true → start = true) :
    Passes opener closer depth argStart s := by
  induction h generalizing depth argStart with
  | nil => exact passes_nil depth argStart
  | @plain start commas c s hc hslash _ ih =>
    have hne := isPlain_ne_closer hc hb
    have hliteral : c ≠ '/' ∨ (argStart && depth == 0) = false := by
      by_cases hchar : c = '/'
      · refine .inr (Bool.eq_false_iff.mpr fun hat => ?_)
        exact Bool.noConfusion ((hslash hchar).symm.trans (hstart hat))
      · exact .inl hchar
    refine .step (fun t => ?_) hne.1 hne.2 (ih _ _ ?_)
    · exact leap_of_ne t (isPlain_ne hc (by simp)) (isPlain_ne hc (by simp)) hliteral
    · have hcomma : (c == ',') = false := by simpa using isPlain_ne hc (d := ',') (by simp)
      rw [hcomma, Bool.false_and]
      split
      · next hblank =>
        intro hat
        rw [hstart hat, isBlank_of_isAsciiBlank hblank]
        rfl
      · simp
  | comma _ ih =>
    have hne : ',' ≠ opener ∧ ',' ≠ closer := by
      rcases closerOf?_cases hb with ⟨rfl, rfl⟩ | ⟨rfl, rfl⟩ | ⟨rfl, rfl⟩ <;> decide
    refine .step (fun t => ?_) hne.1 hne.2 (ih _ _ fun _ => rfl)
    exact leap_of_ne t (by decide) (by decide) (.inl (by decide))
  | escaped c _ ih =>
    have htaken (literal : Bool) (t : List Char) : leap literal '\\' ([c] ++ t) = .over [c] t := rfl
    exact .over (htaken _) (ih depth false (by simp))
  | @quoted start commas q s hq _ ih =>
    have htaken (literal : Bool) (t : List Char) :
        leap literal '"' (q ++ ['"'] ++ t) = .over (q ++ ['"']) t := by
      rw [List.append_assoc, List.singleton_append]
      exact leap_quote hq t
    have hover := Passes.over (htaken (argStart && depth == 0)) (ih depth false (by simp))
    simpa using hover
  | @bracket start commas opener' closer' inside s ho _ _ ihinside ih =>
    -- only brackets of the kind that is looked for change the depth
    by_cases hkind : opener' = opener
    · subst hkind
      obtain rfl := Option.some.inj (hb.symm.trans ho)
      exact .counted hb (ihinside (depth + 1) false (by simp)) (ih depth false (by simp))
    · exact .uncounted hb ho hkind (ihinside depth false (by simp)) (ih depth false (by simp))

theorem Nested.closing {s : List Char} (h : Nested true true s)
    (hb : closerOf? opener = some closer) (t : List Char) :
    closing opener closer 0 true (s ++ closer :: t) = some (s, t) := by
  obtain ⟨argStart', hpasses⟩ := h.passes hb 0 true (fun _ => rfl) (closer :: t)
  have hcloser := (isMark_of_closerOf? hb).2.1
  rw [hpasses, closing_closer (hcloser.leap _ t)]
  simp

end Closing

theorem outputSpan_plain {c : Char} (hc : isPlain c = true) (rest : List Char) :
    outputSpan c rest = ([], rest) := by
  have h : ∀ d ∈ ['\\', '"', '(', ')', '[', ']', '\x7b', '\x7d', ','], c ≠ d :=
    fun d hd => isPlain_ne hc hd
  have hcloser : closerOf? c = none := by
    unfold closerOf?
    split
    · exact absurd rfl (h '(' (by simp))
    · exact absurd rfl (h '\x7b' (by simp))
    · exact absurd rfl (h '[' (by simp))
    · rfl
  simp [outputSpan, throughBracket?, hcloser, h '\\', h '"']

/-- An output that nests is passed up to the comma or the parenthesis behind it. -/
theorem Nested.afterOutput {start commas : Bool} {s : List Char} (h : Nested start commas s)
    (hcommas : commas = false) {e : Char} (he : e = ',' ∨ e = ')') (t : List Char) :
    afterOutput (s ++ e :: t) = e :: t := by
  have hspan {c : Char} {rest taken after : List Char} (hc : ¬(c = ',' ∨ c = ')'))
      (hout : outputSpan c rest = (taken, after)) (hafter : Tag.afterOutput after = e :: t) :
      Tag.afterOutput (c :: rest) = e :: t := by
    rw [Tag.afterOutput, if_neg hc, hout]
    exact hafter
  induction h with
  | nil => rw [List.nil_append, Tag.afterOutput, if_pos he]
  | plain hc _ _ ih =>
    refine hspan ?_ (outputSpan_plain hc _) (ih hcommas)
    exact not_or.mpr ⟨isPlain_ne hc (by simp), isPlain_ne hc (by simp)⟩
  | comma => exact Bool.noConfusion hcommas
  | escaped c _ ih => exact hspan (by decide) rfl (ih hcommas)
  | @quoted _ _ q s hq _ ih =>
    have hout : outputSpan '"' (q ++ '"' :: (s ++ e :: t)) = (q ++ ['"'], s ++ e :: t) := by
      rw [outputSpan, if_neg (by decide), if_pos rfl, hq.through?, Option.getD_some]
    simpa using hspan (by decide) hout (ih hcommas)
  | @bracket _ _ opener closer inside s ho hinside _ _ ih =>
    obtain ⟨hopener, -, -⟩ := isMark_of_closerOf? ho
    have hthrough : throughBracket? opener (inside ++ closer :: (s ++ e :: t)) =
        some (inside ++ [closer], s ++ e :: t) := by
      rw [throughBracket?, ho, Option.bind_some, hinside.closing ho, Option.map_some]
    have hout : outputSpan opener (inside ++ closer :: (s ++ e :: t)) =
        (inside ++ [closer], s ++ e :: t) := by
      rw [outputSpan, if_neg hopener.ne_backslash, if_neg hopener.ne_quote, hthrough, Option.getD_some]
    have hend : ¬(opener = ',' ∨ opener = ')') := by
      rcases closerOf?_cases ho with ⟨rfl, -⟩ | ⟨rfl, -⟩ | ⟨rfl, -⟩ <;> decide
    simpa using hspan hend hout (ih hcommas)

theorem Nested.head {start commas : Bool} {c : Char} {s : List Char} (h : Nested start commas (c :: s)) :
    c ≠ ')' ∧ (commas = false → c ≠ ',') ∧ (start = true → c ≠ '/') := by
  cases h with
  | plain hc hslash _ =>
    refine ⟨isPlain_ne hc (by simp), fun _ => isPlain_ne hc (by simp), fun hstart heq => ?_⟩
    exact Bool.noConfusion (hstart.symm.trans (hslash heq))
  | comma => exact ⟨by decide, fun h => Bool.noConfusion h, fun _ => by decide⟩
  | escaped | quoted => exact ⟨by decide, fun _ => by decide, fun _ => by decide⟩
  | bracket ho =>
    obtain ⟨hopener, -, -⟩ := isMark_of_closerOf? ho
    have hend : c ≠ ')' := by
      rcases closerOf?_cases ho with ⟨rfl, -⟩ | ⟨rfl, -⟩ | ⟨rfl, -⟩ <;> decide
    exact ⟨hend, fun _ => hopener.ne_comma, fun _ => hopener.ne_slash⟩

/-- Plain characters can be taken off the start, as long as an argument begins there still if one did. -/
theorem Nested.dropWhile {start commas : Bool} {p : Char → Bool}
    (hp : ∀ c, p c = true → isPlain c = true ∧ (start = true → isBlank c = true)) {s : List Char}
    (h : Nested start commas s) : Nested start commas (s.dropWhile p) := by
  have hstop {c : Char} (hc : isPlain c = false) (v : List Char) : (c :: v).dropWhile p = c :: v := by
    refine List.dropWhile_cons_of_neg fun hpc => ?_
    exact Bool.noConfusion (hc.symm.trans (hp c hpc).1)
  induction h with
  | nil => exact .nil
  | @plain start commas c s hc hslash hs ih =>
    by_cases hpc : p c = true
    · rw [List.dropWhile_cons_of_pos hpc]
      have hsame : (start && isBlank c) = start := by
        cases start with
        | false => rfl
        | true => exact (hp c hpc).2 rfl
      rw [hsame] at ih
      exact ih hp
    · rw [List.dropWhile_cons_of_neg hpc]
      exact .plain hc hslash hs
  | comma hs =>
    rw [hstop (by decide)]
    exact .comma hs
  | escaped c hs =>
    rw [hstop (by decide)]
    exact .escaped c hs
  | quoted hq hs =>
    rw [hstop (by decide)]
    exact .quoted hq hs
  | @bracket _ _ opener _ _ _ ho hinside hs =>
    have hopener : isPlain opener = false := by
      rcases closerOf?_cases ho with ⟨rfl, -⟩ | ⟨rfl, -⟩ | ⟨rfl, -⟩ <;> decide
    rw [hstop hopener]
    exact .bracket ho hinside hs

/-- Plain text nests, if it does not begin like a literal where an argument begins. -/
theorem nested_of_plain {start commas : Bool} {s : List Char} (hs : ∀ c ∈ s, isPlain c = true)
    (hslash : start = true → (trimStart s).head? ≠ some '/') : Nested start commas s := by
  induction s generalizing start with
  | nil => exact .nil
  | cons c s ih =>
    refine .plain (hs c (by simp)) (fun hc => ?_) (ih (fun d hd => hs d (by simp [hd])) fun hstart => ?_)
    · by_contra hstart
      have hhead := hslash (by simpa using hstart)
      simp [hc, trimStart, isBlank] at hhead
    · obtain ⟨hstart, hblank⟩ := Bool.and_eq_true_iff.mp hstart
      have hhead := hslash hstart
      rwa [trimStart, List.dropWhile_cons_of_pos hblank] at hhead

theorem Grammar.Plain.nested (p : Plain) (start commas : Bool) : Nested start commas p.chars :=
  nested_of_plain p.plain fun _ => p.start

theorem Grammar.Flags.nested (f : Flags) : Nested false false f.chars :=
  nested_of_plain f.isPlain fun h => Bool.noConfusion h

end Stencil.Tag
