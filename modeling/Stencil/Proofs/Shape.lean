import Stencil.Proofs.MatchList

/-!
# Shapes of written filters

What follows the shape of a written filter is what follows the filter, but for loose name characters behind
the word `onmatch`. So a chain of written filters is cut where the filters end.
-/
namespace Stencil.Tag

open Stencil.Text Grammar

/-- A prefix made of characters of a class lies within the part of that class. -/
theorem prefix_of_prefix_append {p : Char → Bool} {w s t : List Char} (hw : ∀ c ∈ w, p c = true)
    (ht : ∀ c ∈ t.head?, p c = false) (h : w <+: s ++ t) : w <+: s := by
  induction w generalizing s with
  | nil => exact List.nil_prefix
  | cons c w ih =>
    cases s with
    | nil =>
      obtain ⟨rest, hrest⟩ := h
      have hc := ht c (by rw [List.nil_append] at hrest; simp [← hrest])
      simp [hw c (by simp)] at hc
    | cons d s =>
      rw [List.cons_append, List.cons_prefix_cons] at h
      rw [List.cons_prefix_cons]
      exact ⟨h.1, ih (fun c hc => hw c (by simp [hc])) h.2⟩

theorem dropStart?_append (start rest : List Char) :
    dropStart? start (start ++ rest) = some rest := dropStart?_eq_some.mpr rfl

theorem afterShape_of_slash {s rest t : List Char} (letter : Bool)
    (hs : trimStart s = (if letter then ['s'] else []) ++ '/' :: rest)
    (ht : afterSubstitution? rest = some t) : afterShape s = t := by
  cases letter <;> simp [afterShape, hs, ht]

theorem afterShape_of_onmatch {s rest : List Char} (hs : trimStart s = "onmatch".toList ++ rest) :
    afterShape s = afterMatchList rest := by
  have hd : dropStart? "onmatch".toList (trimStart s) = some rest := hs ▸ dropStart?_append _ _
  have hc : trimStart s = 'o' :: ("nmatch".toList ++ rest) := hs
  unfold afterShape
  dsimp only
  split
  · simp_all
  · simp_all
  · rw [hd]

def afterName : List Char → List Char
  | '(' :: rest => ((closingParen true rest).map Prod.snd).getD ('(' :: rest)
  | tail => tail

theorem name_append_ne_slash {name t : List Char} (hname : ∀ c ∈ name, isNameChar c = true)
    (ht : ∀ c ∈ t.head?, isNameChar c = false ∧ c ≠ '/') (rest : List Char) :
    name ++ t ≠ '/' :: rest := by
  intro h
  cases name with
  | nil => exact (ht '/' (by rw [List.nil_append] at h; simp [h])).2 rfl
  | cons c name =>
    obtain ⟨hc, -⟩ := List.cons.inj h
    exact ne_of_class (hname c (by simp)) (by decide) hc

theorem name_append_ne_letter_slash {name t : List Char} (hname : ∀ c ∈ name, isNameChar c = true)
    (ht : ∀ c ∈ t.head?, isNameChar c = false ∧ c ≠ '/') (rest : List Char) :
    name ++ t ≠ 's' :: '/' :: rest := by
  intro h
  cases name with
  | nil =>
    have hletter := (ht 's' (by rw [List.nil_append] at h; simp [h])).1
    exact absurd hletter (by decide)
  | cons c name =>
    obtain ⟨-, htail⟩ := List.cons.inj h
    exact name_append_ne_slash (fun d hd => hname d (by simp [hd])) ht rest htail

theorem afterShape_of_other {s name t : List Char} (hs : trimStart s = name ++ t)
    (hslash : ∀ rest, name ++ t ≠ '/' :: rest) (hletter : ∀ rest, name ++ t ≠ 's' :: '/' :: rest)
    (hname : ∀ c ∈ name, isNameChar c = true) (ht : ∀ c ∈ t.head?, isNameChar c = false)
    (ho : ¬"onmatch".toList <+: name) : afterShape s = afterName t := by
  have hon : dropStart? "onmatch".toList (name ++ t) = none :=
    dropStart?_eq_none.mpr fun h => ho (prefix_of_prefix_append (List.all_eq_true.mp (by decide)) ht h)
  unfold afterShape
  dsimp only
  rw [hs]
  split
  · next rest h => exact absurd h (hslash rest)
  · next rest h => exact absurd h (hletter rest)
  · rw [hon, dropWhile_append_stop hname ht]
    dsimp only
    split
    · next inside _ _ =>
      rw [afterName, closingParen]
      cases closing '(' ')' 0 true inside <;> rfl
    · next h =>
      rw [afterName]
      exact h

theorem afterShape_of_name {s name t : List Char} (hs : trimStart s = name ++ t)
    (hname : ∀ c ∈ name, isNameChar c = true) (ht : ∀ c ∈ t.head?, isNameChar c = false ∧ c ≠ '/')
    (ho : ¬"onmatch".toList <+: name) :
    afterShape s = afterName t :=
  afterShape_of_other hs (name_append_ne_slash hname ht) (name_append_ne_letter_slash hname ht) hname
    (fun c hc => (ht c hc).1) ho

def Stops (t : List Char) : Prop := ∀ c ∈ t.head?, c = '|' ∨ c = ':'

theorem stops_nil : Stops [] := by simp [Stops]

theorem stops_pipe (t : List Char) : Stops ('|' :: t) := by simp [Stops]

theorem stops_colon (t : List Char) : Stops (':' :: t) := by simp [Stops]

theorem Stops.head {p : Char → Bool} {t : List Char} (h : Stops t) (hp : p '|' = false)
    (hc : p ':' = false) : ∀ c ∈ t.head?, p c = false := by
  intro c hmem
  rcases h c hmem with rfl | rfl
  · exact hp
  · exact hc

theorem Stops.ne_cons {t : List Char} (h : Stops t) {c : Char} (hp : c ≠ '|') (hc : c ≠ ':')
    (rest : List Char) : t ≠ c :: rest := by
  rintro rfl
  rcases h c rfl with h | h
  · exact hp h
  · exact hc h

theorem afterSubstitution?_print (pattern replacement : Body) (flags : Flags) {t : List Char}
    (ht : Stops t) :
    afterSubstitution? (pattern.chars ++ '/' :: replacement.chars ++ '/' :: flags.chars ++ t) =
      some t := by
  have h1 := pattern.guarded.cut (replacement.chars ++ '/' :: (flags.chars ++ t))
  have h2 := replacement.guarded.cut (flags.chars ++ t)
  simp only [List.append_assoc, List.cons_append]
  rw [afterSubstitution?, h1, Option.map_some]
  dsimp only
  rw [h2]
  dsimp only
  rw [flags.dropWhile_append (ht.head (by decide) (by decide))]

/-- The parts of a list in parentheses: each is passed whole where it begins. -/
def Passed (items : List (List Char)) : Prop :=
  ∀ s ∈ items, ∀ t, ∃ argStart, closingParen true (s ++ t) =
    (closingParen argStart t).map fun (i, a) => (s ++ i, a)

theorem closingParen_inQuotes {s : List Char} (hs : Guarded '"' s) (t : List Char) :
    ∃ argStart, closingParen true ('"' :: s ++ ['"'] ++ t) =
      (closingParen argStart t).map fun (i, a) => ('"' :: s ++ ['"'] ++ i, a) := by
  refine ⟨false, ?_⟩
  rw [List.append_assoc, List.singleton_append, closingParen_quoted hs]
  simp only [List.append_assoc, List.singleton_append]

theorem closingParen_argument (a : Argument) (t : List Char) :
    ∃ argStart, closingParen true (a.print ++ t) =
      (closingParen argStart t).map fun (i, b) => (a.print ++ i, b) := by
  cases a with
  | quoted q => exact closingParen_inQuotes q.guarded t
  | plain p => exact closingParen_plain p.plain p.start t

theorem passed_arguments (arguments : List Argument) :
    Passed (arguments.map Argument.print) := by
  intro s hs t
  obtain ⟨a, -, rfl⟩ := List.mem_map.mp hs
  exact closingParen_argument a t

theorem closingParen_commas {items : List (List Char)} (h : Passed items) (t : List Char) :
    closingParen true (commas items ++ ')' :: t) = some (commas items, t) := by
  induction items with
  | nil => exact closingParen_end true t
  | cons s items ih =>
    cases items with
    | nil =>
      obtain ⟨argStart, hs⟩ := h s (by simp) (')' :: t)
      rw [commas_singleton, hs, closingParen_end]
      simp
    | cons s' items =>
      have hrest := ih fun x hx => h x (by simp [hx])
      obtain ⟨argStart, hs⟩ := h s (by simp) (',' :: (commas (s' :: items) ++ ')' :: t))
      rw [commas_cons_cons, List.append_assoc, List.cons_append, hs, closingParen_comma, hrest]
      simp

/-- A list that is passed as pairs is passed with the fallback behind it. -/
theorem afterMatchList_of_passed {inside : List Char}
    (h : ∀ t, afterPairs? (inside ++ ')' :: t) = some t) (fallback : Option Plain) {t : List Char}
    (ht : Stops t) :
    afterMatchList ('(' :: (inside ++ ')' :: (printFallback fallback ++ t))) = t := by
  have hstart (s : List Char) : trimStart ('(' :: s) = '(' :: s :=
    trimStart_of_head (by simp [isBlank])
  unfold afterMatchList
  split
  · next inside' hinside =>
    rw [hstart] at hinside
    obtain ⟨-, rfl⟩ := List.cons.inj hinside
    rw [h]
    dsimp only
    cases fallback with
    | none =>
      have hblank : trimStart t = t := trimStart_of_head (ht.head (by decide) (by decide))
      have hclause : dropStart? "nomatch(".toList t = none := by
        refine dropStart?_eq_none.mpr ?_
        rintro ⟨rest, rfl⟩
        exact ht.ne_cons (by decide) (by decide) _ rfl
      rw [printFallback_none, List.nil_append, hblank, hclause]
    | some p =>
      obtain ⟨argStart, hp⟩ := closingParen_plain p.plain p.start (')' :: t)
      have hclosing : closing '(' ')' 0 true (p.chars ++ ')' :: t) = some (p.chars, t) := by
        rw [← closingParen, hp, closingParen_end]
        simp
      have hblank (s : List Char) : trimStart ("nomatch(".toList ++ s) = "nomatch(".toList ++ s :=
        trimStart_of_head (by simp [isBlank])
      rw [printFallback_some, List.append_assoc, List.append_assoc, List.singleton_append, hblank,
        dropStart?_append]
      dsimp only
      rw [hclosing]
  · next hinside => exact absurd (hstart _) (hinside _)

theorem print_ne_nil (w : Filter) : w.print ≠ [] := by
  cases w with
  | bare name => exact name.nonempty
  | call name other arguments => simp [print_call]
  | substitution letter pattern replacement flags => simp [print_substitution]
  | onMatch branches nonempty fallback => simp [print_onMatch]

theorem Grammar.Name.head_append (name : Name) (t : List Char) :
    ∀ c ∈ (name.chars ++ t).head?, isBlank c = false := by
  intro c hc
  obtain ⟨d, rest, hd⟩ := List.exists_cons_of_ne_nil name.nonempty
  rw [hd, List.cons_append, List.head?_cons, Option.mem_some_iff] at hc
  exact isBlank_of_isNameChar (name.valid c (by simp [hd, hc]))

theorem print_append_head (w : Filter) (t : List Char) :
    ∀ c ∈ (w.print ++ t).head?, isBlank c = false := by
  cases w with
  | bare name =>
    rw [print_bare]
    exact name.head_append t
  | call name other arguments =>
    rw [print_call, List.append_assoc]
    exact name.head_append _
  | substitution letter pattern replacement flags =>
    cases letter <;> simp [print_substitution, isBlank]
  | onMatch branches nonempty fallback => simp [print_onMatch, isBlank]

theorem print_getLast (w : Filter) : ∀ c ∈ w.print.getLast?, isBlank c = false := by
  have hclose : ∀ c ∈ [')'], isBlank c = false := by simp [isBlank]
  cases w with
  | bare name =>
    rw [print_bare, ← List.nil_append name.chars]
    exact getLast_append name.nonempty fun c hc => isBlank_of_isNameChar (name.valid c hc)
  | call name other arguments =>
    rw [print_call, ← List.cons_append, ← List.append_assoc]
    exact getLast_append (by simp) hclose
  | substitution letter pattern replacement flags =>
    have hflags : ∀ c ∈ '/' :: flags.chars, isBlank c = false := by
      intro c hc
      rcases List.mem_cons.mp hc with rfl | hc
      · decide
      · exact isBlank_of_isFlag (flags.valid c hc)
    rw [print_substitution, ← List.cons_append, ← List.append_assoc]
    exact getLast_append (by simp) hflags
  | onMatch branches nonempty fallback =>
    cases fallback with
    | none =>
      rw [print_onMatch, printFallback_none, ← List.cons_append, ← List.append_assoc]
      exact getLast_append (by simp) hclose
    | some p =>
      rw [print_onMatch, printFallback_some, ← List.cons_append, ← List.cons_append, ← List.append_assoc,
        ← List.append_assoc]
      exact getLast_append (by simp) hclose

theorem trim_print (w : Filter) : trim w.print = w.print := by
  have hs := print_append_head w []
  rw [List.append_nil] at hs
  exact trim_of_ends hs (print_getLast w)

/-- A name that goes on behind the word `onmatch` is left from there on. -/
theorem afterShape_onmatch_name {s loose t : List Char}
    (hs : trimStart s = "onmatch".toList ++ (loose ++ t))
    (hloose : ∀ c ∈ loose, isNameChar c = true) (ht : Stops t) : afterShape s = loose ++ t := by
  have hblank : trimStart (loose ++ t) = loose ++ t := by
    refine trimStart_of_head fun c hc => ?_
    cases loose with
    | nil => exact ht.head (by decide) (by decide) c hc
    | cons d loose =>
      rw [List.cons_append, List.head?_cons, Option.mem_some_iff] at hc
      exact isBlank_of_isNameChar (hloose c (by simp [hc]))
  have hparen : ∀ rest, loose ++ t ≠ '(' :: rest := by
    intro rest h
    cases loose with
    | nil => exact ht.ne_cons (by decide) (by decide) rest h
    | cons d loose =>
      obtain ⟨hd, -⟩ := List.cons.inj h
      exact ne_of_class (hloose d (by simp)) (by decide) hd
  rw [afterShape_of_onmatch hs, afterMatchList, hblank]
  split
  · next inside h => exact absurd h (hparen inside)
  · rfl

/-- Behind a written filter its shape leaves name characters at most. -/
theorem afterShape_print (w : Filter) {t : List Char} (ht : Stops t) :
    ∃ loose, loose <:+ w.print ∧ (∀ c ∈ loose, isNameChar c = true) ∧
      afterShape (w.print ++ t) = loose ++ t := by
  have hstart : trimStart (w.print ++ t) = w.print ++ t :=
    trimStart_of_head (print_append_head w t)
  cases w with
  | bare name =>
    rw [print_bare] at hstart ⊢
    by_cases ho : "onmatch".toList <+: name.chars
    · obtain ⟨loose, hloose⟩ := ho
      have hvalid : ∀ c ∈ loose, isNameChar c = true :=
        fun c hc => name.valid c (by simp [← hloose, hc])
      refine ⟨loose, ⟨_, hloose⟩, hvalid, ?_⟩
      rw [← hloose, List.append_assoc] at hstart ⊢
      exact afterShape_onmatch_name hstart hvalid ht
    · have hstop : ∀ c ∈ t.head?, isNameChar c = false ∧ c ≠ '/' := by
        intro c hc
        rcases ht c hc with rfl | rfl <;> decide
      refine ⟨[], List.nil_suffix, by simp, ?_⟩
      rw [afterShape_of_name hstart name.valid hstop ho, List.nil_append, afterName]
      exact ht.ne_cons (by decide) (by decide)
  | call name other arguments =>
    have hstop : ∀ c ∈ ('(' :: (commas (arguments.map Argument.print) ++ ')' :: t)).head?,
        isNameChar c = false ∧ c ≠ '/' := by
      intro c hc
      obtain rfl : '(' = c := by simpa using hc
      decide
    refine ⟨[], List.nil_suffix, by simp, ?_⟩
    rw [print_call, List.append_assoc, List.cons_append, List.append_assoc,
      List.singleton_append] at hstart ⊢
    rw [afterShape_of_name hstart name.valid hstop other, afterName,
      closingParen_commas (passed_arguments arguments)]
    rfl
  | substitution letter pattern replacement flags =>
    refine ⟨[], List.nil_suffix, by simp, ?_⟩
    rw [print_substitution, List.append_assoc, List.cons_append] at hstart ⊢
    rw [afterShape_of_slash letter hstart (afterSubstitution?_print pattern replacement flags ht)]
    rfl
  | onMatch branches nonempty fallback =>
    refine ⟨[], List.nil_suffix, by simp, ?_⟩
    rw [print_onMatch, List.append_assoc, List.cons_append, List.append_assoc,
      List.cons_append] at hstart ⊢
    rw [afterShape_of_onmatch hstart, afterMatchList_of_passed (afterPairs?_print nonempty) fallback ht]
    rfl

end Stencil.Tag
