import Stencil.Proofs.Nesting

/-!
# Lists of an onmatch

The list of an `onmatch` is read twice: as an argument list, which ends at the parenthesis that closes it, and as
pairs of a test and an output. Both readings end at the same place if the texts of the list nest and only tests
begin with a slash.
-/
namespace Stencil.Tag

open Stencil.Text Grammar

/-- A test: a literal with what is written behind it, or a text that does not begin with a slash. -/
inductive IsTest : List Char → Prop where
  | text {s : List Char} (hs : Nested true false s) : IsTest s
  | literal {blanks pattern tail : List Char} (hblanks : ∀ c ∈ blanks, isAsciiBlank c = true)
      (hpattern : Guarded '/' pattern) (htail : Nested false false tail) :
      IsTest (blanks ++ '/' :: (pattern ++ '/' :: tail))

/-- Tests and outputs in turn with commas between them. -/
inductive MatchList : List Char → Prop where
  | test {s : List Char} (hs : IsTest s) : MatchList s
  | pair {s output : List Char} (hs : IsTest s) (houtput : Nested true false output) :
      MatchList (s ++ ',' :: output)
  | more {s output list : List Char} (hs : IsTest s) (houtput : Nested true false output)
      (hlist : MatchList list) : MatchList (s ++ ',' :: (output ++ ',' :: list))

theorem closerOf?_paren : closerOf? '(' = some ')' := rfl

theorem passes_blanks {blanks s : List Char} (hblanks : ∀ c ∈ blanks, isAsciiBlank c = true)
    (hs : Passes '(' ')' 0 true s) : Passes '(' ')' 0 true (blanks ++ s) := by
  induction blanks with
  | nil => exact hs
  | cons c blanks ih =>
    have hblank := hblanks c (by simp)
    have hplain := isPlain_of_isBlank (isBlank_of_isAsciiBlank hblank)
    have hslash : c ≠ '/' := ne_of_class hblank (by decide)
    have hne := isPlain_ne_closer hplain closerOf?_paren
    refine .step (fun t => ?_) hne.1 hne.2 ?_
    · exact leap_of_ne t (isPlain_ne hplain (by simp)) (isPlain_ne hplain (by simp)) (.inl hslash)
    · rw [if_pos hblank]
      exact ih fun d hd => hblanks d (by simp [hd])

theorem IsTest.passes {s : List Char} (h : IsTest s) : Passes '(' ')' 0 true s := by
  cases h with
  | text hs => exact hs.passes closerOf?_paren 0 true fun _ => rfl
  | @literal blanks pattern tail hblanks hpattern htail =>
    have htaken (t : List Char) :
        leap true '/' (pattern ++ ['/'] ++ t) = .over (pattern ++ ['/']) t := by
      rw [List.append_assoc, List.singleton_append]
      exact leap_slash hpattern t
    have hliteral : Passes '(' ')' 0 true ('/' :: (pattern ++ ['/'] ++ tail)) :=
      .over htaken (htail.passes closerOf?_paren 0 false (by simp))
    rw [List.append_assoc, List.singleton_append] at hliteral
    exact passes_blanks hblanks hliteral

theorem passes_comma {s : List Char} (hs : Passes '(' ')' 0 true s) (argStart : Bool) :
    Passes '(' ')' 0 argStart (',' :: s) := by
  refine .step (fun t => ?_) (by decide) (by decide) hs
  exact leap_of_ne t (by decide) (by decide) (.inl (by decide))

theorem MatchList.passes {list : List Char} (h : MatchList list) : Passes '(' ')' 0 true list := by
  have hout {output : List Char} (houtput : Nested true false output) : Passes '(' ')' 0 true output :=
    houtput.passes closerOf?_paren 0 true fun _ => rfl
  induction h with
  | test hs => exact hs.passes
  | pair hs houtput => exact hs.passes.append (passes_comma (hout houtput))
  | more hs houtput _ ih =>
    refine hs.passes.append (passes_comma ?_)
    exact (hout houtput).append (passes_comma ih)

theorem MatchList.closing {list : List Char} (h : MatchList list) (t : List Char) :
    closing '(' ')' 0 true (list ++ ')' :: t) = some (list, t) := by
  obtain ⟨argStart, hpasses⟩ := h.passes (')' :: t)
  rw [hpasses, ← closingParen, closingParen_end]
  simp

theorem afterPairs?_eq (s : List Char) :
    afterPairs? s = match trimStart s with
      | [] => none
      | c :: tail =>
        if c = ')' then some tail
        else match afterTest? (c :: tail) with
          | none | some [] => none
          | some (d :: rest) =>
            if d = ')' then some rest
            else if d = ',' then match afterOutput rest with
              | [] => none
              | e :: rest' => if e = ')' then some rest' else afterPairs? rest'
            else afterPairs? (afterOutput (outputSpan d rest).2) := by
  rw [afterPairs?]
  split
  · next hs => rw [hs]
  · next c tail hs =>
    rw [hs]
    dsimp only
    congr 1
    split
    · next ht => rw [ht]
    · next ht => rw [ht]
    · next d rest ht =>
      rw [ht]
      dsimp only
      congr 2
      split
      · next ho => rw [ho]
      · next ho => rw [ho]

theorem trimStart_separator {e : Char} (he : e = ',' ∨ e = ')') (t : List Char) :
    trimStart (e :: t) = e :: t := by
  rcases he with rfl | rfl <;> exact trimStart_of_head (by simp [isBlank])

theorem afterTest?_comma (t : List Char) : afterTest? (',' :: t) = some (',' :: t) := by
  have hout : afterOutput (',' :: t) = ',' :: t := by rw [afterOutput, if_pos (.inl rfl)]
  have htest : afterTest? (',' :: t) = some (trimStart (afterOutput (',' :: t))) := rfl
  rw [htest, hout, trimStart_separator (.inl rfl)]

section Pairs

variable {s tail rest : List Char} {c d : Char} (hs : trimStart s = c :: tail) (hc : c ≠ ')')
  (htest : afterTest? (c :: tail) = some (d :: rest))
include hs hc htest

theorem afterPairs?_of_afterTest? (hd : d = ',' ∨ d = ')') : afterPairs? s = afterPairs? (d :: rest) := by
  rw [afterPairs?_eq s, hs, afterPairs?_eq (d :: rest), trimStart_separator hd]
  dsimp only
  rw [if_neg hc, htest]
  dsimp only
  rcases hd with rfl | rfl
  · rw [afterTest?_comma]
    rfl
  · rfl

theorem afterPairs?_of_loose (hd : d ≠ ',' ∧ d ≠ ')') :
    afterPairs? s = afterPairs? (afterOutput (d :: rest)) := by
  rw [afterPairs?_eq s, hs, afterOutput, if_neg (not_or.mpr hd)]
  dsimp only
  rw [if_neg hc, htest]
  dsimp only
  rw [if_neg hd.2, if_neg hd.1]

end Pairs

theorem isPlain_of_cursorFlag {c : Char} (h : Cursor.isFlag c = true) : isPlain c = true :=
  decide_eq_true (not_mem_of_class h (by decide))

theorem afterTest?_literal {pattern : List Char} (hpattern : Guarded '/' pattern) (tail : List Char)
    {e : Char} (he : e = ',' ∨ e = ')') (t : List Char) :
    afterTest? ('/' :: (pattern ++ '/' :: (tail ++ e :: t))) =
      some (trimStart (tail.dropWhile Cursor.isFlag) ++ e :: t) := by
  have hblank : isBlank e = false := by rcases he with rfl | rfl <;> decide
  have hflag : Cursor.isFlag e = false := by rcases he with rfl | rfl <;> decide
  have hthrough := hpattern.through? (tail ++ e :: t)
  rw [afterTest?, hthrough, Option.map_some]
  dsimp only
  rw [dropWhile_append_cons_of_neg hflag, trimStart_append_of_not_blank hblank]

section Separators

variable {e : Char} (he : e = ',' ∨ e = ')') (t : List Char)
include he

theorem afterPairs?_text {s : List Char} (hs : Nested true false s) :
    afterPairs? (s ++ e :: t) = afterPairs? (e :: t) := by
  have hblank : isBlank e = false := by rcases he with rfl | rfl <;> decide
  have hstart : Nested true false (trimStart s) :=
    hs.dropWhile fun c hc => ⟨isPlain_of_isBlank hc, fun _ => hc⟩
  have htrim := trimStart_append_of_not_blank hblank s t
  have hout := hstart.afterOutput rfl he t
  cases hcase : trimStart s with
  | nil =>
    rw [hcase, List.nil_append] at htrim
    rw [afterPairs?_eq, htrim, afterPairs?_eq (e :: t), trimStart_separator he]
  | cons d v =>
    rw [hcase] at hstart htrim hout
    have htest : afterTest? (d :: v ++ e :: t) = some (e :: t) := by
      unfold afterTest?
      split
      · next heq => exact absurd (List.cons.inj heq).1 (hstart.head.2.2 rfl)
      · rw [hout, trimStart_separator he]
    exact afterPairs?_of_afterTest? htrim hstart.head.1 htest he

theorem afterPairs?_literal {blanks pattern tail : List Char}
    (hblanks : ∀ c ∈ blanks, isAsciiBlank c = true) (hpattern : Guarded '/' pattern)
    (htail : Nested false false tail) :
    afterPairs? (blanks ++ '/' :: (pattern ++ '/' :: tail) ++ e :: t) = afterPairs? (e :: t) := by
  have htrim : trimStart (blanks ++ '/' :: (pattern ++ '/' :: tail) ++ e :: t) =
      '/' :: (pattern ++ '/' :: (tail ++ e :: t)) := by
    rw [trimStart, List.append_assoc,
      List.dropWhile_append_of_pos fun c hc => isBlank_of_isAsciiBlank (hblanks c hc)]
    simp [isBlank]
  have htest := afterTest?_literal hpattern tail he t
  have hloose : Nested false false (trimStart (tail.dropWhile Cursor.isFlag)) := by
    have hflags := htail.dropWhile fun c hc => ⟨isPlain_of_cursorFlag hc, fun h => Bool.noConfusion h⟩
    exact hflags.dropWhile fun c hc => ⟨isPlain_of_isBlank hc, fun h => Bool.noConfusion h⟩
  -- text that is loose behind the flags begins one more round of the walk, which only passes it
  cases hcase : trimStart (tail.dropWhile Cursor.isFlag) with
  | nil =>
    rw [hcase] at htest
    exact afterPairs?_of_afterTest? htrim (by decide) htest he
  | cons d v =>
    rw [hcase] at htest hloose
    have hhead := hloose.head
    rw [afterPairs?_of_loose htrim (by decide) htest ⟨hhead.2.1 rfl, hhead.1⟩]
    exact congrArg afterPairs? (hloose.afterOutput rfl he t)

/-- A test is passed up to the comma or the parenthesis behind it. -/
theorem IsTest.afterPairs?_append {s : List Char} (h : IsTest s) :
    afterPairs? (s ++ e :: t) = afterPairs? (e :: t) := by
  cases h with
  | text hs => exact afterPairs?_text he t hs
  | literal hblanks hpattern htail => exact afterPairs?_literal he t hblanks hpattern htail

theorem afterPairs?_output {output : List Char} (h : Nested true false output) :
    afterPairs? (',' :: (output ++ e :: t)) = if e = ')' then some t else afterPairs? t := by
  rw [afterPairs?_eq, trimStart_separator (.inl rfl)]
  dsimp only
  rw [if_neg (by decide), afterTest?_comma]
  dsimp only
  rw [if_neg (by decide), if_pos rfl, h.afterOutput rfl he t]

end Separators

theorem MatchList.afterPairs?_closed {list : List Char} (h : MatchList list) (t : List Char) :
    afterPairs? (list ++ ')' :: t) = some t := by
  induction h with
  | test hs =>
    rw [hs.afterPairs?_append (.inr rfl), afterPairs?_eq, trimStart_separator (.inr rfl)]
    rfl
  | pair hs houtput =>
    rw [List.append_assoc, List.cons_append, hs.afterPairs?_append (.inl rfl),
      afterPairs?_output (.inr rfl) t houtput, if_pos rfl]
  | more hs houtput _ ih =>
    rw [List.append_assoc, List.cons_append, hs.afterPairs?_append (.inl rfl), List.append_assoc,
      List.cons_append, afterPairs?_output (.inl rfl) _ houtput, if_neg (by decide), ih]

theorem Grammar.Test.isTest (test : Test) : IsTest test.print :=
  @IsTest.literal [] _ _ (List.forall_mem_nil _) test.pattern.guarded test.flags.nested

theorem matchList_branches {branches : List Branch} (h : branches ≠ []) :
    MatchList (commas (branches.map Branch.print)) := by
  induction branches with
  | nil => exact absurd rfl h
  | cons b branches ih =>
    have houtput := b.output.nested true false
    cases branches with
    | nil =>
      rw [List.map_singleton, commas_singleton]
      exact .pair b.test.isTest houtput
    | cons b' branches =>
      rw [List.map_cons, List.map_cons, commas_cons_cons, Branch.print, List.append_assoc, List.cons_append]
      exact .more b.test.isTest houtput (ih (by simp))

theorem afterPairs?_print {branches : List Branch} (h : branches ≠ []) (t : List Char) :
    afterPairs? (commas (branches.map Branch.print) ++ ')' :: t) = some t :=
  (matchList_branches h).afterPairs?_closed t

/-- Plain arguments are tests and outputs in turn. -/
theorem matchList_plain : ∀ ps : List Plain, MatchList (commas (ps.map Plain.chars))
  | [] => .test (.text .nil)
  | [p] => by
    rw [List.map_singleton, commas_singleton]
    exact .test (.text (p.nested true false))
  | [p, q] => by
    rw [List.map_cons, List.map_singleton, commas_cons_cons, commas_singleton]
    exact .pair (.text (p.nested true false)) (q.nested true false)
  | p :: q :: p' :: ps => by
    have hrest := matchList_plain (p' :: ps)
    rw [List.map_cons, List.map_cons, List.map_cons, commas_cons_cons, commas_cons_cons, ← List.map_cons]
    exact .more (.text (p.nested true false)) (q.nested true false) hrest

theorem afterPairs?_plain (t : List Char) (ps : List Plain) :
    afterPairs? (commas (ps.map Plain.chars) ++ ')' :: t) = some t :=
  (matchList_plain ps).afterPairs?_closed t

end Stencil.Tag
