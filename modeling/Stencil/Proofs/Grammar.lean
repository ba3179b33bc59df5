import Stencil.Pattern.Directive
import Stencil.Proofs.Bracket
import Stencil.Proofs.Trimming
import Stencil.Tag.Chain

/-!
# Written filters

A grammar of filter texts with its printer. The parts of a filter carry what makes them readable again, so
that every written filter is well formed.
-/
namespace Stencil.Tag.Grammar

open Stencil.Text

structure Name where
  chars : List Char
  nonempty : chars ≠ []
  valid : ∀ c ∈ chars, isNameChar c = true

/-- A text of plain characters that does not begin like a literal. -/
structure Plain where
  chars : List Char
  plain : ∀ c ∈ chars, isPlain c = true
  start : (trimStart chars).head? ≠ some '/'

structure Quoted where
  chars : List Char
  valid : ∀ c ∈ chars, c ≠ '\\' ∧ c ≠ '"'

structure Body where
  chars : List Char
  guarded : Guarded '/' chars

structure Flags where
  chars : List Char
  valid : ∀ c ∈ chars, Pattern.Directive.isFlag c = true

def Flags.none : Flags := ⟨[], List.forall_mem_nil _⟩

inductive Argument where
  | quoted (q : Quoted)
  | plain (p : Plain)

structure Test where
  pattern : Body
  flags : Flags

structure Branch where
  test : Test
  output : Plain

/-- A filter as it is written. A call whose name begins like `onmatch` is read as one and has a constructor
of its own. -/
inductive Filter where
  | bare (name : Name)
  | call (name : Name) (other : ¬"onmatch".toList <+: name.chars) (arguments : List Argument)
  | substitution (letter : Bool) (pattern replacement : Body) (flags : Flags)
  | onMatch (branches : List Branch) (nonempty : branches ≠ []) (fallback : Option Plain)

def commas (items : List (List Char)) : List Char := [','].intercalate items

def Argument.print : Argument → List Char
  | quoted q => '"' :: q.chars ++ ['"']
  | plain p => p.chars

def Test.print (t : Test) : List Char := '/' :: t.pattern.chars ++ '/' :: t.flags.chars

def Branch.print (b : Branch) : List Char := b.test.print ++ ',' :: b.output.chars

def printFallback : Option Plain → List Char
  | none => []
  | some p => "nomatch(".toList ++ p.chars ++ [')']

def Filter.print : Filter → List Char
  | bare name => name.chars
  | call name _ arguments => name.chars ++ '(' :: commas (arguments.map Argument.print) ++ [')']
  | substitution letter pattern replacement flags =>
    (if letter then ['s'] else []) ++
      '/' :: pattern.chars ++ '/' :: replacement.chars ++ '/' :: flags.chars
  | onMatch branches _ fallback =>
    "onmatch(".toList ++ commas (branches.map Branch.print) ++ ')' :: printFallback fallback

def Filter.text (w : Filter) : String := String.ofList w.print

def chainText (ws : List Filter) : String := "|".intercalate (ws.map Filter.text)

@[simp] theorem commas_nil : commas [] = [] := rfl

@[simp] theorem commas_singleton (s : List Char) : commas [s] = s := by
  simp [commas]

theorem commas_cons_cons (s t : List Char) (rest : List (List Char)) :
    commas (s :: t :: rest) = s ++ ',' :: commas (t :: rest) := by
  simp [commas, List.intercalate_cons_cons]

theorem printFallback_none : printFallback none = [] := rfl

theorem printFallback_some (p : Plain) :
    printFallback (some p) = "nomatch(".toList ++ p.chars ++ [')'] := rfl

theorem print_bare (name : Name) : (Filter.bare name).print = name.chars := rfl

theorem print_call (name : Name) (other : ¬"onmatch".toList <+: name.chars)
    (arguments : List Argument) :
    (Filter.call name other arguments).print =
      name.chars ++ '(' :: (commas (arguments.map Argument.print) ++ [')']) := by
  unfold Filter.print
  dsimp only
  rw [List.append_assoc, List.cons_append]

theorem print_substitution (letter : Bool) (pattern replacement : Body) (flags : Flags) :
    (Filter.substitution letter pattern replacement flags).print =
      (if letter then ['s'] else []) ++
        '/' :: (pattern.chars ++ '/' :: replacement.chars ++ '/' :: flags.chars) := by
  unfold Filter.print
  dsimp only
  simp only [List.append_assoc, List.cons_append]

theorem print_onMatch (branches : List Branch) (nonempty : branches ≠ [])
    (fallback : Option Plain) :
    (Filter.onMatch branches nonempty fallback).print =
      "onmatch".toList ++ '(' :: (commas (branches.map Branch.print) ++
        ')' :: printFallback fallback) := by
  have h : "onmatch(".toList = "onmatch".toList ++ ['('] := by decide
  unfold Filter.print
  dsimp only
  rw [h, List.append_assoc, List.append_assoc, List.singleton_append]

@[simp] theorem toList_text (w : Filter) : w.text.toList = w.print := by
  simp [Filter.text]

@[simp] theorem chainText_nil : chainText [] = "" := rfl

@[simp] theorem chainText_singleton (w : Filter) : chainText [w] = w.text := by
  simp [chainText]

theorem chainText_cons {ws : List Filter} (w : Filter) (h : ws ≠ []) :
    chainText (w :: ws) = w.text ++ "|" ++ chainText ws := by
  rw [chainText, List.map_cons, String.intercalate_cons_of_ne_nil (by simpa using h)]
  rfl

theorem range_of_isAlphanum {c : Char} (h : c.isAlphanum = true) : 48 ≤ c.toNat ∧ c.toNat ≤ 122 := by
  delta Char.isAlphanum Char.isAlpha Char.isUpper Char.isLower Char.isDigit at h
  simp only [Bool.or_eq_true, Bool.and_eq_true, decide_eq_true_eq, UInt32.le_iff_toNat_le] at h
  simp only [Char.toNat]
  simp at h ⊢
  omega

theorem toNat_lt_of_isNameChar {c : Char} (h : isNameChar c = true) : c.toNat < 128 := by
  have hc : c.isAlphanum = true ∨ c = '_' ∨ c = '.' ∨ c = '-' := by
    simpa [isNameChar, or_assoc] using h
  rcases hc with hc | rfl | rfl | rfl
  · have hrange := range_of_isAlphanum hc
    omega
  all_goals decide

theorem isBlank_of_isNameChar {c : Char} (h : isNameChar c = true) : isBlank c = false := by
  have hc : c.isAlphanum = true ∨ c = '_' ∨ c = '.' ∨ c = '-' := by
    simpa [isNameChar, or_assoc] using h
  rcases hc with hc | rfl | rfl | rfl
  · have hrange := range_of_isAlphanum hc
    simp only [isBlank, Bool.or_eq_false_iff, Bool.and_eq_false_iff, decide_eq_false_iff_not,
      beq_eq_false_iff_ne]
    omega
  all_goals decide

theorem isPlain_of_isFlag {c : Char} (h : Pattern.Directive.isFlag c = true) : isPlain c = true := by
  simp only [Pattern.Directive.isFlag, Bool.or_eq_true, beq_iff_eq] at h
  rcases h with ((rfl | rfl) | rfl) | rfl <;> decide

theorem isBlank_of_isFlag {c : Char} (h : Pattern.Directive.isFlag c = true) : isBlank c = false := by
  simp only [Pattern.Directive.isFlag, Bool.or_eq_true, beq_iff_eq] at h
  rcases h with ((rfl | rfl) | rfl) | rfl <;> decide

/-- The flags of a directive are among the letters that the reader of tags passes over. -/
theorem isFlag_of_isFlag {c : Char} (h : Pattern.Directive.isFlag c = true) :
    Cursor.isFlag c = true := by
  simp only [Pattern.Directive.isFlag, Bool.or_eq_true, beq_iff_eq] at h
  rcases h with ((rfl | rfl) | rfl) | rfl <;> decide

theorem Quoted.guarded (q : Quoted) : Guarded '"' q.chars :=
  guarded_of_not_mem (fun h => (q.valid _ h).2 rfl) (fun h => (q.valid _ h).1 rfl)

theorem Flags.isPlain (f : Flags) : ∀ c ∈ f.chars, isPlain c = true :=
  fun c hc => isPlain_of_isFlag (f.valid c hc)

theorem Flags.dropWhile_append (f : Flags) {t : List Char}
    (ht : ∀ c ∈ t.head?, Cursor.isFlag c = false) : (f.chars ++ t).dropWhile Cursor.isFlag = t :=
  dropWhile_append_stop (fun c hc => isFlag_of_isFlag (f.valid c hc)) ht

end Stencil.Tag.Grammar
