import Mathlib.Data.List.Infix
import Stencil.Pattern.Directive
import Stencil.Proofs.MatchPlaces

/-!
# Rewriting at matches

What a text becomes where each match of a list gives way to another text and everything outside the matches stays.
The places of the matches are counted along the text, so that the relation does not depend on the way in which
the parts of a text are cut out.
-/
namespace Stencil.Pattern

/-- `t` is `s` with `f m u` in the place of each match `m` of the list, where `u` is the text of the match. `s` begins
at `place`. -/
inductive Rewritten (f : Match → List Char → List Char) : ℕ → List Match → List Char → List Char → Prop
  | rest (place : ℕ) (s : List Char) : Rewritten f place [] s s
  | next {place : ℕ} {m : Match} {rest : List Match} {gap inside s t : List Char}
    (start : m.start = place + gap.length) (stop : m.stop = m.start + inside.length)
    (behind : Rewritten f m.stop rest s t) :
    Rewritten f place (m :: rest) (gap ++ (inside ++ s)) (gap ++ (f m inside ++ t))

variable {f : Match → List Char → List Char} {place : ℕ} {ms : List Match} {s t t' : List Char}

/-- The places of the matches leave no choice. -/
theorem Rewritten.unique (h : Rewritten f place ms s t) (h' : Rewritten f place ms s t') : t = t' := by
  induction h generalizing t' with
  | rest place s =>
    cases h'
    rfl
  | @next place m rest gap inside s t start stop behind ih =>
    generalize hs : gap ++ (inside ++ s) = s' at h'
    cases h' with
    | @next _ _ _ gap' inside' s' t' start' stop' behind' =>
      have hgap : gap.length = gap'.length := by omega
      obtain ⟨rfl, htail⟩ := List.append_inj hs hgap
      have hinside : inside.length = inside'.length := by omega
      obtain ⟨rfl, rfl⟩ := List.append_inj htail hinside
      rw [ih behind']

theorem length_between {text : List Char} {start stop : ℕ} (hstart : start ≤ stop) (hstop : stop ≤ text.length) :
    start + (between text start stop).length = stop := by
  rw [between, List.length_take, List.length_drop]
  omega

theorem between_append_drop (text : List Char) {start stop : ℕ} (h : start ≤ stop) :
    between text start stop ++ text.drop stop = text.drop start := by
  have hdrop : text.drop stop = (text.drop start).drop (stop - start) := by
    rw [List.drop_drop, Nat.add_sub_cancel' h]
  rw [between, hdrop, List.take_append_drop]

/-- Replacing ordered matches rewrites the text from `place` on. -/
theorem Match.Ordered.rewritten {text : List Char} (h : Ordered text.length place ms) {g : Match → List Char}
    (hg : ∀ m, m.Within 0 text.length → g m = f m (between text m.start m.stop)) :
    Rewritten f place ms (text.drop place) (replaceMatches text g place ms) := by
  induction h with
  | nil place => exact .rest place _
  | @cons place m rest within ordered ih =>
    have hstart : m.start = place + (between text place m.start).length :=
      (length_between within.start_le (Nat.le_trans within.le_stop within.stop_le)).symm
    have hstop : m.stop = m.start + (between text m.start m.stop).length :=
      (length_between within.le_stop within.stop_le).symm
    rw [replaceMatches, hg m (within.mono (Nat.zero_le _)), List.append_assoc,
      ← between_append_drop text within.start_le, ← between_append_drop text within.le_stop]
    exact .next hstart hstop ih

theorem Match.Within.groupText_zero {m : Match} {start stop : ℕ} (h : m.Within start stop) (text : List Char) :
    m.groupText text 0 = between text m.start m.stop := by
  rw [groupText, h.group]

namespace Directive

open Replacement

variable {d : Directive} {p : Pattern}

theorem compile_eq_ok (h : d.compile = .ok p) :
    ∃ n t, Term.parse d.pattern.toList = .ok t ∧ p = ⟨.ofNode n, t.names⟩ := by
  rw [compile] at h
  split at h
  · next p' hp =>
    obtain rfl := Except.ok.inj h
    exact Pattern.compile_eq_ok hp
  · simp at h

theorem isCompiled_of_compile (h : d.compile = .ok p) : p.IsCompiled := by
  obtain ⟨n, t, -, rfl⟩ := compile_eq_ok h
  exact ⟨n, rfl⟩

/-- What a directive does to a text before the case of marked text is changed: it rewrites all matches, or the first
one if it is not global. -/
theorem substitute_rewritten (hp : d.compile = .ok p) (input : List Char) {f : Match → List Char → List Char}
    (hf : ∀ m, m.Within 0 input.length →
      expand p input m (parts (toPlain (d.replacement.getD "").toList)) = f m (between input m.start m.stop)) :
    ∃ out, Rewritten f 0 (if d.isGlobal then p.all input else (p.find? input 0).toList) input out ∧
      d.substitute input = .ok (changeCase out) := by
  have hordered : Match.Ordered input.length 0
      (if d.isGlobal then p.all input else (p.find? input 0).toList) := by
    split
    · exact all_ordered (isCompiled_of_compile hp) input
    · exact find?_ordered (isCompiled_of_compile hp) input
  refine ⟨_, hordered.rewritten hf, ?_⟩
  rw [substitute, hp]
  rfl

/-- A directive that compiles, by the matches that it finds in a text. -/
theorem exists_compile (d : Directive) (input : List Char) (ms : List Match)
    (h : (d.compile.toOption.map fun p => p.all input) = some ms) :
    ∃ p, d.compile = .ok p ∧ p.all input = ms := by
  obtain ⟨p, hp, hall⟩ := Option.map_eq_some_iff.mp h
  cases hd : d.compile with
  | error fault => simp [hd, Except.toOption] at hp
  | ok p' =>
    obtain rfl : p' = p := by simpa [hd, Except.toOption] using hp
    exact ⟨p', rfl, hall⟩

end Directive

end Stencil.Pattern
