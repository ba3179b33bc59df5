import Mathlib.Logic.ExistsUnique
import Stencil.Text.Lines

/-!
# Indentation

A text is cut into lines in one way only, wherever carriage returns and line feeds stand in it. Indentation puts the
pad in front of each line, so that pads without line ends add up.
-/
namespace Stencil.Text

inductive LineEnd : List Char → Prop
  | both : LineEnd ['\r', '\n']
  | carriageReturn : LineEnd ['\r']
  | lineFeed : LineEnd ['\n']

def Unbroken (s : List Char) : Prop := '\r' ∉ s ∧ '\n' ∉ s

/-- Lines as a text is cut into them: each ends with a line end, the last one may lack it but is not empty then, and
no carriage return that ends a line is torn from the line feed behind it. -/
inductive Lined : List (List Char) → Prop
  | nil : Lined []
  | unended {body : List Char} : body ≠ [] → Unbroken body → Lined [body]
  | ended {body ending : List Char} {more : List (List Char)} : Unbroken body → LineEnd ending →
      (ending = ['\r'] → more.flatten.head? ≠ some '\n') → Lined more → Lined ((body ++ ending) :: more)

theorem unbroken_nil : Unbroken [] := by simp [Unbroken]

theorem unbroken_cons {c : Char} {s : List Char} :
    Unbroken (c :: s) ↔ ¬(c = '\r' ∨ c = '\n') ∧ Unbroken s := by
  simp only [Unbroken, List.mem_cons, not_or, eq_comm (a := c)]
  exact and_and_and_comm

theorem unbroken_append {s t : List Char} : Unbroken (s ++ t) ↔ Unbroken s ∧ Unbroken t := by
  simp only [Unbroken, List.mem_append, not_or]
  exact and_and_and_comm

theorem lines_cons_of_unbroken {c : Char} (hc : ¬(c = '\r' ∨ c = '\n')) (s : List Char) :
    lines (c :: s) = (c :: (lines s).headD []) :: (lines s).tail := by
  rw [lines.eq_def]
  split
  · next h => cases h
  · next h => simp_all
  · next d t _ h =>
    obtain ⟨rfl, rfl⟩ := List.cons.inj h
    rw [if_neg hc]
    cases lines s <;> rfl

theorem lines_ending {ending : List Char} (h : LineEnd ending) {s : List Char}
    (hs : ending = ['\r'] → s.head? ≠ some '\n') : lines (ending ++ s) = ending :: lines s := by
  cases h with
  | both => simp [lines]
  | carriageReturn =>
    have hhead := hs rfl
    cases s with
    | nil => simp [lines]
    | cons c s =>
      have hc : c ≠ '\n' := by simpa using hhead
      simp [lines, hc]
  | lineFeed => simp [lines]

theorem lines_body_append {body : List Char} (hbody : Unbroken body) {s line : List Char}
    {more : List (List Char)} (hs : lines s = line :: more) :
    lines (body ++ s) = (body ++ line) :: more := by
  induction body with
  | nil => exact hs
  | cons c body ih =>
    obtain ⟨hc, hrest⟩ := unbroken_cons.mp hbody
    rw [List.cons_append, lines_cons_of_unbroken hc, ih hrest]
    rfl

theorem lines_of_unbroken {body : List Char} (hbody : Unbroken body) (hne : body ≠ []) :
    lines body = [body] := by
  induction body with
  | nil => exact absurd rfl hne
  | cons c body ih =>
    obtain ⟨hc, hrest⟩ := unbroken_cons.mp hbody
    rw [lines_cons_of_unbroken hc]
    cases body with
    | nil => rfl
    | cons d body => rw [ih hrest (by simp)]; rfl

theorem lines_flatten {ls : List (List Char)} (h : Lined ls) : lines ls.flatten = ls := by
  induction h with
  | nil => rfl
  | unended hne hbody =>
    rw [List.flatten_singleton]
    exact lines_of_unbroken hbody hne
  | @ended body ending more hbody hending hhead _ ih =>
    rw [List.flatten_cons, List.append_assoc, lines_body_append hbody (lines_ending hending hhead), ih]

theorem Lined.cons {c : Char} (hc : ¬(c = '\r' ∨ c = '\n')) {line : List Char} {more : List (List Char)}
    (h : Lined (line :: more)) : Lined ((c :: line) :: more) := by
  cases h with
  | unended _ hbody => exact .unended (by simp) (unbroken_cons.mpr ⟨hc, hbody⟩)
  | ended hbody hending hhead hmore =>
    rw [← List.cons_append]
    exact .ended (unbroken_cons.mpr ⟨hc, hbody⟩) hending hhead hmore

theorem lined_lines (s : List Char) : Lined (lines s) := by
  fun_induction lines s with
  | case1 => exact .nil
  | case2 rest ih =>
    have hboth : LineEnd ['\r', '\n'] := .both
    exact .ended unbroken_nil hboth (by simp) ih
  | case3 c rest hpair hc ih =>
    have hending : LineEnd [c] := by
      rcases hc with rfl | rfl
      · exact .carriageReturn
      · exact .lineFeed
    refine .ended unbroken_nil hending (fun hreturn hhead => ?_) ih
    obtain ⟨tail, htail⟩ := List.head?_eq_some_iff.mp hhead
    rw [flatten_lines] at htail
    exact hpair tail (List.cons.inj hreturn).1 htail
  | case4 c rest _ hc hrest ih => exact .unended (by simp) (unbroken_cons.mpr ⟨hc, unbroken_nil⟩)
  | case5 c rest _ hc line more hrest ih => exact (hrest ▸ ih).cons hc

/-- A pad without line ends makes no lines and joins none. -/
theorem Lined.map_append {pad : List Char} (hpad : Unbroken pad) {ls : List (List Char)} (h : Lined ls) :
    Lined (ls.map (pad ++ ·)) := by
  induction h with
  | nil => exact .nil
  | unended hne hbody => exact .unended (by simp [hne]) (unbroken_append.mpr ⟨hpad, hbody⟩)
  | @ended body ending more hbody hending hhead _ ih =>
    rw [List.map_cons, ← List.append_assoc]
    refine .ended (unbroken_append.mpr ⟨hpad, hbody⟩) hending (fun hreturn => ?_) ih
    cases more with
    | nil => simp
    | cons line more =>
      cases pad with
      | nil => simpa using hhead hreturn
      | cons c pad =>
        have hc := (unbroken_cons.mp hpad).1
        simp_all

theorem lines_indent {pad : List Char} (hpad : Unbroken pad) (s : List Char) :
    lines (indent pad s) = (lines s).map (pad ++ ·) := by
  rw [indent, List.flatMap_def]
  exact lines_flatten ((lined_lines s).map_append hpad)

/-- Indents a text in one pass. The flag tells whether a line begins. -/
def indentFrom (pad : List Char) : Bool → List Char → List Char
  | _, [] => []
  | begins, '\r' :: '\n' :: rest =>
    (if begins then pad else []) ++ '\r' :: '\n' :: indentFrom pad true rest
  | begins, c :: rest =>
    (if begins then pad else []) ++ c :: indentFrom pad (c == '\r' || c == '\n') rest

theorem indentFrom_cons {pad : List Char} {begins : Bool} {c : Char} {s : List Char}
    (h : ∀ rest, c = '\r' → s ≠ '\n' :: rest) :
    indentFrom pad begins (c :: s) =
      (if begins then pad else []) ++ c :: indentFrom pad (c == '\r' || c == '\n') s := by
  rw [indentFrom.eq_def]
  split
  · next heq => cases heq
  · next rest heq =>
    obtain ⟨rfl, rfl⟩ := List.cons.inj heq
    exact absurd rfl (h rest rfl)
  · next heq =>
    obtain ⟨rfl, rfl⟩ := List.cons.inj heq
    rfl

theorem indentFrom_true (pad : List Char) {s : List Char} (hs : s ≠ []) :
    indentFrom pad true s = pad ++ indentFrom pad false s := by
  rw [indentFrom.eq_def, indentFrom.eq_def pad false]
  split <;> simp_all

/-- What the pass gives where a line begins, if it is right where none does. -/
theorem indentFrom_true_eq {pad s : List Char}
    (h : indentFrom pad false s = (lines s).headD [] ++ (lines s).tail.flatMap (pad ++ ·)) :
    indentFrom pad true s = indent pad s := by
  by_cases hs : s = []
  · subst hs
    rfl
  · rw [indentFrom_true pad hs, h, indent]
    cases hlines : lines s with
    | nil =>
      have hflatten := flatten_lines s
      rw [hlines] at hflatten
      exact absurd hflatten.symm hs
    | cons line more => simp

/-- Within a line the pass gives the rest of it, and the lines behind it with their pads. -/
theorem indentFrom_false (pad s : List Char) :
    indentFrom pad false s = (lines s).headD [] ++ (lines s).tail.flatMap (pad ++ ·) := by
  fun_induction lines s with
  | case1 => rfl
  | case2 rest ih =>
    rw [indentFrom, indentFrom_true_eq ih, indent]
    rfl
  | case3 c rest hpair hc ih =>
    have hbegins : (c == '\r' || c == '\n') = true := by simpa using hc
    rw [indentFrom_cons hpair, hbegins, indentFrom_true_eq ih, indent]
    rfl
  | case4 c rest hpair hc hrest ih =>
    have hwithin : (c == '\r' || c == '\n') = false := by simpa using hc
    rw [indentFrom_cons hpair, hwithin, ih, hrest]
    rfl
  | case5 c rest hpair hc line more hrest ih =>
    have hwithin : (c == '\r' || c == '\n') = false := by simpa using hc
    rw [indentFrom_cons hpair, hwithin, ih, hrest]
    rfl

theorem indent_eq_indentFrom (pad s : List Char) : indent pad s = indentFrom pad true s :=
  (indentFrom_true_eq (indentFrom_false pad s)).symm

/-- A text is cut into lines in one way, and its indentation is these lines with the pad in front of each; one pass
that looks one character ahead gives the same. Two indentations are one with both pads, if the inner pad has no line
ends. -/
theorem indent_linewise (pad s : List Char) :
    (∃! ls, Lined ls ∧ ls.flatten = s) ∧
    (∀ ls, Lined ls → ls.flatten = s → indent pad s = (ls.map (pad ++ ·)).flatten) ∧
    indent pad s = indentFrom pad true s ∧
    (Unbroken pad → ∀ outer, indent outer (indent pad s) = indent (outer ++ pad) s) := by
  refine ⟨⟨lines s, ⟨lined_lines s, flatten_lines s⟩, ?_⟩, ?_, indent_eq_indentFrom pad s, ?_⟩
  · rintro ls ⟨hls, rfl⟩
    exact (lines_flatten hls).symm
  · rintro ls hls rfl
    rw [indent, lines_flatten hls, List.flatMap_def]
  · intro hpad outer
    rw [indent, lines_indent hpad, List.flatMap_map, indent]
    simp only [List.append_assoc]

/-- Carriage returns and line feeds in every order, and an empty line between them. -/
theorem indent_linewise_mixed :
    Unbroken ['>'] ∧ Lined ["a\r".toList, "\r\n".toList, "b\n".toList, "\r".toList] ∧
    indent ['>'] "a\r\r\nb\n\r".toList = ">a\r>\r\n>b\n>\r".toList ∧
    indent "\n ".toList (indent ['>'] "a\r\r\nb\n\r".toList) = indent "\n >".toList "a\r\r\nb\n\r".toList := by
  have hpad : Unbroken ['>'] := by simp [Unbroken]
  have hlines : lines "a\r\r\nb\n\r".toList = ["a\r".toList, "\r\n".toList, "b\n".toList, "\r".toList] := by
    decide
  have hlined := lined_lines "a\r\r\nb\n\r".toList
  rw [hlines] at hlined
  obtain ⟨-, hcut, -, htwice⟩ := indent_linewise ['>'] "a\r\r\nb\n\r".toList
  exact ⟨hpad, hlined, hcut _ hlined rfl, htwice hpad "\n ".toList⟩

end Stencil.Text
