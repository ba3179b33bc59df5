import Stencil.Proofs.Rewriting

/-!
# Marks around matches

A substitution that changes the case of its matches puts marks around them and then looks for the marks in the
whole result: first for the marks of upper case, then, in what came out of that, for those of lower case. Marks
that stand around the matches of a text without marks are found as they were put; what is left to chance is whether
marks of the other case have come about.
-/
namespace Stencil.Text

variable {gap : List Char}

/-- A text whose first character occurs once in it is found where it stands behind a text without it. -/
theorem breakAt?_append {a : Char} {w : List Char} (ha : a ∉ w) (hgap : ¬a :: w <:+: gap) (s : List Char) :
    breakAt? (a :: w) (gap ++ (a :: w ++ s)) = some (gap, s) := by
  induction gap with
  | nil =>
    rw [List.nil_append, List.cons_append, breakAt?, dropStart?_eq_some.mpr List.cons_append.symm]
  | cons c gap ih =>
    have hstart : ¬a :: w <+: c :: (gap ++ (a :: w ++ s)) := by
      rintro ⟨after, hafter⟩
      rw [← List.cons_append] at hafter
      rcases List.append_eq_append_iff.mp hafter with ⟨x, hx, -⟩ | ⟨x, hx, hs⟩
      · exact hgap ⟨[], x, hx.symm⟩
      · cases x with
        | nil => exact hgap ⟨[], [], by simpa using hx⟩
        | cons d x =>
          -- the first character would come again behind the end of the gap
          obtain rfl : a = d := (List.cons.inj hs).1
          obtain ⟨-, rfl⟩ := List.cons.inj hx
          exact ha (by simp)
    have hrest : ¬a :: w <:+: gap := fun h => hgap (List.infix_cons h)
    rw [List.cons_append, breakAt?, dropStart?_eq_none.mpr hstart]
    dsimp only
    rw [ih hrest]
    rfl

end Stencil.Text

namespace Stencil.Pattern.Replacement

open Stencil.Text

/-- A text in which a closing mark comes somewhere behind an opening one. -/
def HasPair (opening closing s : List Char) : Prop :=
  ∃ before inside rest, s = before ++ (opening ++ (inside ++ (closing ++ rest)))

theorem HasPair.opens {opening closing s : List Char} (h : HasPair opening closing s) : opening <:+: s := by
  obtain ⟨before, inside, rest, rfl⟩ := h
  exact List.infix_append' before opening _

theorem HasPair.closes {opening closing s : List Char} (h : HasPair opening closing s) : closing <:+: s := by
  obtain ⟨before, inside, rest, rfl⟩ := h
  refine ⟨before ++ (opening ++ inside), rest, ?_⟩
  simp only [List.append_assoc]

section marks

variable {opening closing : List Char} {change : List Char → List Char} {fuel : ℕ} {s t : List Char}

/-- Without a pair of marks nothing changes. -/
theorem changeMarked_of_not_hasPair (hn : closing ≠ []) (h : ¬HasPair opening closing s) :
    changeMarked opening closing change fuel s = s := by
  cases fuel with
  | zero => rfl
  | succ fuel =>
    rw [changeMarked]
    cases hopening : breakAt? opening s with
    | none => rfl
    | some pair =>
      obtain ⟨before, after⟩ := pair
      have hclosing : breakAt? closing after = none := by
        refine (breakAt?_eq_none hn).mpr ?_
        rintro ⟨inside, rest, rfl⟩
        refine h ⟨before, inside, rest, ?_⟩
        rw [eq_of_breakAt? hopening]
        simp only [List.append_assoc]
      dsimp only
      rw [hclosing]

theorem changeMarked_of_no_opening (ho : opening ≠ []) (h : ¬opening <:+: s) :
    changeMarked opening closing change fuel s = s := by
  cases fuel with
  | zero => rfl
  | succ fuel => rw [changeMarked, (breakAt?_eq_none ho).mpr h]

/-- A pair of marks of which each begins with a character that does not come again in it. -/
structure Plain (opening closing : List Char) : Prop where
  opens : ∃ a w, opening = a :: w ∧ a ∉ w
  closes : ∃ a w, closing = a :: w ∧ a ∉ w

theorem changeMarked_append (h : Plain opening closing) (change : List Char → List Char) (fuel : ℕ)
    {gap inside : List Char} (hgap : ¬opening <:+: gap) (hinside : ¬closing <:+: inside) (rest : List Char) :
    changeMarked opening closing change (fuel + 1) (gap ++ (opening ++ (inside ++ (closing ++ rest)))) =
      gap ++ (change inside ++ changeMarked opening closing change fuel rest) := by
  obtain ⟨⟨a, w, rfl, ha⟩, ⟨b, v, rfl, hb⟩⟩ := h
  rw [changeMarked, breakAt?_append ha hgap]
  dsimp only
  rw [breakAt?_append hb hinside]
  exact List.append_assoc _ _ _

/-- Where marks are put around the matches of a text without such marks, the text of each match is changed and
nothing else. -/
theorem changeMarked_rewritten (h : Plain opening closing) (change : List Char → List Char) {place : ℕ}
    {ms : List Match} (hopening : ¬opening <:+: s) (hclosing : ¬closing <:+: s)
    (ht : Rewritten (fun _ u => opening ++ (u ++ closing)) place ms s t) (hfuel : t.length ≤ fuel) :
    Rewritten (fun _ u => change u) place ms s (changeMarked opening closing change fuel t) := by
  induction ht generalizing fuel with
  | rest place s =>
    obtain ⟨⟨a, w, rfl, -⟩, -⟩ := h
    rw [changeMarked_of_no_opening (List.cons_ne_nil a w) hopening]
    exact .rest place s
  | @next place m rest gap inside s t start stop behind ih =>
    -- a round takes the opening mark away at least, so that the fuel lasts
    have hlength : 0 < opening.length := by
      obtain ⟨⟨a, w, rfl, -⟩, -⟩ := h
      exact Nat.succ_pos _
    simp only [List.length_append] at hfuel
    obtain ⟨fuel, rfl⟩ := Nat.exists_eq_succ_of_ne_zero (show fuel ≠ 0 by omega)
    have hgap : gap <:+: gap ++ (inside ++ s) := (List.prefix_append gap _).isInfix
    have hinside : inside <:+: gap ++ (inside ++ s) := List.infix_append' gap inside s
    have hs : s <:+: gap ++ (inside ++ s) :=
      ((List.suffix_append inside s).trans (List.suffix_append gap _)).isInfix
    have hrest := ih (fun h => hopening (h.trans hs)) (fun h => hclosing (h.trans hs))
      (show t.length ≤ fuel by omega)
    have hround := changeMarked_append h change fuel (fun h => hopening (h.trans hgap))
      (fun h => hclosing (h.trans hinside)) t
    simp only [List.append_assoc] at hround ⊢
    rw [hround]
    exact .next start stop hrest

end marks

/-- The marks around text of which the case is to be changed; `c` tells the case. -/
def openingMark (c : Char) : List Char := ['!', c, '@']

def closingMark (c : Char) : List Char := ['@', c, '!']

theorem plain_marks {c : Char} (hat : c ≠ '@') (hbang : c ≠ '!') : Plain (openingMark c) (closingMark c) where
  opens := ⟨'!', [c, '@'], rfl, by simp [Ne.symm hbang]⟩
  closes := ⟨'@', [c, '!'], rfl, by simp [Ne.symm hat]⟩

def IsUnmarked (s : List Char) : Prop := ∀ c ∈ ['U', 'L'], ¬openingMark c <:+: s ∧ ¬closingMark c <:+: s

instance (s : List Char) : Decidable (IsUnmarked s) :=
  List.decidableBAll (fun c => ¬openingMark c <:+: s ∧ ¬closingMark c <:+: s) ['U', 'L']

theorem closingMark_ne_nil (c : Char) : closingMark c ≠ [] := List.cons_ne_nil _ _

theorem changeCase_eq (s : List Char) :
    changeCase s =
      changeMarked (openingMark 'L') (closingMark 'L') Unicode.lower
        (changeMarked (openingMark 'U') (closingMark 'U') Unicode.upper s.length s).length
        (changeMarked (openingMark 'U') (closingMark 'U') Unicode.upper s.length s) := rfl

/-- Marks of upper case that are put around matches are found. What comes out of the first pass is what the second
one reads. -/
theorem changeCase_upper {place : ℕ} {ms : List Match} {s t : List Char} (hopening : ¬openingMark 'U' <:+: s)
    (hclosing : ¬closingMark 'U' <:+: s)
    (ht : Rewritten (fun _ u => openingMark 'U' ++ (u ++ closingMark 'U')) place ms s t) :
    ∃ out, Rewritten (fun _ u => Unicode.upper u) place ms s out ∧
      (¬HasPair (openingMark 'L') (closingMark 'L') out → changeCase t = out) := by
  have hplain : Plain (openingMark 'U') (closingMark 'U') := plain_marks (by decide) (by decide)
  have hout := changeMarked_rewritten hplain Unicode.upper hopening hclosing ht (Nat.le_refl _)
  refine ⟨_, hout, fun hpair => ?_⟩
  rw [changeCase_eq, changeMarked_of_not_hasPair (closingMark_ne_nil 'L') hpair]

/-- Marks of lower case are found if the text with the marks has no pair of marks of upper case. -/
theorem changeCase_lower {place : ℕ} {ms : List Match} {s t : List Char} (hopening : ¬openingMark 'L' <:+: s)
    (hclosing : ¬closingMark 'L' <:+: s)
    (ht : Rewritten (fun _ u => openingMark 'L' ++ (u ++ closingMark 'L')) place ms s t)
    (hpair : ¬HasPair (openingMark 'U') (closingMark 'U') t) :
    Rewritten (fun _ u => Unicode.lower u) place ms s (changeCase t) := by
  have hplain : Plain (openingMark 'L') (closingMark 'L') := plain_marks (by decide) (by decide)
  rw [changeCase_eq, changeMarked_of_not_hasPair (closingMark_ne_nil 'U') hpair]
  exact changeMarked_rewritten hplain Unicode.lower hopening hclosing ht (Nat.le_refl _)

theorem parts_marked {c : Char} (hc : c = 'U' ∨ c = 'L') :
    parts (toPlain ['\\', c, '$', '\x7b', '0', '\x7d']) =
      (openingMark c).map .char ++ .group ['0'] :: (closingMark c).map .char := by
  rcases hc with rfl | rfl <;> decide +kernel

theorem expand_chars (p : Pattern) (text : List Char) (m : Match) (s : List Char) :
    (s.map Part.char).flatMap (Part.expand p text m) = s := by
  induction s with
  | nil => rfl
  | cons c s ih =>
    rw [List.map_cons, List.flatMap_cons, ih]
    rfl

theorem expand_marked (p : Pattern) (text : List Char) (m : Match) {c : Char} (hc : c = 'U' ∨ c = 'L') :
    expand p text m (parts (toPlain ['\\', c, '$', '\x7b', '0', '\x7d'])) =
      openingMark c ++ (m.groupText text 0 ++ closingMark c) := by
  rw [parts_marked hc, expand, List.flatMap_append, List.flatMap_cons, expand_chars, expand_chars]
  rfl

end Stencil.Pattern.Replacement

namespace Stencil.Pattern.Directive

open Stencil.Text Replacement

variable {d : Directive} {p : Pattern} {input : List Char}

/-- The directive that changes the case of all matches: its replacement is a backslash, the letter of the case and
a reference to the group of the whole match, in braces. -/
def inCase (d : Directive) (c : Char) : Directive :=
  { d with isGlobal := true, replacement := some (String.ofList ['\\', c, '$', '\x7b', '0', '\x7d']) }

/-- A text with marks around its matches is what the case is changed in. -/
theorem substitute_inCase (hp : d.compile = .ok p) (input : List Char) {c : Char} (hc : c = 'U' ∨ c = 'L') :
    ∃ marked, Rewritten (fun _ u => openingMark c ++ (u ++ closingMark c)) 0 (p.all input) input marked ∧
      (d.inCase c).substitute input = .ok (changeCase marked) := by
  have hcompile : (d.inCase c).compile = .ok p := hp
  refine substitute_rewritten hcompile input fun m hm => ?_
  rw [inCase, Option.getD_some, String.toList_ofList, expand_marked p input m hc, hm.groupText_zero]

/-- A directive that puts its matches into upper case does so and leaves the rest of the text as it is, unless the
result holds a pair of marks of lower case; one that puts them into lower case, unless the text with the matches
between its own marks holds a pair of marks of upper case. -/
theorem substitute_changes_case (hp : d.compile = .ok p) (hinput : IsUnmarked input) :
    (∃ out, Rewritten (fun _ u => Unicode.upper u) 0 (p.all input) input out ∧
      (¬HasPair (openingMark 'L') (closingMark 'L') out → (d.inCase 'U').substitute input = .ok out)) ∧
    ∃ marked out, Rewritten (fun _ u => openingMark 'L' ++ (u ++ closingMark 'L')) 0 (p.all input) input marked ∧
      Rewritten (fun _ u => Unicode.lower u) 0 (p.all input) input out ∧
      (¬HasPair (openingMark 'U') (closingMark 'U') marked → (d.inCase 'L').substitute input = .ok out) := by
  obtain ⟨hupper, hupper'⟩ := hinput 'U' (by simp)
  obtain ⟨hlower, hlower'⟩ := hinput 'L' (by simp)
  constructor
  · obtain ⟨marked, hmarked, hsubstitute⟩ := substitute_inCase hp input (.inl rfl)
    obtain ⟨out, hout, hchange⟩ := changeCase_upper hupper hupper' hmarked
    refine ⟨out, hout, fun hpair => ?_⟩
    rw [hsubstitute, hchange hpair]
  · obtain ⟨marked, hmarked, hsubstitute⟩ := substitute_inCase hp input (.inr rfl)
    have hout := (all_ordered (isCompiled_of_compile hp) input).rewritten (f := fun _ u => Unicode.lower u)
      (g := fun m => Unicode.lower (between input m.start m.stop)) fun _ _ => rfl
    refine ⟨marked, _, hmarked, hout, fun hpair => ?_⟩
    rw [hsubstitute, hout.unique (changeCase_lower hlower hlower' hmarked hpair)]

def ofPattern (pattern : String) : Directive := ⟨pattern, none, true, false, false, false⟩

theorem substitute_changes_case_words :
    ∃ p, (ofPattern "No|go").compile = .ok p ∧ IsUnmarked "No go!".toList ∧
      ((ofPattern "No|go").inCase 'U').substitute "No go!".toList = .ok "NO GO!".toList ∧
      ((ofPattern "No|go").inCase 'L').substitute "No go!".toList = .ok "no go!".toList := by
  obtain ⟨p, hp, hall⟩ := exists_compile (ofPattern "No|go") "No go!".toList
    [⟨0, 2, [(1, 2), (0, 0)]⟩, ⟨3, 5, [(1, 5), (0, 3)]⟩] (by decide +kernel)
  have hinput : IsUnmarked "No go!".toList := by decide
  obtain ⟨⟨out, hout, hupper⟩, marked, out', hmarked, hout', hlower⟩ :=
    substitute_changes_case hp hinput
  have hrewritten (f : List Char → List Char) : Rewritten (fun _ u => f u) 0 (p.all "No go!".toList)
      ([] ++ (['N', 'o'] ++ ([' '] ++ (['g', 'o'] ++ ['!']))))
      ([] ++ (f ['N', 'o'] ++ ([' '] ++ (f ['g', 'o'] ++ ['!'])))) := by
    rw [hall]
    exact .next rfl rfl (.next rfl rfl (.rest 5 ['!']))
  obtain rfl := hout.unique (hrewritten Unicode.upper)
  obtain rfl := hout'.unique (hrewritten Unicode.lower)
  obtain rfl := hmarked.unique (hrewritten fun u => openingMark 'L' ++ (u ++ closingMark 'L'))
  refine ⟨p, hp, hinput, hupper fun h => ?_, hlower fun h => ?_⟩
  · exact absurd h.opens (by decide)
  · exact absurd h.opens (by decide)

/-- Marks of lower case come about where the first pass puts a letter between an exclamation mark and an at sign,
and marks of upper case where the text around the matches goes on with a letter and an exclamation mark. -/
theorem substitute_misreads_marks :
    (∃ p, (ofPattern "l").compile = .ok p ∧ IsUnmarked "!l@A@l!".toList ∧
      Rewritten (fun _ u => Unicode.upper u) 0 (p.all "!l@A@l!".toList) "!l@A@l!".toList "!L@A@L!".toList ∧
      ((ofPattern "l").inCase 'U').substitute "!l@A@l!".toList = .ok "a".toList) ∧
    ∃ p, (ofPattern "a").compile = .ok p ∧ IsUnmarked "aU@@Ua".toList ∧
      Rewritten (fun _ u => Unicode.lower u) 0 (p.all "aU@@Ua".toList) "aU@@Ua".toList "aU@@Ua".toList ∧
      ((ofPattern "a").inCase 'L').substitute "aU@@Ua".toList = .ok "a@ll@a".toList := by
  constructor
  · obtain ⟨p, hp, hall⟩ := exists_compile (ofPattern "l") "!l@A@l!".toList
      [⟨1, 2, [(1, 2), (0, 1)]⟩, ⟨5, 6, [(1, 6), (0, 5)]⟩] (by decide +kernel)
    have hout : Rewritten (fun _ u => Unicode.upper u) 0 (p.all "!l@A@l!".toList)
        (['!'] ++ (['l'] ++ (['@', 'A', '@'] ++ (['l'] ++ ['!']))))
        (['!'] ++ (['L'] ++ (['@', 'A', '@'] ++ (['L'] ++ ['!'])))) := by
      rw [hall]
      exact .next rfl rfl (.next rfl rfl (.rest 6 ['!']))
    exact ⟨p, hp, by decide, hout, by decide +kernel⟩
  · obtain ⟨p, hp, hall⟩ := exists_compile (ofPattern "a") "aU@@Ua".toList
      [⟨0, 1, [(1, 1), (0, 0)]⟩, ⟨5, 6, [(1, 6), (0, 5)]⟩] (by decide +kernel)
    have hout : Rewritten (fun _ u => Unicode.lower u) 0 (p.all "aU@@Ua".toList)
        ([] ++ (['a'] ++ (['U', '@', '@', 'U'] ++ (['a'] ++ []))))
        ([] ++ (['a'] ++ (['U', '@', '@', 'U'] ++ (['a'] ++ [])))) := by
      rw [hall]
      exact .next rfl rfl (.next rfl rfl (.rest 6 []))
    exact ⟨p, hp, by decide, hout, by decide +kernel⟩

end Stencil.Pattern.Directive
