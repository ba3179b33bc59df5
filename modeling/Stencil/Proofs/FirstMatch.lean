import Stencil.Proofs.Arguments
import Stencil.Proofs.Composition

/-!
# The first test that matches

An `onmatch` chooses the output of the first branch whose test finds a match, or its fallback. Tests and
outputs keep their places as long as the list of arguments has room for all of them, which is the case for
seven branches at most. Of more branches the first seven keep theirs.
-/
namespace Stencil

open Stencil.Text Stencil.Tag Stencil.Tag.Grammar

def Tag.Grammar.Test.directive (t : Test) : Pattern.Directive :=
  .withFlags t.pattern.chars none t.flags.chars

def Tag.Grammar.Test.Compiles (t : Test) : Prop := ∃ p, t.directive.compile = .ok p

def Tag.Grammar.Test.finds (t : Test) (s : List Char) : Bool :=
  match t.directive.compile with
  | .ok p => p.isMatch s
  | .error _ => false

theorem Tag.Grammar.Test.finds_of_compile {t : Test} {p : Pattern} (h : t.directive.compile = .ok p)
    (s : List Char) : t.finds s = p.isMatch s := by
  rw [finds, h]

theorem patternOf_print (t : Test) :
    Filter.patternOf (String.ofList t.print) = t.directive.compile := by
  have hcut := t.pattern.guarded.cut t.flags.chars
  have hparse : Pattern.Directive.parseMatch (String.ofList t.print) = .ok t.directive := by
    rw [Pattern.Directive.parseMatch, String.toList_ofList, t.trim_print, Test.print,
      List.cons_append]
    split
    · next rest h =>
      obtain ⟨-, rfl⟩ := List.cons.inj h
      rw [hcut]
      rfl
    · next h => exact absurd rfl (h _)
  rw [Filter.patternOf, hparse]
  rfl

theorem ne_fallbackMark {s : List Char} (h : s.head? = some '/') : String.ofList s ≠ fallbackMark := by
  intro hs
  have hchars := congrArg String.toList hs
  rw [String.toList_ofList] at hchars
  rw [hchars] at h
  exact absurd h (by decide)

open Stencil.Filter (firstMatch)

variable (subject : Option (List Char))

theorem firstMatch_fallback (f : String) :
    firstMatch subject [fallbackMark, f] = pure (referenced f) := by
  unfold firstMatch
  dsimp only
  rw [if_pos rfl]
  rfl

theorem firstMatch_branch {b : Branch} (hb : b.test.Compiles) (rest : List String) :
    firstMatch subject (String.ofList b.test.print :: String.ofList b.output.chars :: rest) =
      if subject.any b.test.finds then pure (referenced (String.ofList b.output.chars))
      else firstMatch subject rest := by
  obtain ⟨p, hp⟩ := hb
  rw [firstMatch.eq_def]
  dsimp only
  rw [if_neg (ne_fallbackMark rfl)]
  cases subject with
  | none => rfl
  | some s =>
    dsimp only
    rw [patternOf_print, hp]
    dsimp only
    rw [Option.any_some, Test.finds_of_compile hp]
    rfl

def chosenBranch (branches : List Branch) (subject : Option (List Char)) : Option Branch :=
  subject.bind fun s => branches.find? fun b => b.test.finds s

theorem firstMatch_branches {branches : List Branch} (h : ∀ b ∈ branches, b.test.Compiles)
    (rest : List String) :
    firstMatch subject ((branchItems branches).map String.ofList ++ rest) =
      match chosenBranch branches subject with
      | some b => pure (referenced (String.ofList b.output.chars))
      | none => firstMatch subject rest := by
  induction branches with
  | nil => cases subject <;> rfl
  | cons b branches ih =>
    have hwalk := firstMatch_branch subject (h b (by simp))
      ((branchItems branches).map String.ofList ++ rest)
    rw [branchItems_cons, List.map_cons, List.map_cons, List.cons_append, List.cons_append, hwalk]
    cases hfound : subject.any b.test.finds with
    | true =>
      have hchosen : chosenBranch (b :: branches) subject = some b := by
        cases subject with
        | none => simp at hfound
        | some s => simpa [chosenBranch] using .inl hfound
      rw [if_pos rfl, hchosen]
    | false =>
      have hchosen : chosenBranch (b :: branches) subject = chosenBranch branches subject := by
        cases subject with
        | none => rfl
        | some s =>
          have hs : b.test.finds s = false := hfound
          simp [chosenBranch, hs]
      rw [if_neg (by simp), ih fun b' hb' => h b' (by simp [hb']), hchosen]

/-- The text that is chosen: the output of the chosen branch, or the fallback. -/
def chosenText (branches : List Branch) (fallback : Plain) (subject : Option (List Char)) : String :=
  String.ofList (((chosenBranch branches subject).map fun b => b.output.chars).getD fallback.chars)

theorem splitBare_branches {branches : List Branch} (h : branches ≠ []) :
    splitBare (commas (branchItems branches)) =
      if branches.length ≤ 7 then (branchItems branches).map String.ofList
      else (branchItems (branches.take 7)).map String.ofList ++
        [bareArgument (commas (branchItems (branches.drop 7)))] := by
  have htake : ∀ s ∈ (branchItems branches).take (maxArguments - 1), Separable s :=
    fun s hs => separable_branchItems branches s (List.mem_of_mem_take hs)
  rw [splitBare_commas (fun s hs => (separable_branchItems branches s hs).delimited) (branchItems_ne_nil h),
    map_bareArgument (separable_branchItems branches), map_bareArgument htake, length_branchItems]
  by_cases hlen : branches.length ≤ 7
  · have hroom : 2 * branches.length ≤ maxArguments := by
      rw [maxArguments]
      omega
    rw [if_pos hlen, if_pos hroom]
  · have hroom : ¬2 * branches.length ≤ maxArguments := by
      rw [maxArguments]
      omega
    have hitems : branchItems branches =
        branchItems (branches.take 7) ++ branchItems (branches.drop 7) := by
      rw [← branchItems_append, List.take_append_drop]
    have hfirst : (branchItems (branches.take 7)).length = maxArguments - 1 := by
      rw [length_branchItems, List.length_take, maxArguments]
      omega
    rw [if_neg hlen, if_neg hroom, hitems, ← hfirst, List.take_left, List.drop_left]

/-- With room for all arguments the first branch that matches is chosen, or the fallback. -/
theorem firstMatch_of_length_le {branches : List Branch} (hne : branches ≠ [])
    (hlen : branches.length ≤ 7) (h : ∀ b ∈ branches, b.test.Compiles) (fallback : Plain) :
    firstMatch subject (splitBare (commas (branchItems branches)) ++
      [fallbackMark, String.ofList fallback.chars]) =
        pure (referenced (chosenText branches fallback subject)) := by
  rw [splitBare_branches hne, if_pos hlen, firstMatch_branches subject h, firstMatch_fallback,
    chosenText]
  cases chosenBranch branches subject <;> rfl

def argumentFinds (test : String) (s : List Char) : Bool :=
  match Filter.patternOf test with
  | .ok p => p.isMatch s
  | .error _ => false

theorem outcome_firstMatch_cons {test : String} (h : test ≠ fallbackMark) (rest : List String) :
    (firstMatch subject (test :: rest)).outcome =
      if subject.any (argumentFinds test) then .ok (referenced (rest.headD ""))
      else (firstMatch subject (rest.drop 1)).outcome := by
  rw [firstMatch.eq_def]
  dsimp only
  rw [if_neg h]
  cases subject with
  | none => rfl
  | some s =>
    dsimp only
    rw [Option.any_some, argumentFinds]
    cases Filter.patternOf test with
    | error fault => rfl
    | ok p => cases hp : p.isMatch s <;> simp [hp, Run.outcome_pure]

theorem firstMatch_nil : firstMatch subject [] = pure (.text "") := by
  rw [firstMatch]

theorem referenced_empty : referenced "" = .text "" := rfl

theorem referenced_fallbackMark : referenced fallbackMark = .text fallbackMark := rfl

/-- A test without an output chooses the empty text, whether it finds a match or not. -/
theorem outcome_firstMatch_single (test : String) :
    (firstMatch subject [test]).outcome = .ok (.text "") := by
  by_cases h : test = fallbackMark
  · rw [h, firstMatch.eq_def]
    rfl
  · rw [outcome_firstMatch_cons subject h, List.headD_nil, List.drop_nil, referenced_empty,
      firstMatch_nil, Run.outcome_pure, ite_self]

/-- Behind a remainder the mark of the fallback is an output and the fallback is a test. -/
theorem outcome_firstMatch_remainder {remainder : String} (h : remainder ≠ fallbackMark)
    (f : String) :
    (firstMatch subject [remainder, fallbackMark, f]).outcome =
      .ok (.text (if subject.any (argumentFinds remainder) then fallbackMark else "")) := by
  rw [outcome_firstMatch_cons subject h, List.headD_cons, referenced_fallbackMark]
  have hsingle := outcome_firstMatch_single subject f
  split
  · rfl
  · exact hsingle

/-- The argument that keeps what remains behind the first seven branches. -/
def remainder (branches : List Branch) : String :=
  bareArgument (commas (branchItems (branches.drop 7)))

theorem remainder_ne_fallbackMark {branches : List Branch} (h : ¬branches.length ≤ 7) :
    remainder branches ≠ fallbackMark := by
  have hne : branches.drop 7 ≠ [] := by
    rw [ne_eq, List.drop_eq_nil_iff]
    omega
  obtain ⟨b, rest, hdrop⟩ := List.exists_cons_of_ne_nil hne
  obtain ⟨tail, htail⟩ : ∃ tail, commas (branchItems (branches.drop 7)) = '/' :: tail := by
    rw [hdrop, branchItems_cons, commas_cons_cons]
    exact ⟨_, rfl⟩
  have hhead : (trim ('/' :: tail)).head? = some '/' := by
    rw [trim_cons (by decide), List.head?_cons]
  rw [remainder, htail, bareArgument, if_pos hhead]
  exact ne_fallbackMark hhead

/-- Without room for all arguments a branch among the first seven is chosen, or the walk comes to what
remains. -/
theorem firstMatch_of_length_gt {branches : List Branch} (hlen : ¬branches.length ≤ 7)
    (h : ∀ b ∈ branches, b.test.Compiles) (fallback : Plain) :
    firstMatch subject (splitBare (commas (branchItems branches)) ++
      [fallbackMark, String.ofList fallback.chars]) =
        match chosenBranch (branches.take 7) subject with
        | some b => pure (referenced (String.ofList b.output.chars))
        | none =>
          firstMatch subject [remainder branches, fallbackMark, String.ofList fallback.chars] := by
  have hne : branches ≠ [] := by
    rintro rfl
    simp at hlen
  rw [splitBare_branches hne, if_neg hlen, ← remainder, List.append_assoc, List.singleton_append,
    firstMatch_branches subject fun b hb => h b (List.mem_of_mem_take hb)]

/-- Where the first seven branches of more do not match, the mark of the fallback comes out or nothing does. -/
theorem outcome_firstMatch_of_length_gt {branches : List Branch} (hlen : ¬branches.length ≤ 7)
    (h : ∀ b ∈ branches, b.test.Compiles) (fallback : Plain)
    (hchosen : chosenBranch (branches.take 7) subject = none) :
    (firstMatch subject (splitBare (commas (branchItems branches)) ++
      [fallbackMark, String.ofList fallback.chars])).outcome =
        .ok (.text (if subject.any (argumentFinds (remainder branches)) then fallbackMark else "")) := by
  rw [firstMatch_of_length_gt subject hlen h, hchosen]
  exact outcome_firstMatch_remainder subject (remainder_ne_fallbackMark hlen) _

/-- A branch that is chosen among the first seven is chosen, however many follow. -/
theorem firstMatch_of_chosen {branches : List Branch} (hlen : ¬branches.length ≤ 7)
    (h : ∀ b ∈ branches, b.test.Compiles) (fallback : Plain) {b : Branch}
    (hchosen : chosenBranch (branches.take 7) subject = some b) :
    firstMatch subject (splitBare (commas (branchItems branches)) ++
      [fallbackMark, String.ofList fallback.chars]) =
        pure (referenced (chosenText branches fallback subject)) := by
  have hall : chosenBranch branches subject = some b := by
    obtain ⟨s, rfl, hfound⟩ := Option.bind_eq_some_iff.mp hchosen
    rw [chosenBranch, Option.bind_some, ← List.take_append_drop 7 branches, List.find?_append, hfound,
      Option.some_or]
  rw [firstMatch_of_length_gt subject hlen h, hchosen, chosenText, hall]
  rfl

theorem parse_text_onMatch {branches : List Branch} (nonempty : branches ≠ []) (fallback : Plain) :
    (Invocation.parse (Grammar.Filter.onMatch branches nonempty (some fallback)).text).name = "onmatch" ∧
    (Invocation.parse (Grammar.Filter.onMatch branches nonempty (some fallback)).text).callArguments =
      splitBare (commas (branchItems branches)) ++ [fallbackMark, String.ofList fallback.chars] := by
  have htrim := trim_print (.onMatch branches nonempty (some fallback))
  rw [print_onMatch] at htrim
  have hcall := Invocation.ofChars_call htrim (List.all_eq_true.mp (by decide))
  rw [Invocation.parse, toList_text, print_onMatch]
  exact ⟨hcall.1, hcall.2.trans (callArguments_onMatch nonempty fallback)⟩

namespace Engine

def HasStockOnMatch (e : Engine) : Prop :=
  Table.get? "onmatch" e.registry.custom = none ∧ Table.get? "onmatch" e.registry.aliases = none

theorem applyFilter_onMatch {e : Engine} (he : e.HasStockOnMatch) (deeper : Unit → Level)
    (v : Option Value) {branches : List Branch} (nonempty : branches ≠ []) (fallback : Plain) :
    e.applyFilter deeper v (Grammar.Filter.onMatch branches nonempty (some fallback)).text =
      some <$> firstMatch (v.map fun v => v.display.toList)
        (splitBare (commas (branchItems branches)) ++
          [fallbackMark, String.ofList fallback.chars]) := by
  obtain ⟨hname, harguments⟩ := parse_text_onMatch nonempty fallback
  have hlower : Unicode.lowercase "onmatch" = "onmatch" := by decide
  have hstock : Stock.ofName? "onmatch" = some .onMatch := by decide
  unfold applyFilter
  dsimp only
  rw [hname, hlower, he.1, he.2, hstock]
  dsimp only
  rw [Stock.apply, Filter.onMatch, harguments]

theorem evaluateChain_onMatch {e : Engine} (he : e.HasStockOnMatch) (r : Resolver)
    (v : Option Value) {branches : List Branch} (nonempty : branches ≠ []) (fallback : Plain) :
    e.evaluateChain r (Grammar.Filter.onMatch branches nonempty (some fallback)).text v =
      firstMatch (v.map fun v => v.display.toList)
        (splitBare (commas (branchItems branches)) ++
          [fallbackMark, String.ofList fallback.chars]) >>= fun output =>
        some <$> settle (e.deeper r) output := by
  rw [evaluateChain_text, filterStep, applyFilter_onMatch he, bind_map_left]
  rfl

/-- An `onmatch` chooses by the first test that finds a match in its input, and its fallback where none does.
Of more than seven branches one of the first seven must find a match. -/
theorem evaluateChain_chosenText {e : Engine} (he : e.HasStockOnMatch) (r : Resolver)
    {branches : List Branch} (nonempty : branches ≠ []) (fallback : Plain) (v : Option Value)
    (h : ∀ b ∈ branches, b.test.Compiles)
    (hfirst : branches.length ≤ 7 ∨
      ∃ b ∈ branches.take 7, ∃ w, v = some w ∧ b.test.finds w.display.toList = true) :
    e.evaluateChain r (Grammar.Filter.onMatch branches nonempty (some fallback)).text v =
      some <$> settle (e.deeper r)
        (referenced (chosenText branches fallback (v.map fun v => v.display.toList))) := by
  have hchoice : firstMatch (v.map fun v => v.display.toList)
      (splitBare (commas (branchItems branches)) ++ [fallbackMark, String.ofList fallback.chars]) =
        pure (referenced (chosenText branches fallback (v.map fun v => v.display.toList))) := by
    by_cases hlen : branches.length ≤ 7
    · exact firstMatch_of_length_le _ nonempty hlen h fallback
    · obtain ⟨b, hb, w, rfl, hfinds⟩ := hfirst.resolve_left hlen
      have hfound : ((branches.take 7).find? fun b => b.test.finds w.display.toList).isSome :=
        List.find?_isSome.mpr ⟨b, hb, hfinds⟩
      obtain ⟨c, hc⟩ := Option.isSome_iff_exists.mp hfound
      exact firstMatch_of_chosen _ hlen h fallback hc
  rw [evaluateChain_onMatch he, hchoice, pure_bind]

def eightBranches : List Branch :=
  List.replicate 7 ⟨⟨⟨['a'], by decide⟩, .none⟩, ⟨['1'], List.all_eq_true.mp (by decide), by decide⟩⟩ ++
    [⟨⟨⟨['h'], by decide⟩, .none⟩, ⟨['8'], List.all_eq_true.mp (by decide), by decide⟩⟩]

def letterF : Plain := ⟨['f'], List.all_eq_true.mp (by decide), by decide⟩

theorem eightBranches_ne_nil : eightBranches ≠ [] := by simp [eightBranches]

theorem text_eightBranches :
    (Grammar.Filter.onMatch eightBranches eightBranches_ne_nil (some letterF)).text =
      "onmatch(/a/,1,/a/,1,/a/,1,/a/,1,/a/,1,/a/,1,/a/,1,/h/,8)nomatch(f)" := by decide

theorem compiles_eightBranches : ∀ b ∈ eightBranches, b.test.Compiles := by
  intro b hb
  rcases List.mem_append.mp hb with hb | hb
  · rw [List.eq_of_mem_replicate hb]
    exact ⟨_, rfl⟩
  · rw [List.mem_singleton.mp hb]
    exact ⟨_, rfl⟩

theorem evaluateChain_chosenText_letter :
    standard.evaluateChain silent "onmatch(/a/,1,/a/,1,/a/,1,/a/,1,/a/,1,/a/,1,/a/,1,/h/,8)nomatch(f)"
      (some (.text "a")) = pure (some (.text "1")) := by
  have hfirst : ∃ b ∈ eightBranches.take 7, ∃ w, some (.text "a") = some w ∧
      b.test.finds (Value.display w).toList = true :=
    ⟨_, List.mem_of_mem_head? rfl, .text "a", rfl, by decide +kernel⟩
  have h := evaluateChain_chosenText (e := standard) ⟨rfl, rfl⟩ silent eightBranches_ne_nil letterF
    (some (.text "a")) compiles_eightBranches (.inr hfirst)
  have hchosen : chosenText eightBranches letterF (some "a".toList) = "1" := by decide +kernel
  have hreferenced : referenced "1" = .text "1" := rfl
  rw [text_eightBranches, Option.map_some] at h
  change _ = some <$> settle _ (referenced (chosenText eightBranches letterF (some "a".toList))) at h
  rw [h, hchosen, hreferenced]
  rfl

/-- The eighth branch has no place of its own in the list of arguments. -/
theorem eighth_branch_lost :
    (∃ b ∈ eightBranches, b.test.finds "h".toList = true) ∧
    (standard.evaluateChain silent "onmatch(/a/,1,/a/,1,/a/,1,/a/,1,/a/,1,/a/,1,/a/,1,/h/,8)nomatch(f)"
      (some (.text "h"))).outcome = .ok (some (.text fallbackMark)) ∧
    (standard.evaluateChain silent "onmatch(/a/,1,/a/,1,/a/,1,/a/,1,/a/,1,/a/,1,/a/,1,/h/,8)nomatch(f)"
      none).outcome = .ok (some (.text "")) := by
  have hlen : ¬eightBranches.length ≤ 7 := by decide
  have hrun (v : Option Value) := evaluateChain_onMatch (e := standard) ⟨rfl, rfl⟩ silent v
    eightBranches_ne_nil letterF
  have hwalk (subject : Option (List Char)) :=
    outcome_firstMatch_of_length_gt subject hlen compiles_eightBranches letterF
  have hchosen : chosenBranch (eightBranches.take 7) (some "h".toList) = none := by decide +kernel
  have hremainder : argumentFinds (remainder eightBranches) "h".toList = true := by decide +kernel
  refine ⟨⟨_, List.mem_of_getLast? rfl, by decide +kernel⟩, ?_, ?_⟩
  · have hdisplay : (Value.text "h").display = "h" := rfl
    rw [← text_eightBranches, hrun, Run.outcome_bind, Option.map_some, hdisplay, hwalk _ hchosen,
      Option.any_some, hremainder]
    rfl
  · rw [← text_eightBranches, hrun, Run.outcome_bind, Option.map_none, hwalk none rfl]
    rfl

end Engine

end Stencil
