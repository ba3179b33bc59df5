import Stencil.Proofs.ByOffset.Shapes
import Stencil.Proofs.ChainText
import Stencil.Proofs.SubReference

/-!
# Tags by byte offsets

The parts of a tag are slices between the colon, the bar and the dots that separate them. They are the parts that are
read through the characters.
-/
namespace Stencil.ByOffset

open Stencil.Text Stencil.Tag Stencil.Tag.Expression

/-- Past a sub-reference, or past its first backtick if it never ends. -/
def skipReference (raw : String) (pos : Nat) : Checked Nat :=
  match nextUnescaped '\x60' raw (pos + 1) with
  | some close => pure (seek raw (close + 1))
  | none => advance raw pos 1

/-- Past the condition of an include, or past its parenthesis if it is never closed. -/
def skipCondition (raw : String) (pos : Nat) : Checked Nat := do
  orAdvance raw (← skipBalanced raw (seek raw ((← find raw pos '(').getD pos)))

def markRound (raw : String) (pos : Nat) (c : Char) (colon : Option Nat) :
    Checked (Round (Option Nat) (Option Nat × Option Nat)) := do
  if c = '|' then return .done (colon, some pos)
  else return .again (← advance raw pos 1) (if c = ':' then colon.or (some pos) else colon)

def separatorRound (raw : String) (pos : Nat) (colon : Option Nat) :
    Checked (Round (Option Nat) (Option Nat × Option Nat)) := do
  match ← peek raw pos with
  | none => return .done (colon, none)
  | some c =>
    if c = '\\' then return .again (← advance raw pos 2) colon
    else if c = '\x60' then return .again (← skipReference raw pos) colon
    else if c = 'i' ∧ ((← startsWith raw pos "includeIf(") ∨ (← startsWith raw pos "include.(")) then
      return .again (← skipCondition raw pos) colon
    else markRound raw pos c colon

/-- The first colon before the first bar, and the first bar. -/
def separators (raw : String) : Checked (Option Nat × Option Nat) := loop raw (separatorRound raw) 0 none

section Separators

variable {raw : String} {c : Char} {rest : List Char}

theorem skipReference_offsetOf (h : c :: rest <:+ raw.toList) (hc : c = '\x60') :
    skipReference raw (offsetOf raw (c :: rest)) =
      pure (offsetOf raw ((through? '\x60' rest).getD ([], rest)).2) := by
  subst hc
  rw [skipReference, offsetOf_add_one h (by decide), nextUnescaped_offsetOf h (by decide), through?]
  cases hcut : cut '\x60' false rest with
  | none => exact advance_offsetOf h 1
  | some p =>
    have hafter : '\x60' :: p.2 <:+ rest := ⟨p.1, (eq_of_cut hcut).symm⟩
    simp only [Option.map_some]
    rw [offsetOf_add_one (hafter.trans ((List.suffix_cons _ rest).trans h)) (by decide), seek_offsetOf]
    rfl

theorem skipCondition_offsetOf {word inside : List Char} (h : word ++ '(' :: inside <:+ raw.toList)
    (hword : '(' ∉ word) :
    skipCondition raw (offsetOf raw (word ++ '(' :: inside)) =
      pure (offsetOf raw (pathSpan.afterCondition inside)) := by
  have hparen := (List.suffix_append word ('(' :: inside)).trans h
  rw [skipCondition, find_offsetOf h hword, pure_bind, Option.getD_some, seek_offsetOf, skipBalanced_offsetOf hparen,
    pure_bind, orAdvance_landing hparen]
  rfl

theorem dropStart?_include (rest : List Char) :
    dropStart? "includeIf(".toList ('i' :: rest) = dropStart? "ncludeIf(".toList rest ∧
      dropStart? "include.(".toList ('i' :: rest) = dropStart? "nclude.(".toList rest := by
  have hcons (ps : List Char) : dropStart? ('i' :: ps) ('i' :: rest) = dropStart? ps rest := if_pos rfl
  exact ⟨hcons "ncludeIf(".toList, hcons "nclude.(".toList⟩

theorem separatorRound_mark (h : c :: rest <:+ raw.toList) (hb : c ≠ '\\') (hq : c ≠ '\x60') (hi : c ≠ 'i')
    (colon : Option Nat) :
    separatorRound raw (offsetOf raw (c :: rest)) colon = markRound raw (offsetOf raw (c :: rest)) c colon := by
  rw [separatorRound, peek_offsetOf h, pure_bind]
  simp only [List.head?_cons, if_neg hb, if_neg hq]
  rw [startsWith_offsetOf h, pure_bind, startsWith_offsetOf h, pure_bind, if_neg fun hboth => hi hboth.1]

theorem separatorRound_span (h : c :: rest <:+ raw.toList) {colon : Option Nat} (hbar : c ≠ '|')
    (hcolon : c = ':' → colon.isSome) :
    separatorRound raw (offsetOf raw (c :: rest)) colon = pure (.again (offsetOf raw (pathSpan c rest).2) colon) := by
  have hmark : markRound raw (offsetOf raw (c :: rest)) c colon = pure (.again (offsetOf raw rest) colon) := by
    have hstays : (if c = ':' then colon.or (some (offsetOf raw (c :: rest))) else colon) = colon := by
      split
      · next hc => exact Option.or_of_isSome (hcolon hc)
      · rfl
    rw [markRound, if_neg hbar, advance_offsetOf h, pure_bind, hstays]
    rfl
  by_cases hplain : c ≠ '\\' ∧ c ≠ '\x60' ∧ c ≠ 'i'
  · obtain ⟨hb, hq, hi⟩ := hplain
    rw [separatorRound_mark h hb hq hi, hmark, pathSpan, if_neg hb, if_neg hq, if_neg hi]
  rw [separatorRound, peek_offsetOf h, pure_bind, List.head?_cons, pathSpan]
  simp only
  by_cases hb : c = '\\'
  · rw [if_pos hb, advance_offsetOf h, pure_bind, if_pos hb]
    rfl
  rw [if_neg hb, if_neg hb]
  by_cases hq : c = '\x60'
  · rw [if_pos hq, skipReference_offsetOf h hq, pure_bind, if_pos hq]
  obtain rfl : c = 'i' := by simpa [hb, hq] using hplain
  obtain ⟨hfirst, hsecond⟩ := dropStart?_include rest
  rw [if_neg hq, if_neg hq, startsWith_offsetOf h, pure_bind, startsWith_offsetOf h, pure_bind, hmark, hfirst, hsecond,
    if_pos rfl]
  cases hif : dropStart? "ncludeIf(".toList rest with
  | some inside =>
    have hword : 'i' :: rest = "includeIf".toList ++ '(' :: inside := by rw [dropStart?_eq_some.mp hif]; rfl
    rw [hword] at h ⊢
    simp only [Option.isSome_some, true_or, and_true, if_true]
    rw [skipCondition_offsetOf h (by decide), pure_bind]
  | none =>
    cases hdot : dropStart? "nclude.(".toList rest with
    | some inside =>
      have hword : 'i' :: rest = "include.".toList ++ '(' :: inside := by rw [dropStart?_eq_some.mp hdot]; rfl
      rw [hword] at h ⊢
      simp only [Option.isSome_some, or_true, and_true, if_true]
      rw [skipCondition_offsetOf h (by decide), pure_bind]
    | none => simp

/-- The loop passes what is read up to the first character that stops it. -/
theorem loop_breakPath {s : List Char} (h : s <:+ raw.toList) (stop : Char → Bool) {colon : Option Nat}
    (hstop : ∀ c, stop c = false → c ≠ '|' ∧ (c = ':' → colon.isSome)) :
    loop raw (separatorRound raw) (offsetOf raw s) colon =
      loop raw (separatorRound raw) (offsetOf raw (breakPath stop s).2) colon := by
  fun_induction breakPath stop s with
  | case1 => rfl
  | case2 => rfl
  | case3 c rest hc before after hbreak ih =>
    have hspan : (pathSpan c rest).2 <:+ rest := ⟨_, pathSpan_append c rest⟩
    obtain ⟨hbar, hcolon⟩ := hstop c (by simpa using hc)
    rw [hbreak] at ih
    rw [loop_past (separatorRound_span h hbar hcolon) h List.suffix_rfl hspan]
    exact ih (hspan.trans ((List.suffix_cons c rest).trans h))

theorem breakPath_stops (stop : Char → Bool) (s : List Char) : ∀ c ∈ (breakPath stop s).2.head?, stop c = true := by
  fun_induction breakPath stop s with
  | case1 => simp
  | case2 c rest hc => simpa using hc
  | case3 c rest hc before after hbreak ih =>
    rw [hbreak] at ih
    exact ih

theorem loop_bar {s : List Char} (h : s <:+ raw.toList) (hs : ∀ c ∈ s.head?, c = '|') (colon : Option Nat) :
    loop raw (separatorRound raw) (offsetOf raw s) colon = pure (colon, s.head?.map fun _ => offsetOf raw s) := by
  refine loop_done ?_
  cases s with
  | nil =>
    rw [separatorRound, peek_offsetOf h]
    rfl
  | cons c rest =>
    obtain rfl := hs c rfl
    rw [separatorRound_mark h (by decide) (by decide) (by decide), markRound, if_pos rfl]
    rfl

theorem loop_colon {tail : List Char} (h : ':' :: tail <:+ raw.toList) :
    loop raw (separatorRound raw) (offsetOf raw (':' :: tail)) none =
      loop raw (separatorRound raw) (offsetOf raw tail) (some (offsetOf raw (':' :: tail))) := by
  have hround : separatorRound raw (offsetOf raw (':' :: tail)) none =
      pure (.again (offsetOf raw tail) (some (offsetOf raw (':' :: tail)))) := by
    rw [separatorRound_mark h (by decide) (by decide) (by decide), markRound, if_neg (by decide), advance_offsetOf h]
    rfl
  exact loop_past hround h List.suffix_rfl List.suffix_rfl

section Breaks

variable {path : List Char}

theorem separators_bar (hbreak : breakPath (fun c => c == ':' || c == '|') raw.toList = (path, rest))
    (hrest : ∀ c ∈ rest.head?, c = '|') :
    separators raw = pure (none, rest.head?.map fun _ => offsetOf raw rest) := by
  have h : rest <:+ raw.toList := ⟨path, by rw [← breakPath_append _ raw.toList, hbreak]⟩
  rw [separators, ← offsetOf_toList raw,
    loop_breakPath List.suffix_rfl (fun c => c == ':' || c == '|') (by simp +contextual), hbreak]
  exact loop_bar h hrest none

/-- Behind the first colon only a bar is looked for. -/
theorem separators_colon {default_ : List Char}
    (hbreak : breakPath (fun c => c == ':' || c == '|') raw.toList = (path, ':' :: default_ ++ rest))
    (hbar : breakPath (· == '|') (default_ ++ rest) = (default_, rest)) :
    separators raw =
      pure (some (offsetOf raw (':' :: default_ ++ rest)), rest.head?.map fun _ => offsetOf raw rest) := by
  have h : ':' :: (default_ ++ rest) <:+ raw.toList := ⟨path, by rw [← breakPath_append _ raw.toList, hbreak]; rfl⟩
  have htail := (List.suffix_cons ':' (default_ ++ rest)).trans h
  have hstops := breakPath_stops (· == '|') (default_ ++ rest)
  rw [hbar] at hstops
  rw [separators, ← offsetOf_toList raw,
    loop_breakPath List.suffix_rfl (fun c => c == ':' || c == '|') (by simp +contextual), hbreak]
  refine (loop_colon h).trans ?_
  rw [loop_breakPath htail (· == '|') (by simp), hbar]
  exact loop_bar ((List.suffix_append default_ rest).trans htail) (by simpa using hstops) _

end Breaks

end Separators

def defaultRound (raw : String) (start : Nat) (_ : Unit) : Checked (Round Unit (Option Nat)) := do
  let shape ← shapeEnd raw start
  let bar? := nextUnescaped '|' raw shape
  match (nextUnescaped ':' raw shape).filter (· < bar?.getD raw.utf8ByteSize) with
  | some colon => return .done (some colon)
  | none =>
    match bar? with
    | some bar => return .again (bar + 1) ()
    | none => return .done none

/-- The colon that begins the default behind a chain that begins at `start`. -/
def defaultColon? (raw : String) (start : Nat) : Checked (Option Nat) := loop raw (defaultRound raw) start ()

section Default

variable {raw : String} {front s : List Char}

/-- A round takes a colon before the bar that ends its filter. -/
theorem defaultRound_offsetOf (htext : raw.toList = front ++ s) (hfront : escapedAfter front.reverse = false) :
    defaultRound raw (offsetOf raw s) () =
      pure (match ((cut ':' false (afterShape s)).map fun (_, after) => offsetOf raw (':' :: after)).filter
          (· < ((atBoundary? false s).map fun (_, rest) => offsetOf raw ('|' :: rest)).getD raw.utf8ByteSize) with
        | some colon => .done (some colon)
        | none =>
          match atBoundary? false s with
          | some (_, rest) => .again (offsetOf raw rest) ()
          | none => .done none) := by
  have h : s <:+ raw.toList := ⟨front, htext.symm⟩
  have hbar : nextUnescaped '|' raw (offsetOf raw (afterShape s)) =
      (atBoundary? false s).map fun (_, rest) => offsetOf raw ('|' :: rest) := by
    rw [nextUnescaped_afterShape htext, hfront, atBoundary?]
    simp only [Bool.false_and, Option.map_map]
    rfl
  rw [defaultRound, shapeEnd_offsetOf h, pure_bind, hbar, nextUnescaped_afterShape htext, hfront, Bool.false_and]
  cases hsome : atBoundary? false s with
  | none =>
    simp only [Option.map_none]
    split <;> rfl
  | some p =>
    have hrest : '|' :: p.2 <:+ raw.toList := List.IsSuffix.trans ⟨p.1, (eq_of_atBoundary? hsome).symm⟩ h
    simp only [Option.map_some]
    rw [offsetOf_add_one hrest (by decide)]
    split <;> rfl

/-- A colon stands before the bar that ends the first filter exactly if its offset is below that of the bar. -/
theorem within_iff_offsetOf (h : s <:+ raw.toList) {before d : List Char} (hs : s = before ++ ':' :: d) :
    Within s before ↔ offsetOf raw (':' :: d) <
      ((atBoundary? false s).map fun (_, rest) => offsetOf raw ('|' :: rest)).getD raw.utf8ByteSize := by
  have hcolon : ':' :: d <:+ raw.toList := List.IsSuffix.trans ⟨before, hs.symm⟩ h
  cases hbar : atBoundary? false s with
  | none => exact iff_of_true (by simp [Within, hbar]) (offsetOf_lt_size hcolon (List.cons_ne_nil ':' d))
  | some p =>
    have hs' := eq_of_atBoundary? hbar
    have hlength := congrArg List.length (hs.symm.trans hs')
    simp only [List.length_append, List.length_cons] at hlength
    simp only [Option.map_some, Option.getD_some]
    rw [within_iff hbar, offsetOf_lt_iff hcolon (List.IsSuffix.trans ⟨p.1, hs'.symm⟩ h), List.length_cons,
      List.length_cons]
    omega

theorem loop_defaultRound (htext : raw.toList = front ++ s) (hfront : escapedAfter front.reverse = false) :
    loop raw (defaultRound raw) (offsetOf raw s) () =
      pure ((splitDefault s).2.map fun d => offsetOf raw (':' :: d)) := by
  -- by length, as the reader of tags goes on behind the bar
  induction hlen : s.length using Nat.strong_induction_on generalizing front s with
  | _ n ih =>
    obtain ⟨shape, hs⟩ := afterShape_suffix s
    have h : s <:+ raw.toList := ⟨front, htext.symm⟩
    have hround := defaultRound_offsetOf htext hfront
    have hplace {loose d : List Char} (hcut : cut ':' false (afterShape s) = some (loose, d)) :
        s = (shape ++ loose) ++ ':' :: d := by
      rw [List.append_assoc, ← eq_of_cut hcut, hs]
    rcases splitDefault_cases hs with ⟨loose, d, hcut, hwithin, heq⟩ | ⟨filter, rest, hbar, hbeyond, heq⟩ |
      ⟨hbar, hcut, heq⟩
    · have hlt := (within_iff_offsetOf h (hplace hcut)).mp hwithin
      simp only [hcut, Option.map_some, Option.filter_some, decide_eq_true hlt, if_true] at hround
      rw [loop_done hround, heq]
      rfl
    · have hnone : ((cut ':' false (afterShape s)).map fun (_, after) => offsetOf raw (':' :: after)).filter
          (· < ((atBoundary? false s).map fun (_, rest) => offsetOf raw ('|' :: rest)).getD raw.utf8ByteSize) =
          none := by
        cases hcut : cut ':' false (afterShape s) with
        | none => rfl
        | some p =>
          have hle := mt (within_iff_offsetOf h (hplace hcut)).mpr (hbeyond p.1 p.2 hcut)
          simp [Option.filter_some, hle]
      have hrest : '|' :: rest <:+ s := ⟨filter, (eq_of_atBoundary? hbar).symm⟩
      rw [hnone, hbar] at hround
      rw [loop_past hround h hrest List.suffix_rfl, heq]
      exact ih _ (hlen ▸ length_lt_of_atBoundary? hbar) (next_place htext hbar).1 (escapedAfter_bar _) rfl
    · rw [hbar, hcut] at hround
      rw [loop_done hround, heq]
      rfl

omit raw front s in
/-- Chain and default make up the text, but for the colon between them. -/
theorem splitDefault_append (s : List Char) :
    (splitDefault s).1 ++ ((splitDefault s).2.map (':' :: ·)).getD [] = s := by
  induction hlen : s.length using Nat.strong_induction_on generalizing s with
  | _ n ih =>
    obtain ⟨shape, hs⟩ := afterShape_suffix s
    rcases splitDefault_cases hs with ⟨loose, d, hcut, -, heq⟩ | ⟨filter, rest, hbar, -, heq⟩ | ⟨-, -, heq⟩
    · rw [heq]
      conv_rhs => rw [← hs, eq_of_cut hcut]
      simp
    · have hrest := ih _ (hlen ▸ length_lt_of_atBoundary? hbar) rest rfl
      rw [heq]
      conv_rhs => rw [eq_of_atBoundary? hbar, ← hrest]
      simp
    · rw [heq]
      simp

end Default

/-- What the loop over a path carries: where the segment begins that is read, and the segments before it. -/
structure Dotted where
  start : Nat
  found : List String

def dotRound (path : String) (pos : Nat) (state : Dotted) : Checked (Round Dotted (List String)) := do
  match ← peek path pos with
  | none => return .done (state.found ++ [← sliceFrom path state.start])
  | some c =>
    if c = '\x60' then return .again (← skipReference path pos) state
    else if c = '.' then
      let segment ← slice path state.start pos
      let next ← advance path pos 1
      return .again next { start := next, found := state.found ++ [segment] }
    else return .again (← advance path pos 1) state

def splitPath (path : String) : Checked (List String) := do
  if (← startsWith path 0 ".") ∨ '.' ∉ path.toList then return [path]
  else loop path (dotRound path) 0 { start := 0, found := [] }

section Path

variable {path : String}

/-- What the character `c` of a path that is no dot keeps from separating, and what follows. -/
theorem splitDots_cons {c : Char} (hc : c ≠ '.') (rest : List Char) :
    ∃ kept after, kept ++ after = rest ∧ (c = '\x60' → after = ((through? '\x60' rest).getD ([], rest)).2) ∧
      (c ≠ '\x60' → after = rest) ∧
      splitDots (c :: rest) = (c :: kept ++ (splitDots after).1, (splitDots after).2) := by
  rw [splitDots, if_neg hc]
  by_cases hq : c = '\x60'
  · rw [if_pos hq]
    refine ⟨_, _, ?_, fun _ => rfl, fun hne => absurd hq hne, rfl⟩
    cases hthrough : through? '\x60' rest with
    | none => rfl
    | some p => exact (eq_of_through? hthrough).symm
  · rw [if_neg hq]
    exact ⟨[], rest, rfl, fun heq => absurd heq hq, fun _ => rfl, rfl⟩

theorem splitDots_of_notMem {s : List Char} (h : '.' ∉ s) : splitDots s = (s, []) := by
  induction hlen : s.length using Nat.strong_induction_on generalizing s with
  | _ n ih =>
    cases s with
    | nil => rw [splitDots]
    | cons c rest =>
      have hc : c ≠ '.' := fun heq => h (heq ▸ List.mem_cons_self)
      obtain ⟨kept, after, rfl, -, -, heq⟩ := splitDots_cons hc rest
      have hlt : after.length < n := by
        rw [← hlen, List.length_cons, List.length_append]
        omega
      rw [heq, ih _ hlt (by simp_all) rfl]
      rfl

theorem dotRound_span {c : Char} {rest : List Char} (h : c :: rest <:+ path.toList) (hc : c ≠ '.') (state : Dotted)
    {after : List Char} (hreference : c = '\x60' → after = ((through? '\x60' rest).getD ([], rest)).2)
    (hplain : c ≠ '\x60' → after = rest) :
    dotRound path (offsetOf path (c :: rest)) state = pure (.again (offsetOf path after) state) := by
  rw [dotRound, peek_offsetOf h, pure_bind]
  simp only [List.head?_cons, if_neg hc]
  by_cases hq : c = '\x60'
  · rw [if_pos hq, skipReference_offsetOf h hq, pure_bind, hreference hq]
  · rw [if_neg hq, advance_offsetOf h, pure_bind, hplain hq]
    rfl

theorem loop_dotRound {read rest : List Char} (h : read ++ rest <:+ path.toList) (found : List String) :
    loop path (dotRound path) (offsetOf path rest) { start := offsetOf path (read ++ rest), found } =
      pure (found ++ String.ofList (read ++ (splitDots rest).1) :: (splitDots rest).2.map String.ofList) := by
  -- by length, as a sub-reference is passed at once
  induction hlen : rest.length using Nat.strong_induction_on generalizing read rest found with
  | _ n ih =>
    have hrest := (List.suffix_append read rest).trans h
    cases rest with
    | nil =>
      refine loop_done ?_
      rw [dotRound, peek_offsetOf hrest, pure_bind, splitDots]
      simp only [List.head?_nil]
      rw [sliceFrom_offsetOf h]
      rfl
    | cons c rest =>
      have hlength : rest.length < n := hlen ▸ Nat.lt_succ_self _
      by_cases hc : c = '.'
      · subst hc
        have hround : dotRound path (offsetOf path ('.' :: rest))
              { start := offsetOf path (read ++ '.' :: rest), found } =
            pure (.again (offsetOf path rest)
              { start := offsetOf path rest, found := found ++ [String.ofList read] }) := by
          rw [dotRound, peek_offsetOf hrest, pure_bind, slice_offsetOf h, pure_bind, advance_offsetOf hrest, pure_bind]
          rfl
        have hbehind : [] ++ rest <:+ path.toList := (List.suffix_cons '.' rest).trans hrest
        have hmore := ih _ hlength hbehind (found ++ [String.ofList read]) rfl
        rw [loop_past hround hrest List.suffix_rfl List.suffix_rfl, splitDots, if_pos rfl]
        simpa using hmore
      · obtain ⟨kept, after, rfl, hreference, hplain, heq⟩ := splitDots_cons hc rest
        have hround := dotRound_span hrest hc { start := offsetOf path (read ++ c :: (kept ++ after)), found }
          hreference hplain
        have hread : read ++ c :: (kept ++ after) = (read ++ c :: kept) ++ after := by simp
        have hlt : after.length < n := lt_of_le_of_lt (by simp) hlength
        rw [loop_past hround hrest List.suffix_rfl (List.suffix_append kept after), heq, hread,
          ih _ hlt (hread ▸ h) found rfl]
        simp

theorem splitPath_ofList (s : List Char) : splitPath (String.ofList s) = pure (segmentsOf s) := by
  have h := suffix_ofList s
  rw [splitPath, startsWith_ofList, pure_bind, String.toList_ofList (l := s)]
  by_cases hcommand : (dropStart? ".".toList s).isSome
  · obtain ⟨rest, hrest⟩ := Option.isSome_iff_exists.mp hcommand
    obtain rfl : s = '.' :: rest := dropStart?_eq_some.mp hrest
    rw [if_pos (.inl hcommand)]
    rfl
  have hne (rest : List Char) : s ≠ '.' :: rest := by
    rintro rfl
    exact hcommand rfl
  have hsegments : segmentsOf s = ((splitDots s).1 :: (splitDots s).2).map String.ofList := by
    rw [segmentsOf]
    exact hne
  rw [hsegments]
  by_cases hdot : '.' ∈ s
  · have hwhole : [] ++ s <:+ (String.ofList s).toList := h
    have hloop := loop_dotRound hwhole []
    rw [List.nil_append, offsetOf_ofList] at hloop
    have hneither : ¬((dropStart? ".".toList s).isSome = true ∨ '.' ∉ s) := by
      rintro (hstarts | hno)
      · exact hcommand hstarts
      · exact hno hdot
    rw [if_neg hneither, hloop]
    rfl
  · rw [if_pos (.inr hdot), splitDots_of_notMem hdot]
    rfl

end Path

def tagOf (path : String) (chain default? : Option String) (filtersDefault : Bool) : Checked Expression := do
  return {
    path := ← splitPath (trimmed path)
    chain := (chain.map trimmed).filter (· ≠ "")
    defaultText := default?
    filtersDefault }

def chained (raw : String) (bar : Nat) : Checked Expression := do
  let path ← slice raw 0 bar
  match ← defaultColon? raw (bar + 1) with
  | some colon => tagOf path (some (← slice raw (bar + 1) colon)) (some (← sliceFrom raw (colon + 1))) false
  | none => tagOf path (some (← sliceFrom raw (bar + 1))) none false

def expression (raw : String) : Checked Expression := do
  match ← separators raw with
  | (none, none) => tagOf raw none none false
  | (some colon, none) => tagOf (← slice raw 0 colon) none (some (← sliceFrom raw (colon + 1))) false
  | (none, some bar) => chained raw bar
  | (some colon, some bar) =>
    if colon < bar then
      tagOf (← slice raw 0 colon) (some (← sliceFrom raw (bar + 1))) (some (← slice raw (colon + 1) bar)) true
    else chained raw bar

theorem tagOf_ofList (path : List Char) (chain : Option (List Char)) (default? : Option String)
    (filtersDefault : Bool) :
    tagOf (String.ofList path) (chain.map String.ofList) default? filtersDefault =
      pure {
        path := segmentsOf (trim path)
        chain := chain.bind chainOf
        defaultText := default?
        filtersDefault } := by
  have hchain : ((chain.map String.ofList).map trimmed).filter (· ≠ "") = chain.bind chainOf := by
    cases chain with
    | none => rfl
    | some s =>
      simp only [Option.map_some, Option.bind_some, trimmed_ofList, chainOf]
      cases htrim : trim s with
      | nil => rfl
      | cons c t =>
        have hne : String.ofList (c :: t) ≠ "" := by simp
        rw [Option.filter_some, decide_eq_true hne]
        rfl
  rw [tagOf, trimmed_ofList, splitPath_ofList, pure_bind, hchain]

theorem chained_offsetOf {raw : String} {path tail : List Char} (htext : raw.toList = path ++ '|' :: tail) :
    chained raw (offsetOf raw ('|' :: tail)) =
      pure {
        path := segmentsOf (trim path)
        chain := chainOf (splitDefault tail).1
        defaultText := (splitDefault tail).2.map String.ofList
        filtersDefault := false } := by
  have hbar : '|' :: tail <:+ raw.toList := ⟨path, htext.symm⟩
  have htail := (List.suffix_cons '|' tail).trans hbar
  have hbehind : raw.toList = (path ++ ['|']) ++ tail := by rw [htext, List.append_assoc]; rfl
  have hdefault := loop_defaultRound hbehind (escapedAfter_bar path)
  have happend := splitDefault_append tail
  rw [chained, slice_front htext, pure_bind, offsetOf_add_one hbar (by decide), defaultColon?, hdefault, pure_bind]
  generalize splitDefault tail = p at happend ⊢
  obtain ⟨chain, _ | d⟩ := p
  · obtain rfl : chain = tail := by simpa using happend
    simp only [Option.map_none]
    rw [sliceFrom_offsetOf htail, pure_bind]
    exact tagOf_ofList path (some chain) none false
  · obtain rfl : chain ++ ':' :: d = tail := by simpa using happend
    have hcolon := (List.suffix_append chain (':' :: d)).trans htail
    simp only [Option.map_some]
    rw [slice_offsetOf htail, pure_bind, sliceFrom_behind hcolon (by decide), pure_bind]
    exact tagOf_ofList path (some chain) _ false

theorem expression_colon {raw : String} {path default_ rest : List Char}
    (hbreak : breakPath (fun c => c == ':' || c == '|') raw.toList = (path, ':' :: default_ ++ rest))
    (hbar : breakPath (· == '|') (default_ ++ rest) = (default_, rest)) :
    expression raw = pure (Expression.parse raw) := by
  have hraw : raw.toList = path ++ ':' :: (default_ ++ rest) := by
    rw [← breakPath_append _ raw.toList, hbreak]
    rfl
  have hcolon : ':' :: (default_ ++ rest) <:+ raw.toList := ⟨path, hraw.symm⟩
  have hseparators := separators_colon hbreak hbar
  rw [List.cons_append] at hseparators
  rw [expression, hseparators, pure_bind]
  cases rest with
  | nil =>
    have hparse : Expression.parse raw =
        { path := segmentsOf (trim path), chain := none
          defaultText := some (String.ofList (default_ ++ [])), filtersDefault := false } := by
      rw [Expression.parse, Expression.ofChars, hbreak]
      simp only [List.cons_append, hbar]
    simp only [List.head?_nil, Option.map_none]
    rw [slice_front hraw, pure_bind, sliceFrom_behind hcolon (by decide), pure_bind, hparse]
    exact tagOf_ofList path none _ false
  | cons d chain =>
    obtain rfl : d = '|' := by
      have hstops := breakPath_stops (· == '|') (default_ ++ d :: chain)
      rw [hbar] at hstops
      simpa using hstops d rfl
    have hparse : Expression.parse raw =
        { path := segmentsOf (trim path), chain := chainOf chain
          defaultText := some (String.ofList default_), filtersDefault := true } := by
      rw [Expression.parse, Expression.ofChars, hbreak]
      simp only [List.cons_append, hbar]
    have hlt : offsetOf raw (':' :: (default_ ++ '|' :: chain)) < offsetOf raw ('|' :: chain) := by
      refine offsetOf_lt hcolon ⟨':' :: default_, rfl⟩ ?_
      simp only [List.length_cons, List.length_append]
      omega
    have hend := suffix_behind hcolon rfl
    simp only [List.head?_cons, Option.map_some]
    rw [if_pos hlt, slice_front hraw, pure_bind, sliceFrom_behind hend (by decide), pure_bind,
      slice_behind hcolon (by decide) rfl, pure_bind, hparse]
    exact tagOf_ofList path (some chain) _ true

theorem expression_eq (raw : String) : expression raw = pure (Expression.parse raw) := by
  obtain ⟨⟨path, rest⟩, hbreak⟩ : ∃ p, breakPath (fun c => c == ':' || c == '|') raw.toList = p := ⟨_, rfl⟩
  have hstops := breakPath_stops (fun c => c == ':' || c == '|') raw.toList
  have hraw := breakPath_append (fun c => c == ':' || c == '|') raw.toList
  rw [hbreak] at hstops hraw
  rcases rest with _ | ⟨c, tail⟩
  · have hpath : raw = String.ofList path := by rw [← String.toList_inj, ← hraw]; simp
    rw [expression, separators_bar hbreak (by simp), pure_bind, Expression.parse, Expression.ofChars, hbreak, hpath]
    exact tagOf_ofList path none none false
  rcases (by simpa using hstops c rfl : c = ':' ∨ c = '|') with rfl | rfl
  · obtain ⟨⟨default_, rest⟩, hbar⟩ : ∃ p, breakPath (· == '|') tail = p := ⟨_, rfl⟩
    have htail := breakPath_append (· == '|') tail
    rw [hbar] at htail
    subst htail
    exact expression_colon hbreak hbar
  · rw [expression, separators_bar hbreak (by simp), pure_bind, Expression.parse, Expression.ofChars, hbreak]
    exact chained_offsetOf hraw.symm

end Stencil.ByOffset
