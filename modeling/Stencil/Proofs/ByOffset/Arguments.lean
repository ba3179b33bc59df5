import Stencil.Proofs.Arguments
import Stencil.Proofs.ByOffset.Shapes
import Stencil.Tag.Invocation

/-!
# Argument lists by byte offsets

Arguments are slices of the list that holds them, cleaned of quotes and escapes. They are those that are read through
the characters, and the parts of a filter are those of its invocation.
-/
namespace Stencil.ByOffset

open Stencil.Text Stencil.Tag

def unescaped (mark : Char) (s : String) : String := String.ofList (unescape mark s.toList)

def unquoted (inner : String) : Checked (Option String) := do
  if 2 ≤ inner.utf8ByteSize ∧ (← peek inner 0) = some '"' then
    let last ← minus inner.utf8ByteSize 1
    if nextUnescaped '"' inner 1 = some last then return some (← slice inner 1 last) else return none
  else return none

/-- What a text holds between two quotes, whatever stands there. -/
def between (quote : Char) (s : String) : Checked (Option String) := do
  if 2 ≤ s.utf8ByteSize ∧ s.toList.head? = some quote ∧ s.toList.getLast? = some quote then
    return some (← slice s 1 (← minus s.utf8ByteSize 1))
  else return none

def cleaned (raw : String) : Checked String := do
  let inner := trimmed raw
  if (← peek inner 0) = some '/' then return inner
  else
    match ← unquoted inner with
    | some inside => return unescaped '"' inside
    | none => return unescaped ',' raw

section Whole

variable {c : Char} {rest s : List Char}

theorem peek_ofList (s : List Char) : peek (String.ofList s) 0 = pure s.head? := by
  have h := peek_offsetOf (suffix_ofList s)
  rwa [offsetOf_ofList] at h

/-- The slice between two ASCII characters that a text begins and ends with. -/
theorem slice_between {d : Char} (hc : c.toNat < 128) (hd : d.toNat < 128) (inside : List Char) :
    slice (String.ofList (c :: (inside ++ [d]))) 1 ((String.ofList (c :: (inside ++ [d]))).utf8ByteSize - 1) =
      pure (String.ofList inside) := by
  have hwhole := suffix_ofList (c :: (inside ++ [d]))
  have hlast := suffix_behind hwhole rfl
  have h := slice_behind hwhole hc rfl
  rwa [offsetOf_ofList, (offsetOf_eq_last_iff hlast hd).mpr rfl] at h

theorem nextUnescaped_ofList (hc : c.toNat < 128) (hb : c ≠ '\\') (mark : Char) :
    nextUnescaped mark (String.ofList (c :: rest)) 1 =
      (cut mark false rest).map fun (_, after) => offsetOf (String.ofList (c :: rest)) (mark :: after) := by
  have h : nextUnescaped mark _ _ = _ := nextUnescaped_offsetOf (suffix_ofList (c :: rest)) hb
  rwa [offsetOf_ofList_cons hc] at h

theorem quoted?_of_head (h : s.head? ≠ some '"') : quoted? s = none := by
  unfold quoted?
  split
  · simp at h
  · rfl

theorem unquoted_ofList (s : List Char) : unquoted (String.ofList s) = pure ((quoted? s).map String.ofList) := by
  have h := suffix_ofList s
  rw [unquoted, peek_ofList, pure_bind]
  by_cases hquote : s.head? = some '"'
  · obtain ⟨rest, rfl⟩ := List.head?_eq_some_iff.mp hquote
    have hrest : offsetOf (String.ofList ('"' :: rest)) rest = 1 := offsetOf_ofList_cons (by decide) rest
    have hlast : (String.ofList ('"' :: rest)).utf8ByteSize = 1 + byteLength rest := by
      rw [utf8ByteSize_ofList, byteLength_cons]
      rfl
    rw [nextUnescaped_ofList (by decide) (by decide), quoted?, minus_of_le (by omega)]
    cases hcut : cut '"' false rest with
    | none => simp
    | some p =>
      obtain ⟨inside, after⟩ := p
      have hquoted : '"' :: after <:+ rest := ⟨inside, (eq_of_cut hcut).symm⟩
      have hbehind := hquoted.trans ((List.suffix_cons '"' rest).trans h)
      have hlast := offsetOf_eq_last_iff hbehind (by decide)
      have hsize : 2 ≤ (String.ofList ('"' :: rest)).utf8ByteSize := by
        have hpos := byteLength_pos (List.ne_nil_of_mem (hquoted.subset List.mem_cons_self))
        omega
      simp only [hsize, hquote, and_self, if_true, pure_bind, Option.map_some, Option.some.injEq]
      cases after with
      | nil =>
        have hslice := slice_offsetOf (eq_of_cut hcut ▸ (List.suffix_cons '"' rest).trans h)
        rw [← eq_of_cut hcut, hrest, hlast.mpr rfl] at hslice
        rw [if_pos (hlast.mpr rfl), hslice, pure_bind]
        rfl
      | cons d after =>
        rw [if_neg fun heq => List.cons_ne_nil d after (hlast.mp heq)]
        rfl
  · rw [if_neg fun hat => hquote hat.2, quoted?_of_head hquote]
    rfl

def inside? (quote : Char) : List Char → Option (List Char)
  | c :: d :: rest => if c = quote ∧ (d :: rest).getLast? = some quote then some (d :: rest).dropLast else none
  | _ => none

theorem between_ofList {quote : Char} (hquote : quote.toNat < 128) (s : List Char) :
    between quote (String.ofList s) = pure ((inside? quote s).map String.ofList) := by
  rw [between, String.toList_ofList]
  match s with
  | [] => rfl
  | [c] =>
    refine if_neg fun ⟨hsize, hhead, _⟩ => ?_
    obtain rfl := Option.some.inj hhead
    rw [utf8ByteSize_ofList, byteLength_cons, byteLength_nil, utf8Size_of_lt hquote] at hsize
    omega
  | c :: d :: rest =>
    have hsize : 2 ≤ (String.ofList (c :: d :: rest)).utf8ByteSize := by
      have hc := c.utf8Size_pos
      have hd := d.utf8Size_pos
      rw [utf8ByteSize_ofList, byteLength_cons, byteLength_cons]
      omega
    rw [List.head?_cons, List.getLast?_cons_cons, inside?]
    by_cases hends : c = quote ∧ (d :: rest).getLast? = some quote
    · obtain ⟨rfl, hlast⟩ := hends
      have hslice := slice_between hquote hquote (d :: rest).dropLast
      rw [List.dropLast_append_getLast? c hlast] at hslice
      rw [if_pos ⟨hsize, rfl, hlast⟩, if_pos ⟨rfl, hlast⟩, minus_of_le (by omega), pure_bind, hslice]
      rfl
    · rw [if_neg hends, if_neg fun h => hends ⟨Option.some.inj h.2.1, h.2.2⟩]
      rfl

theorem cleaned_ofList (raw : List Char) : cleaned (String.ofList raw) = pure (bareArgument raw) := by
  rw [cleaned, trimmed_ofList, peek_ofList, pure_bind, unquoted_ofList, pure_bind, bareArgument]
  by_cases hslash : (trim raw).head? = some '/'
  · simp only [hslash, if_true]
  · simp only [hslash, if_false]
    cases quoted? (trim raw) <;> simp [unescaped]

end Whole

/-- What the loop over bare arguments carries: where the argument begins that is read, those before it, and whether it
holds only blanks so far. -/
structure Bare where
  start : Nat
  found : List String
  atStart : Bool

def bareRound (text : String) (pos : Nat) (state : Bare) : Checked (Round Bare (List String)) := do
  match ← peek text pos with
  | none => return .done (state.found ++ [← cleaned (← sliceFrom text state.start)])
  | some c =>
    if c = '\\' then return .again (← advance text pos 2) { state with atStart := false }
    else if state.atStart = true ∧ isBlank c = true then return .again (← advance text pos 1) state
    else if c = '/' ∧ state.atStart = true then
      return .again (← orAdvance text (← skipRegexLiteral text pos)) { state with atStart := false }
    else if c = '"' then
      let (moved, next) ← skipQuoted text pos
      return .again (if moved then next else seek text text.utf8ByteSize) { state with atStart := false }
    else if c = '(' ∨ c = '\x7b' ∨ c = '[' then
      return .again (← orAdvance text (← skipBalanced text pos)) { state with atStart := false }
    else if c = ',' ∧ state.found.length + 1 < maxArguments then
      let argument ← cleaned (← slice text state.start pos)
      let next ← advance text pos 1
      return .again next { start := next, found := state.found ++ [argument], atStart := true }
    else return .again (← advance text pos 1) { state with atStart := false }

def splitBare (text : String) : Checked (List String) :=
  loop text (bareRound text) 0 { start := 0, found := [], atStart := true }

theorem argumentSpan_of_ne {atStart : Bool} {c : Char} (rest : List Char) (hb : c ≠ '\\')
    (hs : ¬(c = '/' ∧ atStart = true)) (hq : c ≠ '"') (hkind : ¬(c = '(' ∨ c = '\x7b' ∨ c = '[')) :
    argumentSpan atStart c rest = ([], rest) := by
  rw [argumentSpan, if_neg hb, if_neg hs, if_neg hq, throughBracket?, closerOf?_eq_none hkind]
  rfl

section Bare

variable {text : String} {c : Char} {rest : List Char} (h : c :: rest <:+ text.toList) (start : Nat) {room : Nat}
  {found : List String} (hroom : found.length + room + 1 = maxArguments) (atStart : Bool)
include h hroom

theorem bareRound_span (hc : ¬(c = ',' ∧ room ≠ 0)) :
    bareRound text (offsetOf text (c :: rest)) { start, found, atStart } =
      pure (.again (offsetOf text (argumentSpan atStart c rest).2)
        { start, found, atStart := atStart && isBlank c }) := by
  have hblank {d : Char} (hd : isBlank d = false) (hc : c = d) : (atStart && isBlank c) = false := by
    rw [hc, hd, Bool.and_false]
  have hcomma : ¬(c = ',' ∧ found.length + 1 < maxArguments) := by
    rintro ⟨rfl, hlt⟩
    exact hc ⟨rfl, by omega⟩
  rw [bareRound, peek_offsetOf h, pure_bind, List.head?_cons]
  simp only
  by_cases hb : c = '\\'
  · rw [if_pos hb, advance_offsetOf h, pure_bind, argumentSpan, if_pos hb, hblank (by decide) hb]
    rfl
  rw [if_neg hb]
  by_cases hlead : atStart = true ∧ isBlank c = true
  · have hslash : c ≠ '/' := ne_of_class hlead.2 (by decide)
    rw [if_pos hlead, advance_offsetOf h, pure_bind, argumentSpan_plain (isPlain_of_isBlank hlead.2) (.inl hslash),
      hlead.1, hlead.2]
    rfl
  rw [if_neg hlead]
  by_cases hs : c = '/' ∧ atStart = true
  · rw [if_pos hs, skipRegexLiteral_slash h hs.1, pure_bind, argumentSpan, if_neg hb, if_pos hs,
      hblank (by decide) hs.1]
    cases through? '/' rest with
    | none =>
      rw [Option.map_none, landing, orAdvance, if_neg Bool.false_ne_true, advance_offsetOf h]
      rfl
    | some p => rfl
  rw [if_neg hs]
  by_cases hq : c = '"'
  · rw [if_pos hq, skipQuoted, skipMarked_mark h hq (by decide) (by decide), pure_bind, argumentSpan, if_neg hb,
      if_neg hs, if_pos hq, hblank (by decide) hq]
    cases through? '"' rest with
    | none =>
      have hend : seek text text.utf8ByteSize = offsetOf text [] := by rw [← offsetOf_nil, seek_offsetOf]
      rw [hend]
      rfl
    | some p => rfl
  rw [if_neg hq]
  by_cases hkind : c = '(' ∨ c = '\x7b' ∨ c = '['
  · have hnot : (atStart && isBlank c) = false := by
      rcases hkind with hkind | hkind | hkind <;> exact hblank (by decide) hkind
    rw [if_pos hkind, skipBalanced_offsetOf h, pure_bind, orAdvance_landing h, pure_bind, argumentSpan, if_neg hb,
      if_neg hs, if_neg hq, hnot]
  have hnot : (atStart && isBlank c) = false := by
    rw [Bool.and_eq_false_iff]
    by_contra hboth
    exact hlead (by simpa using hboth)
  rw [if_neg hkind, if_neg hcomma, advance_offsetOf h, pure_bind, argumentSpan_of_ne rest hb hs hq hkind, hnot]
  rfl

theorem bareRound_comma {read : List Char} (hread : read ++ c :: rest <:+ text.toList) (hc : c = ',' ∧ room ≠ 0) :
    bareRound text (offsetOf text (c :: rest)) { start := offsetOf text (read ++ c :: rest), found, atStart } =
      pure (.again (offsetOf text rest)
        { start := offsetOf text rest, found := found ++ [bareArgument read], atStart := true }) := by
  obtain ⟨rfl, hne⟩ := hc
  have hlt : found.length + 1 < maxArguments := by omega
  have hblank : isBlank ',' = false := by decide
  rw [bareRound, peek_offsetOf h, pure_bind, slice_offsetOf hread, pure_bind, cleaned_ofList, pure_bind]
  simp [hblank, hlt, advance_offsetOf h 1]

end Bare

theorem loop_bareRound {text : String} {read rest : List Char} (h : read.reverse ++ rest <:+ text.toList) {room : Nat}
    {found : List String} (hroom : found.length + room + 1 = maxArguments) (atStart : Bool) :
    loop text (bareRound text) (offsetOf text rest)
        { start := offsetOf text (read.reverse ++ rest), found, atStart } =
      pure (found ++ bareArguments room read atStart rest) := by
  have hrest {read rest : List Char} (h : read.reverse ++ rest <:+ text.toList) : rest <:+ text.toList :=
    (List.suffix_append read.reverse rest).trans h
  -- the argument is not kept but begins where `read` began, so each round moves text from `rest` to `read`
  fun_induction bareArguments room read atStart rest generalizing found with
  | case1 room read atStart =>
    refine loop_done ?_
    rw [bareRound, peek_offsetOf (hrest h), pure_bind]
    simp only [List.head?_nil]
    rw [sliceFrom_offsetOf h, pure_bind, List.append_nil, cleaned_ofList]
    rfl
  | case2 room read atStart c rest hc ih =>
    have hround := bareRound_comma (hrest h) hroom atStart h hc
    have hroom' : (found ++ [bareArgument read.reverse]).length + (room - 1) + 1 = maxArguments := by
      rw [List.length_append, List.length_singleton]
      omega
    rw [loop_past hround (hrest h) List.suffix_rfl List.suffix_rfl]
    have hmore := ih ((List.suffix_cons c rest).trans (hrest h)) hroom'
    rwa [List.append_assoc] at hmore
  | case3 room read atStart c rest hc ih =>
    have hspan := argumentSpan_append atStart c rest
    have hread : ((argumentSpan atStart c rest).1.reverse ++ c :: read).reverse ++ (argumentSpan atStart c rest).2 =
        read.reverse ++ c :: rest := by
      simp [hspan]
    have hround := bareRound_span (hrest h) (offsetOf text (read.reverse ++ c :: rest)) hroom atStart hc
    rw [loop_past hround (hrest h) List.suffix_rfl ⟨_, hspan⟩]
    have hmore := ih (hread ▸ h) hroom
    rwa [hread] at hmore

theorem splitBare_ofList (s : List Char) : splitBare (String.ofList s) = pure (Tag.splitBare s) := by
  have hroom : ([] : List String).length + (maxArguments - 1) + 1 = maxArguments := rfl
  have hnil : ([] : List Char).reverse ++ s <:+ (String.ofList s).toList := suffix_ofList s
  have h := loop_bareRound hnil hroom true
  rwa [List.reverse_nil, List.nil_append, offsetOf_ofList] at h

/-- The argument whose opening quote is at `start`, and those behind its closing quote. -/
def quotedAt (inner : String) (start : Nat) (behind : Nat → Checked (List String)) : Checked (List String) :=
  match nextUnescaped '"' inner (start + 1) with
  | none => return [unescaped '"' (← sliceFrom inner (start + 1))]
  | some close => return unescaped '"' (← slice inner (start + 1) close) :: (← behind close)

def othersBehind (inner : String) (close : Nat) : Checked (List String) := do
  let (separated, next) ← eat inner (← skipBlanks inner (seek inner (close + 1))) ","
  if separated then splitBare (← sliceFrom inner next) else return []

def argumentsBehind (inner : String) (close : Nat) : Checked (List String) := do
  let (separated, next) ← eat inner (← skipBlanks inner (seek inner (close + 1))) ","
  let pos ← skipBlanks inner next
  if separated then
    if (← peek inner pos) = some '"' then quotedAt inner pos (othersBehind inner)
    else splitBare (← sliceFrom inner pos)
  else return []

def arguments (inner : String) : Checked (List String) := do
  let lead ← minus inner.utf8ByteSize (byteLength (trimStart inner.toList))
  if (← peek inner lead) = some '"' then quotedAt inner lead (argumentsBehind inner) else splitBare inner

section Quoted

variable {inner : String} {rest : List Char} (h : '"' :: rest <:+ inner.toList)
include h

/-- What a quoted argument is, given what `behind` finds behind its closing quote. -/
theorem quotedAt_offsetOf {behind : Nat → Checked (List String)} {next : List Char → List String}
    (hbehind : ∀ after, '"' :: after <:+ inner.toList → behind (offsetOf inner ('"' :: after)) = pure (next after)) :
    quotedAt inner (offsetOf inner ('"' :: rest)) behind =
      pure (match cut '"' false rest with
        | none => [String.ofList (unescape '"' rest)]
        | some (inside, after) => String.ofList (unescape '"' inside) :: next after) := by
  have hrest := (List.suffix_cons '"' rest).trans h
  rw [quotedAt, offsetOf_add_one h (by decide), nextUnescaped_offsetOf h (by decide)]
  cases hcut : cut '"' false rest with
  | none =>
    simp only [Option.map_none]
    rw [sliceFrom_offsetOf hrest, pure_bind, unescaped, String.toList_ofList]
  | some p =>
    obtain ⟨inside, after⟩ := p
    have hinside := eq_of_cut hcut
    have hafter := (List.suffix_append inside ('"' :: after)).trans (hinside ▸ hrest)
    simp only [Option.map_some]
    rw [hinside] at hrest ⊢
    rw [slice_offsetOf hrest, pure_bind, hbehind after hafter, pure_bind, unescaped, String.toList_ofList]

theorem eat_comma :
    (do eat inner (← skipBlanks inner (seek inner (offsetOf inner ('"' :: rest) + 1))) "," : Checked (Bool × Nat)) =
      pure (landing inner (offsetOf inner (trimStart rest)) (dropStart? ",".toList (trimStart rest))) := by
  have hrest := (List.suffix_cons '"' rest).trans h
  rw [offsetOf_add_one h (by decide), seek_offsetOf, skipBlanks_offsetOf hrest, pure_bind,
    eat_offsetOf ((trimStart_suffix rest).trans hrest)]

omit h in
theorem ne_comma_of_dropStart? {s : List Char} (h : dropStart? ",".toList s = none) (more : List Char) :
    s ≠ ',' :: more := by
  rintro rfl
  exact dropStart?_eq_none.mp h ⟨more, rfl⟩

theorem othersBehind_offsetOf :
    othersBehind inner (offsetOf inner ('"' :: rest)) =
      pure (match trimStart rest with
        | ',' :: others => Tag.splitBare others
        | _ => []) := by
  have hblanks := (trimStart_suffix rest).trans ((List.suffix_cons '"' rest).trans h)
  rw [othersBehind, ← bind_assoc, eat_comma h, pure_bind]
  cases hcomma : dropStart? ",".toList (trimStart rest) with
  | none =>
    simp only [landing, Bool.false_eq_true, if_false]
    split
    · next others hothers => exact absurd hothers (ne_comma_of_dropStart? hcomma others)
    · rfl
  | some others =>
    have hothers : trimStart rest = ',' :: others := dropStart?_eq_some.mp hcomma
    simp only [landing, if_true, hothers]
    rw [sliceFrom_offsetOf ((List.suffix_cons ',' others).trans (hothers ▸ hblanks)), pure_bind, splitBare_ofList]

theorem argumentsBehind_offsetOf :
    argumentsBehind inner (offsetOf inner ('"' :: rest)) =
      pure (match trimStart rest with
        | ',' :: more =>
          match trimStart more with
          | '"' :: more' =>
            match cut '"' false more' with
            | none => [String.ofList (unescape '"' more')]
            | some (second, rest') =>
              String.ofList (unescape '"' second) :: match trimStart rest' with
                | ',' :: others => Tag.splitBare others
                | _ => []
          | others => Tag.splitBare others
        | _ => []) := by
  have hblanks := (trimStart_suffix rest).trans ((List.suffix_cons '"' rest).trans h)
  rw [argumentsBehind, ← bind_assoc, eat_comma h, pure_bind]
  cases hcomma : dropStart? ",".toList (trimStart rest) with
  | none =>
    simp only [landing, Bool.false_eq_true, if_false]
    rw [skipBlanks_offsetOf hblanks, pure_bind]
    split
    · next more hmore => exact absurd hmore (ne_comma_of_dropStart? hcomma more)
    · rfl
  | some more =>
    have hmore : trimStart rest = ',' :: more := dropStart?_eq_some.mp hcomma
    have hbehind : more <:+ inner.toList := (List.suffix_cons ',' more).trans (hmore ▸ hblanks)
    have hpos := (trimStart_suffix more).trans hbehind
    simp only [landing, if_true, hmore]
    rw [skipBlanks_offsetOf hbehind, pure_bind, peek_offsetOf hpos, pure_bind]
    split
    · next hquote =>
      obtain ⟨more', hmore'⟩ := List.head?_eq_some_iff.mp hquote
      rw [hmore'] at hpos ⊢
      exact quotedAt_offsetOf hpos fun after hafter => othersBehind_offsetOf hafter
    · next hquote =>
      rw [sliceFrom_offsetOf hpos, pure_bind, splitBare_ofList]
      split
      · next more' hmore' => simp [hmore'] at hquote
      · rfl

end Quoted

theorem lead_ofList (s : List Char) :
    minus (String.ofList s).utf8ByteSize (byteLength (trimStart (String.ofList s).toList)) =
      pure (offsetOf (String.ofList s) (trimStart s)) := by
  have hle : byteLength (trimStart s) ≤ byteLength s := byteLength_le_of_suffix (trimStart_suffix s)
  rw [offsetOf, utf8ByteSize_ofList, String.toList_ofList, minus_of_le hle]

theorem arguments_ofList (s : List Char) : arguments (String.ofList s) = pure (Tag.arguments s) := by
  have hlead := (trimStart_suffix s).trans (suffix_ofList s)
  rw [arguments, lead_ofList, pure_bind, peek_offsetOf hlead, pure_bind, Tag.arguments]
  split
  · next hquote =>
    obtain ⟨rest, hrest⟩ := List.head?_eq_some_iff.mp hquote
    rw [hrest] at hlead ⊢
    exact quotedAt_offsetOf hlead fun after hafter => argumentsBehind_offsetOf hafter
  · next hquote =>
    split
    · next rest hrest => simp [hrest] at hquote
    · exact splitBare_ofList s

/-- The text behind the bracket at `start` up to the one that closes it, or up to the end. -/
def enclosed (text : String) (start : Nat) : Checked String := do
  match ← matchingClose text start with
  | some close => slice text (start + 1) close
  | none => sliceFrom text (start + 1)

def fallback? (text : String) : Checked (Option String) := do
  let lead ← minus text.utf8ByteSize (byteLength (trimStart text.toList))
  if ← startsWith text lead "nomatch(" then
    return some (← cleaned (← enclosed text (lead + "nomatch".utf8ByteSize)))
  else return none

def callArguments (text : String) : Checked (List String) := do
  if (← peek text 0) = some '(' then
    match ← matchingClose text 0 with
    | none => arguments (← sliceFrom text 1)
    | some close =>
      let inside ← arguments (← slice text 1 close)
      match ← fallback? (← sliceFrom text (close + 1)) with
      | some argument => return inside ++ [fallbackMark, argument]
      | none => return inside
  else return []

theorem enclosed_offsetOf {text : String} {rest : List Char} (h : '(' :: rest <:+ text.toList) :
    enclosed text (offsetOf text ('(' :: rest)) =
      pure (String.ofList (match closing '(' ')' 0 true rest with
        | some (inside, _) => inside
        | none => rest)) := by
  rw [enclosed, matchingClose_parenthesis h, pure_bind]
  cases hclosing : closing '(' ')' 0 true rest with
  | none => exact sliceFrom_behind h (by decide)
  | some p => exact slice_behind h (by decide) (eq_of_closing hclosing)

theorem fallback?_ofList (s : List Char) : fallback? (String.ofList s) = pure (Tag.fallback? s) := by
  have hlead := (trimStart_suffix s).trans (suffix_ofList s)
  rw [fallback?, lead_ofList, pure_bind, startsWith_offsetOf hlead, pure_bind, Tag.fallback?]
  cases hdrop : dropStart? "nomatch(".toList (trimStart s) with
  | none => rfl
  | some rest =>
    have hstart : "nomatch".toList ++ '(' :: rest = trimStart s := (dropStart?_eq_some.mp hdrop).symm
    have hparen : '(' :: rest <:+ (String.ofList s).toList := by
      rw [← hstart] at hlead
      exact (List.suffix_append _ _).trans hlead
    simp only [Option.isSome_some, if_true, Option.map_some]
    rw [← byteLength_toList "nomatch", offsetOf_add hlead hstart, enclosed_offsetOf hparen, pure_bind, cleaned_ofList]
    rfl

theorem callArguments_eq (text : String) : callArguments text = pure (Tag.callArguments text.toList) := by
  have hwhole : text.toList <:+ text.toList := List.suffix_rfl
  have hpeek := peek_offsetOf hwhole
  rw [offsetOf_toList] at hpeek
  rw [callArguments, hpeek, pure_bind]
  split
  · next hopen =>
    obtain ⟨rest, htext⟩ := List.head?_eq_some_iff.mp hopen
    have h : '(' :: rest <:+ text.toList := htext ▸ List.suffix_rfl
    have hzero : offsetOf text ('(' :: rest) = 0 := htext ▸ offsetOf_toList text
    have hfound := matchingClose_parenthesis h
    rw [hzero] at hfound
    rw [hfound, pure_bind, htext, Tag.callArguments]
    cases hclosing : closing '(' ')' 0 true rest with
    | none =>
      have hbehind := sliceFrom_behind h (by decide)
      rw [hzero] at hbehind
      simp only [Option.map_none]
      rw [hbehind, pure_bind, arguments_ofList]
    | some p =>
      obtain ⟨inside, after⟩ := p
      have hinside := eq_of_closing hclosing
      have hslice := slice_behind h (by decide) hinside
      have hafter := sliceFrom_behind (suffix_behind h hinside) (by decide)
      rw [hzero] at hslice
      simp only [Option.map_some]
      rw [hslice, pure_bind, arguments_ofList, pure_bind, hafter, pure_bind, fallback?_ofList, pure_bind]
      cases Tag.fallback? after <;> simp
  · next hopen =>
    rw [Tag.callArguments]
    intro rest htext
    exact hopen (by rw [htext, List.head?_cons])

def regexAt (text : String) (slash : Nat) : Checked Invocation := do
  return {
    name := trimmed (← slice text 0 slash)
    arguments := [text]
    rawArguments := none
    form := .regex
    text := text }

def callAt (text : String) (paren : Nat) : Checked Invocation := do
  return {
    name := trimmed (← slice text 0 paren)
    arguments := ← callArguments (← sliceFrom text paren)
    rawArguments := some (← enclosed text paren)
    form := .call
    text := text }

def invocation (raw : String) : Checked Invocation := do
  let text := trimmed raw
  let paren ← find text 0 '('
  let slash ← find text 0 '/'
  match paren, slash with
  | some paren, some slash => if slash < paren then regexAt text slash else callAt text paren
  | some paren, none => callAt text paren
  | none, some slash => regexAt text slash
  | none, none => return { name := text, arguments := [text], rawArguments := none, form := .bare, text := text }

theorem splitHead_eq {s head tail : List Char} (h : Invocation.splitHead s = (head, tail)) :
    s = head ++ tail ∧ '(' ∉ head ∧ '/' ∉ head ∧ ∀ c ∈ tail.head?, c = '(' ∨ c = '/' := by
  rw [Invocation.splitHead, List.span_eq_takeWhile_dropWhile] at h
  obtain ⟨rfl, rfl⟩ := Prod.mk.inj h
  have hhead {c : Char} (hc : c = '(' ∨ c = '/') : c ∉ s.takeWhile fun c => decide (c ≠ '(' ∧ c ≠ '/') := by
    intro hmem
    have hboth := List.mem_takeWhile_imp hmem
    rcases hc with rfl | rfl <;> simp at hboth
  refine ⟨List.takeWhile_append_dropWhile.symm, hhead (.inl rfl), hhead (.inr rfl), fun c hc => ?_⟩
  have hstop := List.head?_dropWhile_not (fun c => decide (c ≠ '(' ∧ c ≠ '/')) s
  rw [Option.mem_def.mp hc] at hstop
  simpa [or_iff_not_imp_left] using hstop

section Marks

variable {text : String} {head rest : List Char}

theorem regexAt_offsetOf (htext : text.toList = head ++ '/' :: rest) :
    regexAt text (offsetOf text ('/' :: rest)) =
      pure { name := String.ofList (trim head), arguments := [text], rawArguments := none, form := .regex, text } := by
  rw [regexAt, slice_front htext, pure_bind, trimmed_ofList]

theorem callAt_offsetOf (htext : text.toList = head ++ '(' :: rest) :
    callAt text (offsetOf text ('(' :: rest)) =
      pure {
        name := String.ofList (trim head)
        arguments := Tag.callArguments ('(' :: rest)
        rawArguments := some <| String.ofList <| match closing '(' ')' 0 true rest with
          | some (inside, _) => inside
          | none => rest
        form := .call
        text } := by
  have h : '(' :: rest <:+ text.toList := ⟨head, htext.symm⟩
  rw [callAt, slice_front htext, pure_bind, sliceFrom_offsetOf h, pure_bind, callArguments_eq, pure_bind,
    enclosed_offsetOf h, pure_bind, trimmed_ofList, String.toList_ofList]

end Marks

theorem invocation_eq (raw : String) : invocation raw = pure (Invocation.parse raw) := by
  obtain ⟨⟨head, tail⟩, hsplit⟩ : ∃ p, Invocation.splitHead (trim raw.toList) = p := ⟨_, rfl⟩
  obtain ⟨htrim, hparen, hslash, hmark⟩ := splitHead_eq hsplit
  have htext : (trimmed raw).toList = head ++ tail := by rw [trimmed, String.toList_ofList, htrim]
  have h : head ++ tail <:+ (trimmed raw).toList := htext ▸ List.suffix_rfl
  have hzero : offsetOf (trimmed raw) (head ++ tail) = 0 := htext ▸ offsetOf_toList (trimmed raw)
  rw [invocation, Invocation.parse, Invocation.ofChars, hsplit]
  rcases tail with _ | ⟨c, rest⟩
  · have hno {c : Char} (hc : c ∉ head) : find (trimmed raw) 0 c = pure none := by
      rw [← hzero, find_of_notMem h (by simpa using hc)]
    rw [hno hparen, pure_bind, hno hslash, pure_bind]
    rfl
  · rcases hmark c rfl with rfl | rfl
    · obtain ⟨slash, hfind, hbehind⟩ := find_behind h hslash (by decide)
      have hfirst := find_offsetOf h hparen
      rw [hzero] at hfind hfirst
      rw [hfirst, pure_bind, hfind, pure_bind]
      cases slash with
      | none => exact callAt_offsetOf htext
      | some slash =>
        have hlt := hbehind slash rfl
        simp only [if_neg hlt.le.not_gt]
        exact callAt_offsetOf htext
    · obtain ⟨paren, hfind, hbehind⟩ := find_behind h hparen (by decide)
      have hfirst := find_offsetOf h hslash
      rw [hzero] at hfind hfirst
      rw [hfind, pure_bind, hfirst, pure_bind]
      cases paren with
      | none => exact regexAt_offsetOf htext
      | some paren =>
        simp only [if_pos (hbehind paren rfl)]
        exact regexAt_offsetOf htext

end Stencil.ByOffset
