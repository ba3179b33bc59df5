import Stencil.Tag.Arguments

/-!
# Filter chains

A chain is a list of filters separated by `|`. Each filter has a shape, in which a `|` does not separate:
the body of a substitution, the argument list of an `onmatch` with its `nomatch` clause, or a name with a
bracketed argument list. Loose text may follow the shape, up to the next unescaped `|`.
-/
namespace Stencil.Tag

open Stencil.Text

def isNameChar (c : Char) : Bool := c.isAlphanum || c == '_' || c == '.' || c == '-'

/-- What follows a substitution, given the text after its first slash. Without a third slash it ends at
the second one. -/
def afterSubstitution? (s : List Char) : Option (List Char) :=
  (cut '/' false s).map fun (_, rest) =>
    match cut '/' false rest with
    | none => rest
    | some (_, tail) => tail.dropWhile Cursor.isFlag

/-- What belongs to the character `c` of an output, and what follows. -/
def outputSpan (c : Char) (rest : List Char) : List Char × List Char :=
  if c = '\\' then (rest.take 1, rest.drop 1)
  else if c = '"' then (through? '"' rest).getD ([], rest)
  else (throughBracket? c rest).getD ([], rest)

theorem outputSpan_append (c : Char) (rest : List Char) :
    (outputSpan c rest).1 ++ (outputSpan c rest).2 = rest := by
  unfold outputSpan
  split
  · exact List.take_append_drop 1 rest
  split
  · cases h : through? '"' rest with
    | none => simp
    | some p => simp [← eq_of_through? h]
  · cases h : throughBracket? c rest with
    | none => simp
    | some p => simp [← eq_of_throughBracket? h]

theorem outputSpan_suffix (c : Char) (rest : List Char) : (outputSpan c rest).2 <:+ rest :=
  ⟨_, outputSpan_append c rest⟩

def afterOutput : List Char → List Char
  | [] => []
  | c :: rest =>
    if c = ',' ∨ c = ')' then c :: rest
    else afterOutput (outputSpan c rest).2
termination_by s => s.length
decreasing_by
  have := (outputSpan_suffix c rest).length_le
  simp
  omega

theorem afterOutput_suffix (s : List Char) : afterOutput s <:+ s := by
  fun_induction afterOutput s with
  | case1 => exact List.suffix_rfl
  | case2 => exact List.suffix_rfl
  | case3 c rest _ ih =>
    exact (ih.trans (outputSpan_suffix c rest)).trans (List.suffix_cons c rest)

theorem trimStart_suffix (s : List Char) : trimStart s <:+ s := List.dropWhile_suffix _

/-- What follows the test that begins a pair, blanks skipped; `none` if it never ends. A test is a
regular-expression literal or, failing that, text up to the next comma or parenthesis. -/
def afterTest? (s : List Char) : Option (List Char) :=
  match s with
  | '/' :: rest =>
    (through? '/' rest).map fun (_, tail) => trimStart (tail.dropWhile Cursor.isFlag)
  | _ => some (trimStart (afterOutput s))

theorem afterTest?_suffix {s rest : List Char} (h : afterTest? s = some rest) : rest <:+ s := by
  unfold afterTest? at h
  split at h
  · next tail =>
    obtain ⟨⟨t, u⟩, ht, rfl⟩ := Option.map_eq_some_iff.1 h
    have : u <:+ tail := ⟨t, (eq_of_through? ht).symm⟩
    exact (((trimStart_suffix _).trans (List.dropWhile_suffix _)).trans this).trans
      (List.suffix_cons _ _)
  · cases h
    exact (trimStart_suffix _).trans (afterOutput_suffix s)

def afterPairs? (s : List Char) : Option (List Char) :=
  match _hs : trimStart s with
  | [] => none
  | c :: tail =>
    if c = ')' then some tail
    else
      match _ht : afterTest? (c :: tail) with
      | none => none
      | some [] => none
      | some (d :: rest) =>
        if d = ')' then some rest
        else if d = ',' then
          match _ho : afterOutput rest with
          | [] => none
          | e :: rest' => if e = ')' then some rest' else afterPairs? rest'
        else afterPairs? (afterOutput (outputSpan d rest).2)
termination_by s.length
decreasing_by
  · have h1 := (trimStart_suffix s).length_le
    have h2 := (afterTest?_suffix _ht).length_le
    have h3 := (afterOutput_suffix rest).length_le
    rw [_hs] at h1
    rw [_ho] at h3
    simp at h1 h2 h3
    omega
  · have h1 := (trimStart_suffix s).length_le
    have h2 := (afterTest?_suffix _ht).length_le
    have h3 := ((afterOutput_suffix _).trans (outputSpan_suffix d rest)).length_le
    rw [_hs] at h1
    simp at h1 h2 h3
    omega

/-- What follows an `onmatch`, given the text after that word. An argument list or a `nomatch` clause that
is never closed takes everything. -/
def afterMatchList (s : List Char) : List Char :=
  match trimStart s with
  | '(' :: inside =>
    match afterPairs? inside with
    | none => []
    | some rest =>
      match dropStart? "nomatch(".toList (trimStart rest) with
      | none => rest
      | some clause =>
        match closing '(' ')' 0 true clause with
        | some (_, tail) => tail
        | none => []
  | tail => tail

def afterShape (s : List Char) : List Char :=
  let start := trimStart s
  match start with
  | '/' :: rest => (afterSubstitution? rest).getD start
  | 's' :: '/' :: rest => (afterSubstitution? rest).getD start
  | _ =>
    match dropStart? "onmatch".toList start with
    | some rest => afterMatchList rest
    | none =>
      match start.dropWhile isNameChar with
      | '(' :: rest =>
        match closing '(' ')' 0 true rest with
        | some (_, tail) => tail
        | none => '(' :: rest
      | tail => tail

theorem suffix_of_afterSubstitution? {s rest : List Char} (h : afterSubstitution? s = some rest) :
    rest <:+ s := by
  obtain ⟨⟨pattern, mid⟩, hc, rfl⟩ := Option.map_eq_some_iff.1 h
  have hmid : mid <:+ s := ⟨pattern ++ ['/'], by simp [eq_of_cut hc]⟩
  refine List.IsSuffix.trans ?_ hmid
  dsimp only
  split
  · exact List.suffix_rfl
  · next replacement tail ht =>
    exact (List.dropWhile_suffix _).trans ⟨replacement ++ ['/'], by simp [eq_of_cut ht]⟩

/-- The pairs of an `onmatch` end behind a closing parenthesis. -/
theorem paren_suffix_of_afterPairs? {s rest : List Char} (h : afterPairs? s = some rest) :
    ')' :: rest <:+ s := by
  have second {s after : List Char} {c : Char} {tail : List Char} (hs : trimStart s = c :: tail)
      (ht : afterTest? (c :: tail) = some after) : after <:+ s :=
    (afterTest?_suffix ht).trans (hs ▸ trimStart_suffix s)
  have third {s tail after : List Char} {c d : Char} (hs : trimStart s = c :: tail)
      (ht : afterTest? (c :: tail) = some (d :: after)) : afterOutput after <:+ s :=
    ((afterOutput_suffix after).trans (List.suffix_cons d after)).trans (second hs ht)
  fun_induction afterPairs? s with
  | case1 => simp at h
  | case2 s tail hs => exact Option.some.inj h ▸ hs ▸ trimStart_suffix s
  | case3 => simp at h
  | case4 => simp at h
  | case5 s c tail hs _ after ht => exact Option.some.inj h ▸ second hs ht
  | case6 => simp at h
  | case7 s c tail hs _ after after' ht _ ho => exact Option.some.inj h ▸ ho ▸ third hs ht
  | case8 s c tail hs _ after e after' ho _ ht _ ih =>
    exact ((ih h).trans (List.suffix_cons e after')).trans (ho ▸ third hs ht)
  | case9 s c tail hs _ d after ht _ _ ih =>
    exact (((ih h).trans (afterOutput_suffix _)).trans (outputSpan_suffix d after)).trans
      ((List.suffix_cons d after).trans (second hs ht))

theorem suffix_of_afterPairs? {s rest : List Char} (h : afterPairs? s = some rest) : rest <:+ s :=
  (List.suffix_cons ')' rest).trans (paren_suffix_of_afterPairs? h)

theorem afterClosing_suffix {opener closer : Char} {depth : Nat} {argStart : Bool}
    {s inside after : List Char}
    (h : closing opener closer depth argStart s = some (inside, after)) : after <:+ s :=
  ⟨inside ++ [closer], by simp [eq_of_closing h]⟩

theorem afterMatchList_suffix (s : List Char) : afterMatchList s <:+ s := by
  unfold afterMatchList
  split
  · next inside hs =>
    have hin : inside <:+ s := (hs ▸ List.suffix_cons '(' inside).trans (trimStart_suffix s)
    split
    · exact List.nil_suffix
    · next rest hp =>
      have hrest := (suffix_of_afterPairs? hp).trans hin
      split
      · exact hrest
      · next clause hd =>
        have hclause : clause <:+ s :=
          (show clause <:+ trimStart rest from ⟨_, (dropStart?_eq_some.1 hd).symm⟩).trans
            ((trimStart_suffix rest).trans hrest)
        split
        · next htail => exact (afterClosing_suffix htail).trans hclause
        · exact List.nil_suffix
  · exact trimStart_suffix s

theorem afterShape_suffix (s : List Char) : afterShape s <:+ s := by
  have key : ∀ rest, rest <:+ trimStart s → (afterSubstitution? rest).getD (trimStart s) <:+ s := by
    intro rest hr
    cases h : afterSubstitution? rest with
    | none => exact trimStart_suffix s
    | some tail => exact ((suffix_of_afterSubstitution? h).trans hr).trans (trimStart_suffix s)
  unfold afterShape
  dsimp only
  split
  · next rest hs => exact key rest (hs ▸ List.suffix_cons _ _)
  · next rest hs =>
    exact key rest (hs ▸ (List.suffix_cons _ _).trans (List.suffix_cons _ _))
  · split
    · next rest hd =>
      exact ((afterMatchList_suffix rest).trans ⟨_, (dropStart?_eq_some.1 hd).symm⟩).trans
        (trimStart_suffix s)
    · have hname := (List.dropWhile_suffix isNameChar (l := trimStart s)).trans (trimStart_suffix s)
      split
      · next rest hr =>
        have hrest : rest <:+ s := (hr ▸ List.suffix_cons _ _).trans hname
        split
        · next htail => exact (afterClosing_suffix htail).trans hrest
        · exact hr ▸ hname
      · exact hname

/-- Splits a chain at the `|` that ends its first filter: the filter, blanks and all, and the rest of the
chain. The flag tells whether the first character is escaped. -/
def atBoundary? (escaped : Bool) (s : List Char) : Option (List Char × List Char) :=
  let rest := afterShape s
  (cut '|' (escaped && rest.length == s.length) rest).map fun (loose, after) =>
    (s.take (s.length - rest.length) ++ loose, after)

theorem take_append_afterShape (s : List Char) :
    s.take (s.length - (afterShape s).length) ++ afterShape s = s := by
  obtain ⟨t, ht⟩ := afterShape_suffix s
  have hlen : s.length - (afterShape s).length = t.length := by
    have := congrArg List.length ht
    simp at this
    omega
  have htake : s.take t.length = t := by
    rw [← ht]
    simp
  rw [hlen, htake, ht]

theorem eq_of_atBoundary? {escaped : Bool} {s filter after : List Char}
    (h : atBoundary? escaped s = some (filter, after)) : s = filter ++ '|' :: after := by
  obtain ⟨⟨loose, a⟩, hc, hEq⟩ := Option.map_eq_some_iff.1 h
  simp only [Prod.mk.injEq] at hEq
  obtain ⟨rfl, rfl⟩ := hEq
  rw [List.append_assoc, ← eq_of_cut hc, take_append_afterShape]

theorem length_lt_of_atBoundary? {escaped : Bool} {s filter after : List Char}
    (h : atBoundary? escaped s = some (filter, after)) : after.length < s.length := by
  rw [eq_of_atBoundary? h]
  simp
  omega

def segments (s : List Char) : List (List Char) :=
  match _h : atBoundary? false s with
  | none => [s]
  | some (filter, rest) => filter :: segments rest
termination_by s.length
decreasing_by exact length_lt_of_atBoundary? _h

def filters (chain : String) : List String :=
  (segments chain.toList).map fun s => String.ofList (trim s)

def firstFilter (chain : String) : String × Option String :=
  match atBoundary? false chain.toList with
  | some (filter, rest) => (String.ofList (trim filter), some (String.ofList rest))
  | none => (trimmed chain, none)

/-- Byte offset of the end of the shape of the filter that begins at the offset `start`. -/
def shapeEnd (chain : String) (start : Nat) : Nat :=
  byteLength chain.toList - byteLength (afterShape (Cursor.atByte chain.toList start).ahead)

def boundary? (chain : String) (start : Nat) : Option Nat :=
  let k := Cursor.atByte chain.toList start
  (atBoundary? (escapedAfter k.behind) k.ahead).map fun (filter, _) => k.pos + byteLength filter

end Stencil.Tag
