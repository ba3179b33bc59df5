import Stencil.Proofs.ByOffset.Moves
import Stencil.Proofs.Decomposition

/-!
# Shapes by byte offsets

The end of the shape of a filter: behind a substitution, behind the pairs of an `onmatch` and its `nomatch` clause, or
behind a name and its argument list. Each reader ends where the reader of the same name leaves the rest of the text.
-/
namespace Stencil.ByOffset

open Stencil.Text Stencil.Tag

/-- Goes on where a move has led, or past one character if it has failed. -/
def orAdvance (text : String) : Bool × Nat → Checked Nat
  | (moved, next) => if moved then pure next else advance text next 1

def valueRound (text : String) (pos : Nat) (_ : Unit) : Checked (Round Unit Nat) := do
  match ← peek text pos with
  | none => return .done pos
  | some c =>
    if c = ',' ∨ c = ')' then return .done pos
    else if c = '\\' then return .again (← advance text pos 2) ()
    else if c = '"' then return .again (← orAdvance text (← skipQuoted text pos)) ()
    else if c = '(' ∨ c = '\x7b' ∨ c = '[' then return .again (← orAdvance text (← skipBalanced text pos)) ()
    else return .again (← advance text pos 1) ()

/-- The offset of the next comma or closing parenthesis that does not belong to an output. -/
def valueEnd (text : String) (pos : Nat) : Checked Nat := loop text (valueRound text) pos ()

theorem closerOf?_eq_none {c : Char} (h : ¬(c = '(' ∨ c = '\x7b' ∨ c = '[')) : closerOf? c = none := by
  simp only [not_or] at h
  unfold closerOf?
  split <;> simp_all

section Values

variable {text : String} {c : Char} {rest : List Char} (h : c :: rest <:+ text.toList)
include h

theorem orAdvance_landing (found : Option (List Char × List Char)) :
    orAdvance text (landing text (offsetOf text (c :: rest)) (found.map Prod.snd)) =
      pure (offsetOf text (found.getD ([], rest)).2) := by
  cases found with
  | none => exact advance_offsetOf h 1
  | some p => rfl

theorem valueRound_cons (hc : ¬(c = ',' ∨ c = ')')) :
    valueRound text (offsetOf text (c :: rest)) () = pure (.again (offsetOf text (outputSpan c rest).2) ()) := by
  rw [valueRound, peek_offsetOf h, pure_bind, List.head?_cons]
  simp only [if_neg hc, outputSpan]
  split
  · rw [advance_offsetOf h, pure_bind]
    rfl
  split
  · next hq => rw [skipQuoted, skipMarked_mark h hq (by decide) (by decide), pure_bind, orAdvance_landing h, pure_bind]
  split
  · rw [skipBalanced_offsetOf h, pure_bind, orAdvance_landing h, pure_bind]
  · next hkind =>
    rw [advance_offsetOf h, pure_bind, throughBracket?, closerOf?_eq_none hkind]
    rfl

end Values

theorem valueEnd_offsetOf {text : String} {rest : List Char} (h : rest <:+ text.toList) :
    valueEnd text (offsetOf text rest) = pure (offsetOf text (afterOutput rest)) := by
  rw [valueEnd]
  fun_induction afterOutput rest with
  | case1 =>
    refine loop_done ?_
    rw [valueRound, peek_offsetOf h, pure_bind]
    rfl
  | case2 c rest hc =>
    refine loop_done ?_
    rw [valueRound, peek_offsetOf h, pure_bind, List.head?_cons]
    exact if_pos hc
  | case3 c rest hc ih =>
    have hspan := outputSpan_suffix c rest
    rw [loop_past (valueRound_cons h hc) h List.suffix_rfl hspan]
    exact ih (hspan.trans ((List.suffix_cons c rest).trans h))

/-- The end of the test that begins with `c`, a regular-expression literal or an output, and whether it ends at all. -/
def testEnd (text : String) (pos : Nat) (c : Char) : Checked (Bool × Nat) :=
  if c = '/' then skipRegexLiteral text pos else return (true, ← valueEnd text pos)

/-- The rest of a pair behind its test. The loop over the pairs ends behind the parenthesis that closes the list; at the
end of the text there is none. -/
def outputRound (text : String) (pos : Nat) : Checked (Round Unit (Option Nat)) := do
  match ← peek text pos with
  | none => return .done none
  | some d =>
    if d = ')' then return .done (some (← advance text pos 1))
    else if d = ',' then
      let output ← valueEnd text (← advance text pos 1)
      match ← peek text output with
      | none => return .done none
      | some e =>
        if e = ')' then return .done (some (← advance text output 1))
        else if e = ',' then return .again (← advance text output 1) ()
        else return .done none
    else return .again (← valueEnd text pos) ()

def pairRound (text : String) (start : Nat) (_ : Unit) : Checked (Round Unit (Option Nat)) := do
  let pos ← skipBlanks text start
  match ← peek text pos with
  | none => return .done none
  | some c =>
    if c = ')' then return .done (some (← advance text pos 1))
    else
      let (tested, next) ← testEnd text pos c
      if tested then outputRound text (← skipBlanks text next) else return .done none

def pairsEnd (text : String) (pos : Nat) : Checked (Option Nat) := loop text (pairRound text) pos ()

def testRest? (c : Char) (rest : List Char) : Option (List Char) :=
  if c = '/' then (through? '/' rest).map fun (_, after) => after.dropWhile Cursor.isFlag
  else some (afterOutput (c :: rest))

theorem afterTest?_cons (c : Char) (rest : List Char) : afterTest? (c :: rest) = (testRest? c rest).map trimStart := by
  rw [testRest?]
  split
  · next hc =>
    subst hc
    rw [afterTest?, Option.map_map]
    rfl
  · next hc =>
    rw [afterTest?, Option.map_some]
    rintro tail ⟨rfl, rfl⟩
    exact hc rfl

theorem testRest?_suffix {c : Char} {rest after : List Char} (h : testRest? c rest = some after) :
    after <:+ c :: rest := by
  rw [testRest?] at h
  split at h
  · obtain ⟨⟨taken, tail⟩, hthrough, rfl⟩ := Option.map_eq_some_iff.mp h
    have htail : tail <:+ rest := ⟨taken, (eq_of_through? hthrough).symm⟩
    exact (List.dropWhile_suffix _).trans (htail.trans (List.suffix_cons c rest))
  · obtain rfl := Option.some.inj h
    exact afterOutput_suffix (c :: rest)

theorem testEnd_offsetOf {text : String} {c : Char} {rest : List Char} (h : c :: rest <:+ text.toList) :
    testEnd text (offsetOf text (c :: rest)) c =
      pure (landing text (offsetOf text (c :: rest)) (testRest? c rest)) := by
  rw [testEnd, testRest?]
  split
  · next hc => exact skipRegexLiteral_slash h hc
  · rw [valueEnd_offsetOf h]
    rfl

theorem head_afterOutput {s : List Char} : ∀ c ∈ (afterOutput s).head?, c = ',' ∨ c = ')' := by
  fun_induction afterOutput s with
  | case1 => simp
  | case2 c rest hc => simpa using hc
  | case3 c rest hc ih => exact ih

section Pairs

variable {text : String} {s rest : List Char} {c d : Char} (h : s <:+ text.toList)
include h

theorem outputRound_nil (hs : s = []) : outputRound text (offsetOf text s) = pure (.done none) := by
  rw [outputRound, peek_offsetOf h, pure_bind, hs]
  rfl

theorem outputRound_paren (hs : s = ')' :: rest) :
    outputRound text (offsetOf text s) = pure (.done (some (offsetOf text rest))) := by
  rw [outputRound, peek_offsetOf h, pure_bind, advance_offsetOf h, hs]
  rfl

theorem outputRound_comma (hs : s = ',' :: rest) :
    outputRound text (offsetOf text s) =
      match afterOutput rest with
      | [] => pure (.done none)
      | e :: after =>
        pure (if e = ')' then .done (some (offsetOf text after)) else .again (offsetOf text after) ()) := by
  subst hs
  have hrest := (List.suffix_cons ',' rest).trans h
  have hafter := (afterOutput_suffix rest).trans hrest
  rw [outputRound, peek_offsetOf h, pure_bind, advance_offsetOf h]
  simp only [List.head?_cons, pure_bind, List.drop_succ_cons, List.drop_zero, valueEnd_offsetOf hrest]
  rw [peek_offsetOf hafter, pure_bind, advance_offsetOf hafter]
  have hhead := head_afterOutput (s := rest)
  cases hout : afterOutput rest with
  | nil => rfl
  | cons e after =>
    rcases hhead e (by simp [hout]) with rfl | rfl <;> rfl

theorem outputRound_loose (hs : s = d :: rest) (hd : d ≠ ')' ∧ d ≠ ',') :
    outputRound text (offsetOf text s) = pure (.again (offsetOf text (afterOutput (outputSpan d rest).2)) ()) := by
  rw [outputRound, peek_offsetOf h, pure_bind, valueEnd_offsetOf h, hs, afterOutput, if_neg (by simp [hd])]
  simp [hd]

theorem pairRound_nil (hs : trimStart s = []) : pairRound text (offsetOf text s) () = pure (.done none) := by
  rw [pairRound, skipBlanks_offsetOf h, pure_bind, peek_offsetOf ((trimStart_suffix s).trans h), pure_bind, hs]
  rfl

theorem pairRound_paren (hs : trimStart s = ')' :: rest) :
    pairRound text (offsetOf text s) () = pure (.done (some (offsetOf text rest))) := by
  have hstart := (trimStart_suffix s).trans h
  rw [pairRound, skipBlanks_offsetOf h, pure_bind, peek_offsetOf hstart, pure_bind, advance_offsetOf hstart, hs]
  rfl

theorem pairRound_test (hs : trimStart s = c :: rest) (hc : c ≠ ')') :
    pairRound text (offsetOf text s) () =
      match afterTest? (c :: rest) with
      | none => pure (.done none)
      | some after => outputRound text (offsetOf text after) := by
  have hstart := (trimStart_suffix s).trans h
  rw [pairRound, skipBlanks_offsetOf h, pure_bind, peek_offsetOf hstart, pure_bind, hs, List.head?_cons]
  rw [hs] at hstart
  simp only [if_neg hc]
  rw [testEnd_offsetOf hstart, pure_bind, afterTest?_cons]
  cases htest : testRest? c rest with
  | none => rfl
  | some after =>
    have hafter := testRest?_suffix htest
    simp only [landing, if_true, Option.map_some]
    rw [skipBlanks_offsetOf (hafter.trans hstart), pure_bind]

theorem pairsEnd_offsetOf : pairsEnd text (offsetOf text s) = pure ((afterPairs? s).map (offsetOf text)) := by
  rw [pairsEnd]
  have hbehind {s after : List Char} {c : Char} {tail : List Char} (hs : trimStart s = c :: tail)
      (ht : afterTest? (c :: tail) = some after) : after <:+ s :=
    (afterTest?_suffix ht).trans (hs ▸ trimStart_suffix s)
  fun_induction afterPairs? s with
  | case1 s hs => exact loop_done (pairRound_nil h hs)
  | case2 s tail hs => exact loop_done (pairRound_paren h hs)
  | case3 s c tail hs hc ht =>
    refine loop_done ?_
    rw [pairRound_test h hs hc, ht]
    rfl
  | case4 s c tail hs hc ht =>
    refine loop_done ?_
    have hnil : [] <:+ text.toList := List.nil_suffix
    rw [pairRound_test h hs hc, ht]
    exact outputRound_nil hnil rfl
  | case5 s c tail hs hc after ht =>
    refine loop_done ?_
    rw [pairRound_test h hs hc, ht]
    exact outputRound_paren ((hbehind hs ht).trans h) rfl
  | case6 s c tail hs hc after ho ht =>
    refine loop_done ?_
    rw [pairRound_test h hs hc, ht]
    simp only
    rw [outputRound_comma ((hbehind hs ht).trans h) rfl, ho]
    rfl
  | case7 s c tail hs hc after after' ht hne ho =>
    refine loop_done ?_
    rw [pairRound_test h hs hc, ht]
    simp only
    rw [outputRound_comma ((hbehind hs ht).trans h) rfl, ho]
    rfl
  | case8 s c tail hs hc after e after' ho he ht hne ih =>
    have hround : pairRound text (offsetOf text s) () = pure (.again (offsetOf text after') ()) := by
      rw [pairRound_test h hs hc, ht]
      simp only
      rw [outputRound_comma ((hbehind hs ht).trans h) rfl, ho]
      exact congrArg pure (if_neg he)
    have hafter' : after' <:+ after := (List.suffix_cons e after').trans (ho ▸ afterOutput_suffix after)
    rw [loop_past hround h (hbehind hs ht) hafter']
    exact ih (hafter'.trans ((List.suffix_cons _ after).trans ((hbehind hs ht).trans h)))
  | case9 s c tail hs hc d after ht hparen hcomma ih =>
    have hround : pairRound text (offsetOf text s) () =
        pure (.again (offsetOf text (afterOutput (outputSpan d after).2)) ()) := by
      rw [pairRound_test h hs hc, ht]
      exact outputRound_loose ((hbehind hs ht).trans h) rfl ⟨hparen, hcomma⟩
    have hrest := (afterOutput_suffix _).trans (outputSpan_suffix d after)
    rw [loop_past hround h (hbehind hs ht) hrest]
    exact ih (hrest.trans ((List.suffix_cons d after).trans ((hbehind hs ht).trans h)))

end Pairs

def substitutionEnd (text : String) (slash : Nat) : Checked (Option Nat) :=
  match nextUnescaped '/' text (slash + 1) with
  | none => return none
  | some second =>
    match nextUnescaped '/' text (second + 1) with
    | none => return some (second + 1)
    | some third => return some (← skipFlags text (seek text (third + 1)))

def clauseEnd (text : String) (pos : Nat) : Checked (Option Nat) := do
  let start ← skipBlanks text pos
  if ← startsWith text start "nomatch(" then
    let paren ← advance text start "nomatch".length
    let (moved, next) ← skipBalanced text paren
    return some (if moved then next else text.utf8ByteSize)
  else return none

def matchListEnd (text : String) (pos : Nat) : Checked Nat := do
  let (_, word) ← eat text pos "onmatch"
  let blanks ← skipBlanks text word
  let (opened, inside) ← eat text blanks "("
  if opened then
    match ← pairsEnd text inside with
    | none => return text.utf8ByteSize
    | some closed => return (← clauseEnd text closed).getD closed
  else return inside

def nameEnd (text : String) (pos : Nat) : Checked Nat := do
  let paren := seek text (pos + runLength isNameChar (← ahead text pos))
  if (← peek text paren) = some '(' then
    let (moved, next) ← skipBalanced text paren
    return if moved then next else paren
  else return paren

def shapeEnd (text : String) (start : Nat) : Checked Nat := do
  let pos ← skipBlanks text (seek text start)
  let first ← peek text pos
  if (← startsWith text pos "s/") ∨ first = some '/' then
    return (← substitutionEnd text (if first = some '/' then pos else pos + 1)).getD pos
  else if ← startsWith text pos "onmatch" then matchListEnd text pos
  else nameEnd text pos

section Shape

variable {text : String} {c : Char} {s rest : List Char}

theorem substitutionEnd_offsetOf (h : '/' :: rest <:+ text.toList) :
    substitutionEnd text (offsetOf text ('/' :: rest)) = pure ((afterSubstitution? rest).map (offsetOf text)) := by
  have hrest := (List.suffix_cons '/' rest).trans h
  rw [substitutionEnd, offsetOf_add_one h (by decide), nextUnescaped_offsetOf h (by decide), afterSubstitution?]
  cases hsecond : cut '/' false rest with
  | none => rfl
  | some p =>
    have hmid : '/' :: p.2 <:+ text.toList := .trans ⟨p.1, (eq_of_cut hsecond).symm⟩ hrest
    simp only [Option.map_some]
    rw [offsetOf_add_one hmid (by decide), nextUnescaped_offsetOf hmid (by decide)]
    cases hthird : cut '/' false p.2 with
    | none => rfl
    | some q =>
      have htail : '/' :: q.2 <:+ text.toList :=
        .trans ⟨q.1, (eq_of_cut hthird).symm⟩ ((List.suffix_cons '/' p.2).trans hmid)
      simp only [Option.map_some]
      rw [offsetOf_add_one htail (by decide), seek_offsetOf,
        skipFlags_offsetOf ((List.suffix_cons '/' q.2).trans htail)]
      rfl

theorem skipBalanced_paren (h : '(' :: rest <:+ text.toList) :
    skipBalanced text (offsetOf text ('(' :: rest)) =
      pure (landing text (offsetOf text ('(' :: rest)) ((closing '(' ')' 0 true rest).map Prod.snd)) := by
  rw [skipBalanced_offsetOf h, throughBracket?, closerOf?_paren, Option.bind_some, Option.map_map]
  rfl

theorem clauseEnd_offsetOf (h : s <:+ text.toList) :
    clauseEnd text (offsetOf text s) =
      pure ((dropStart? "nomatch(".toList (trimStart s)).map fun clause =>
        offsetOf text (((closing '(' ')' 0 true clause).map Prod.snd).getD [])) := by
  have hstart := (trimStart_suffix s).trans h
  rw [clauseEnd, skipBlanks_offsetOf h, pure_bind, startsWith_offsetOf hstart, pure_bind, advance_offsetOf hstart]
  cases hclause : dropStart? "nomatch(".toList (trimStart s) with
  | none => rfl
  | some clause =>
    have hparen : (trimStart s).drop "nomatch".length = '(' :: clause := by
      rw [dropStart?_eq_some.mp hclause]
      rfl
    have hrest := (List.drop_suffix "nomatch".length (trimStart s)).trans hstart
    rw [hparen] at hrest ⊢
    simp only [Option.isSome_some, if_true, pure_bind, Option.map_some]
    rw [skipBalanced_paren hrest, pure_bind]
    cases (closing '(' ')' 0 true clause).map Prod.snd with
    | none =>
      rw [Option.getD_none, offsetOf_nil]
      rfl
    | some tail => rfl

theorem afterMatchList_paren {inside : List Char} (hs : trimStart s = '(' :: inside) :
    afterMatchList s =
      match afterPairs? inside with
      | none => []
      | some closed =>
        ((dropStart? "nomatch(".toList (trimStart closed)).map fun clause =>
          ((closing '(' ')' 0 true clause).map Prod.snd).getD []).getD closed := by
  rw [afterMatchList, hs]
  cases hpairs : afterPairs? inside with
  | none => simp only [hpairs]
  | some closed =>
    cases hclause : dropStart? "nomatch(".toList (trimStart closed) with
    | none => simp only [hpairs, hclause, Option.map_none, Option.getD_none]
    | some clause =>
      simp only [hpairs, hclause, Option.map_some, Option.getD_some]
      cases closing '(' ')' 0 true clause <;> rfl

theorem afterMatchList_of_ne (hs : (trimStart s).head? ≠ some '(') : afterMatchList s = trimStart s := by
  rw [afterMatchList]
  split
  · next heq => simp [heq] at hs
  · rfl

theorem matchListEnd_offsetOf (h : s <:+ text.toList) (hs : s = "onmatch".toList ++ rest) :
    matchListEnd text (offsetOf text s) = pure (offsetOf text (afterMatchList rest)) := by
  have hword : dropStart? "onmatch".toList s = some rest := dropStart?_eq_some.mpr hs
  have hrest : rest <:+ text.toList := .trans ⟨_, hs.symm⟩ h
  have hblanks := (trimStart_suffix rest).trans hrest
  rw [matchListEnd, eat_offsetOf h, pure_bind, hword]
  simp only [landing]
  rw [skipBlanks_offsetOf hrest, pure_bind, eat_offsetOf hblanks, pure_bind]
  cases hopen : dropStart? "(".toList (trimStart rest) with
  | none =>
    have hhead : (trimStart rest).head? ≠ some '(' := by
      intro hhead
      obtain ⟨inside, hinside⟩ := List.head?_eq_some_iff.mp hhead
      exact dropStart?_eq_none.mp hopen ⟨inside, hinside.symm⟩
    rw [afterMatchList_of_ne hhead]
    rfl
  | some inside =>
    have hparen : trimStart rest = '(' :: inside := dropStart?_eq_some.mp hopen
    have hinside := (List.suffix_cons '(' inside).trans (hparen ▸ hblanks)
    simp only [if_true, landing]
    rw [pairsEnd_offsetOf hinside, pure_bind, afterMatchList_paren hparen]
    cases hpairs : afterPairs? inside with
    | none =>
      rw [offsetOf_nil]
      rfl
    | some closed =>
      simp only [Option.map_some]
      rw [clauseEnd_offsetOf ((suffix_of_afterPairs? hpairs).trans hinside), pure_bind]
      cases dropStart? "nomatch(".toList (trimStart closed) <;> rfl

theorem nameEnd_offsetOf (h : s <:+ text.toList) :
    nameEnd text (offsetOf text s) = pure (offsetOf text (afterName (s.dropWhile isNameChar))) := by
  have hname := (List.dropWhile_suffix isNameChar).trans h
  have hascii (c : Char) (hc : isNameChar c = true) : c.toNat < 128 := Grammar.toNat_lt_of_isNameChar hc
  rw [nameEnd, ahead_offsetOf h, pure_bind, runLength_eq hascii, offsetOf_add h List.takeWhile_append_dropWhile]
  simp only [seek_offsetOf]
  rw [peek_offsetOf hname, pure_bind]
  cases hrest : s.dropWhile isNameChar with
  | nil => rfl
  | cons c rest =>
    by_cases hc : c = '('
    · subst hc
      rw [hrest] at hname
      simp only [List.head?_cons, if_true]
      rw [skipBalanced_paren hname, pure_bind, afterName, closingParen]
      cases (closing '(' ')' 0 true rest).map Prod.snd <;> rfl
    · have hhead : (c :: rest).head? ≠ some '(' := by simpa using hc
      rw [if_neg hhead, afterName]
      rintro tail ⟨rfl, rfl⟩
      exact hc rfl

theorem afterShape_of_dropStart? (hs : dropStart? "onmatch".toList (trimStart s) = none)
    (hslash : ∀ rest, trimStart s ≠ '/' :: rest) (hletter : ∀ rest, trimStart s ≠ 's' :: '/' :: rest) :
    afterShape s = afterName ((trimStart s).dropWhile isNameChar) := by
  have hsplit := List.takeWhile_append_dropWhile (p := isNameChar) (l := trimStart s)
  refine afterShape_of_other hsplit.symm (by rwa [hsplit]) (by rwa [hsplit]) ?_ ?_ ?_
  · exact fun c hc => List.mem_takeWhile_imp hc
  · intro c hc
    have hhead := List.head?_dropWhile_not isNameChar (trimStart s)
    rwa [Option.mem_def.mp hc] at hhead
  · exact fun hword => dropStart?_eq_none.mp hs (hword.trans (List.takeWhile_prefix _))

theorem afterShape_slash (hs : trimStart s = '/' :: rest) :
    afterShape s = (afterSubstitution? rest).getD (trimStart s) := by
  simp [afterShape, hs]

theorem afterShape_letter (hs : trimStart s = 's' :: '/' :: rest) :
    afterShape s = (afterSubstitution? rest).getD (trimStart s) := by
  simp [afterShape, hs]

theorem shapeEnd_offsetOf (h : s <:+ text.toList) :
    shapeEnd text (offsetOf text s) = pure (offsetOf text (afterShape s)) := by
  have hstart := (trimStart_suffix s).trans h
  rw [shapeEnd, seek_offsetOf, skipBlanks_offsetOf h, pure_bind, peek_offsetOf hstart, pure_bind,
    startsWith_offsetOf hstart, pure_bind]
  by_cases hslash : ∃ rest, trimStart s = '/' :: rest
  · obtain ⟨rest, hs⟩ := hslash
    rw [afterShape_slash hs]
    rw [hs] at hstart ⊢
    simp only [List.head?_cons, or_true, if_true]
    rw [substitutionEnd_offsetOf hstart, pure_bind]
    cases afterSubstitution? rest <;> rfl
  by_cases hletter : ∃ rest, trimStart s = 's' :: '/' :: rest
  · obtain ⟨rest, hs⟩ := hletter
    have hone : offsetOf text ('s' :: '/' :: rest) + 1 = offsetOf text ('/' :: rest) :=
      offsetOf_add_one (hs ▸ hstart) (by decide)
    have hword : dropStart? "s/".toList (trimStart s) = some rest := dropStart?_eq_some.mpr hs
    have hfirst : (trimStart s).head? ≠ some '/' := by
      rw [hs, List.head?_cons]
      decide
    rw [afterShape_letter hs]
    simp only [hword, hfirst, Option.isSome_some, true_or, if_true, if_false]
    rw [hs] at hstart ⊢
    rw [hone, substitutionEnd_offsetOf ((List.suffix_cons _ _).trans hstart), pure_bind]
    cases afterSubstitution? rest <;> rfl
  have hslash' : (trimStart s).head? ≠ some '/' := by
    intro hhead
    exact hslash (List.head?_eq_some_iff.mp hhead)
  have hletter' : dropStart? "s/".toList (trimStart s) = none := by
    refine dropStart?_eq_none.mpr ?_
    rintro ⟨rest, hrest⟩
    exact hletter ⟨rest, hrest.symm⟩
  simp only [hletter', hslash', Option.isSome_none, Bool.false_eq_true, or_self, if_false]
  rw [startsWith_offsetOf hstart, pure_bind]
  cases hword : dropStart? "onmatch".toList (trimStart s) with
  | none =>
    rw [afterShape_of_dropStart? hword (by simpa using hslash) (by simpa using hletter)]
    exact nameEnd_offsetOf hstart
  | some rest =>
    have hs := dropStart?_eq_some.mp hword
    rw [afterShape_of_onmatch hs]
    exact matchListEnd_offsetOf hstart hs

end Shape

def boundary? (text : String) (start : Nat) : Checked (Option Nat) := do
  return nextUnescaped '|' text (← shapeEnd text start)

def filterRound (text : String) (start : Nat) (found : List String) : Checked (Round (List String) (List String)) := do
  match ← boundary? text start with
  | some bar => return .again (bar + 1) (found ++ [trimmed (← slice text start bar)])
  | none => return .done (found ++ [trimmed (← sliceFrom text start)])

def filters (text : String) : Checked (List String) := loop text (filterRound text) 0 []

section Chains

variable {text : String} {front s : List Char} (htext : text.toList = front ++ s)

/-- Only behind a shape without characters may the next one be escaped, by what stands before the shape. -/
theorem escapedAfter_append_shape {shape : List Char} (hs : shape ++ afterShape s = s) (hne : afterShape s ≠ []) :
    escapedAfter (front ++ shape).reverse = (escapedAfter front.reverse && (afterShape s).length == s.length) := by
  have hlength := congrArg List.length hs
  rw [List.length_append] at hlength
  rcases freeEnd_afterShape s with hnil | hall | ⟨c, hc, before, hbefore⟩
  · exact absurd hnil hne
  · have hshape : shape = [] := List.length_eq_zero_iff.mp (by rw [hall] at hlength; omega)
    simp [hshape, hall]
  · have hshape : shape = before ++ [c] :=
      List.append_cancel_right (hs.trans (hbefore.symm.trans (List.append_cons before c (afterShape s))))
    have hlt : ((afterShape s).length == s.length) = false := by
      rw [hshape, List.length_append, List.length_singleton] at hlength
      exact beq_false_of_ne (by omega)
    rw [hshape, ← List.append_assoc, escapedAfter_concat hc, hlt, Bool.and_false]

include htext

/-- A mark is looked for behind the shape of a filter as it is in the text from there on. -/
theorem nextUnescaped_afterShape (mark : Char) :
    nextUnescaped mark text (offsetOf text (afterShape s)) =
      (cut mark (escapedAfter front.reverse && (afterShape s).length == s.length) (afterShape s)).map
        fun (_, after) => offsetOf text (mark :: after) := by
  obtain ⟨shape, hs⟩ := afterShape_suffix s
  have hbehind : text.toList = (front ++ shape) ++ afterShape s := by rw [htext, List.append_assoc, hs]
  rw [nextUnescaped, offsetOf_of_append hbehind, hbehind, splitAtByte_append]
  simp only [Option.bind_eq_bind, Option.bind_some]
  by_cases hne : afterShape s = []
  · rw [hne]
    rfl
  rw [escapedAfter_append_shape hs hne]
  cases hcut : cut mark (escapedAfter front.reverse && (afterShape s).length == s.length) (afterShape s) with
  | none => rfl
  | some p =>
    have hmark : text.toList = (front ++ shape ++ p.1) ++ mark :: p.2 := by
      rw [hbehind, eq_of_cut hcut, List.append_assoc _ p.1]
    rw [Option.map_some, offsetOf_of_append hmark, byteLength_append _ p.1]
    rfl

theorem boundary?_offsetOf :
    boundary? text (offsetOf text s) =
      pure ((atBoundary? (escapedAfter front.reverse) s).map fun (_, after) => offsetOf text ('|' :: after)) := by
  rw [boundary?, shapeEnd_offsetOf ⟨front, htext.symm⟩, pure_bind, nextUnescaped_afterShape htext, atBoundary?]
  simp only [Option.map_map]
  rfl

theorem loop_filterRound (hfront : escapedAfter front.reverse = false) (found : List String) :
    loop text (filterRound text) (offsetOf text s) found =
      pure (found ++ (segments s).map fun t => String.ofList (trim t)) := by
  have h : s <:+ text.toList := ⟨front, htext.symm⟩
  have hbar := boundary?_offsetOf htext
  rw [hfront] at hbar
  fun_induction segments s generalizing front found with
  | case1 s hnone =>
    refine loop_done ?_
    rw [hnone] at hbar
    rw [filterRound, hbar, pure_bind]
    simp only [Option.map_none]
    rw [sliceFrom_offsetOf h, pure_bind, trimmed_ofList]
    rfl
  | case2 s filter rest hsome ih =>
    have hs := eq_of_atBoundary? hsome
    have hafter : text.toList = (front ++ filter ++ ['|']) ++ rest := (next_place htext hsome).1
    have hrest : '|' :: rest <:+ s := ⟨filter, hs.symm⟩
    have hslice : slice text (offsetOf text s) (offsetOf text ('|' :: rest)) = pure (String.ofList filter) := by
      rw [hs] at h ⊢
      exact slice_offsetOf h
    have hround : filterRound text (offsetOf text s) found =
        pure (.again (offsetOf text rest) (found ++ [String.ofList (trim filter)])) := by
      rw [hsome] at hbar
      rw [filterRound, hbar, pure_bind]
      simp only [Option.map_some]
      rw [hslice, pure_bind, trimmed_ofList, offsetOf_add_one (hrest.trans h) (by decide)]
    have hfree := escapedAfter_bar (front ++ filter)
    rw [loop_past hround h hrest List.suffix_rfl, ih hafter hfree _ ((List.suffix_cons _ _).trans (hrest.trans h))]
    · simp
    · rw [boundary?_offsetOf hafter, hfree]

end Chains

theorem filters_eq (text : String) : filters text = pure (Tag.filters text) := by
  have htext : text.toList = [] ++ text.toList := rfl
  have h := loop_filterRound htext rfl []
  rwa [offsetOf_toList] at h

section Boundaries

variable {text : String} {front s : List Char} (htext : text.toList = front ++ s)

theorem bar_suffix_of_atBoundary? {escaped : Bool} {filter after : List Char}
    (h : atBoundary? escaped s = some (filter, after)) : '|' :: after <:+ afterShape s := by
  obtain ⟨⟨loose, rest⟩, hcut, heq⟩ := Option.map_eq_some_iff.mp h
  obtain ⟨-, rfl⟩ := Prod.mk.inj heq
  exact ⟨loose, (eq_of_cut hcut).symm⟩

include htext

theorem shapeEnd_eq_offsetOf : Tag.shapeEnd text (byteLength front) = offsetOf text (afterShape s) := by
  rw [Tag.shapeEnd, atByte_append htext]
  rfl

theorem boundary?_eq_offsetOf :
    Tag.boundary? text (byteLength front) =
      (atBoundary? (escapedAfter front.reverse) s).map fun (_, after) => offsetOf text ('|' :: after) := by
  rw [Tag.boundary?, atByte_append htext]
  cases hbar : atBoundary? (escapedAfter front.reverse) s with
  | none => rfl
  | some p =>
    have hrest : text.toList = (front ++ p.1) ++ '|' :: p.2 := by
      rw [htext, eq_of_atBoundary? hbar, List.append_assoc]
    simp only [Option.map_some]
    rw [offsetOf_of_append hrest, byteLength_append, Cursor.pos, byteLength_reverse]

end Boundaries

section Offsets

variable {text : String} {start : Nat} (h : IsBoundary text start)
include h

/-- The shape of a filter ends at the boundary of a character, at or behind the start. -/
theorem shapeEnd_of_isBoundary :
    shapeEnd text start = pure (Tag.shapeEnd text start) ∧ start ≤ Tag.shapeEnd text start ∧
      IsBoundary text (Tag.shapeEnd text start) := by
  obtain ⟨front, s, htext, rfl⟩ := isBoundary_iff.mp h
  have hs : s <:+ text.toList := ⟨front, htext.symm⟩
  rw [shapeEnd_eq_offsetOf htext, ← offsetOf_of_append htext]
  exact ⟨shapeEnd_offsetOf hs, offsetOf_le_of_suffix text (afterShape_suffix s),
    isBoundary_offsetOf ((afterShape_suffix s).trans hs)⟩

/-- A filter ends at a bar at or behind the end of its shape. -/
theorem boundary?_of_isBoundary :
    boundary? text start = pure (Tag.boundary? text start) ∧
      ∀ bar ∈ Tag.boundary? text start, Tag.shapeEnd text start ≤ bar ∧ CharAt text bar '|' := by
  obtain ⟨front, s, htext, rfl⟩ := isBoundary_iff.mp h
  have hs : s <:+ text.toList := ⟨front, htext.symm⟩
  rw [boundary?_eq_offsetOf htext, shapeEnd_eq_offsetOf htext]
  constructor
  · rw [← boundary?_offsetOf htext, offsetOf_of_append htext]
  · intro bar hbar
    obtain ⟨⟨filter, after⟩, hsome, rfl⟩ := Option.map_eq_some_iff.mp hbar
    have hafter := bar_suffix_of_atBoundary? hsome
    exact ⟨offsetOf_le_of_suffix text hafter, charAt_offsetOf (hafter.trans ((afterShape_suffix s).trans hs))⟩

end Offsets

end Stencil.ByOffset
