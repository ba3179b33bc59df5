import Stencil.Proofs.ByOffset.Brackets

/-!
# Moves by byte offsets

The moves of a cursor that knows a text and a byte offset. From the boundary of a character each of them goes where the
move through the characters goes, so no sequence of moves leaves the text or comes to stand inside of a character.
-/
namespace Stencil.ByOffset

open Stencil.Text

def peek (text : String) (pos : Nat) : Checked (Option Char) := do
  return (← ahead text pos).head?

def startsWith (text : String) (pos : Nat) (start : String) : Checked Bool := do
  return (dropStart? start.toList (← ahead text pos)).isSome

def find (text : String) (pos : Nat) (c : Char) : Checked (Option Nat) := do
  let rest ← ahead text pos
  return if c ∈ rest then some (pos + byteLength (rest.takeWhile (· ≠ c))) else none

def seek (text : String) (pos : Nat) : Nat := min pos text.utf8ByteSize

def advance (text : String) (pos n : Nat) : Checked Nat := do
  return pos + byteLength ((← ahead text pos).take n)

def skipBlanks (text : String) (pos : Nat) : Checked Nat := do
  let rest ← ahead text pos
  return pos + (← minus (byteLength rest) (byteLength (trimStart rest)))

def skipFlags (text : String) (pos : Nat) : Checked Nat := do
  return pos + runLength Cursor.isFlag (← ahead text pos)

def eat (text : String) (pos : Nat) (start : String) : Checked (Bool × Nat) := do
  if ← startsWith text pos start then return (true, pos + start.utf8ByteSize) else return (false, pos)

def skipMarked (text : String) (pos : Nat) (mark : Char) : Checked (Bool × Nat) := do
  if (← peek text pos) = some mark then
    match nextUnescaped mark text (pos + 1) with
    | some close => return (true, close + 1)
    | none => return (false, pos)
  else return (false, pos)

def skipRegexLiteral (text : String) (pos : Nat) : Checked (Bool × Nat) := do
  let (moved, next) ← skipMarked text pos '/'
  if moved then return (true, ← skipFlags text next) else return (false, next)

def skipQuoted (text : String) (pos : Nat) : Checked (Bool × Nat) := skipMarked text pos '"'

def skipBalanced (text : String) (pos : Nat) : Checked (Bool × Nat) := do
  match ← matchingClose text pos with
  | some close => return (true, close + 1)
  | none => return (false, pos)

/-- The outcome of a move that may fail, where `found` lies ahead if it succeeds. -/
def landing (text : String) (pos : Nat) (found : Option (List Char)) : Bool × Nat :=
  match found with
  | some rest => (true, offsetOf text rest)
  | none => (false, pos)

section Moves

variable {text : String} {rest : List Char} (h : rest <:+ text.toList)
include h

theorem peek_offsetOf : peek text (offsetOf text rest) = pure rest.head? := by
  rw [peek, ahead_offsetOf h, pure_bind]

theorem startsWith_offsetOf (start : String) :
    startsWith text (offsetOf text rest) start = pure (dropStart? start.toList rest).isSome := by
  rw [startsWith, ahead_offsetOf h, pure_bind]

omit h in
theorem startsWith_ofList (s : List Char) (start : String) :
    startsWith (String.ofList s) 0 start = pure (dropStart? start.toList s).isSome := by
  have h := startsWith_offsetOf (suffix_ofList s) start
  rwa [offsetOf_ofList] at h

theorem find_of_notMem {c : Char} (hc : c ∉ rest) : find text (offsetOf text rest) c = pure none := by
  rw [find, ahead_offsetOf h, pure_bind, if_neg hc]

omit h in
theorem find_offsetOf {c : Char} {front after : List Char} (h : front ++ c :: after <:+ text.toList) (hc : c ∉ front) :
    find text (offsetOf text (front ++ c :: after)) c = pure (some (offsetOf text (c :: after))) := by
  have hfront : ∀ d ∈ front, decide (d ≠ c) = true := by
    intro d hd
    simpa using ne_of_mem_of_not_mem hd hc
  have htake : (front ++ c :: after).takeWhile (· ≠ c) = front := takeWhile_append_stop hfront (by simp)
  rw [find, ahead_offsetOf h, pure_bind, if_pos (by simp), htake, offsetOf_append h]

omit h in
/-- A character that another one precedes is found behind it, if at all. -/
theorem find_behind {c d : Char} {front : List Char} (h : front ++ d :: rest <:+ text.toList) (hc : c ∉ front)
    (hd : c ≠ d) :
    ∃ found, find text (offsetOf text (front ++ d :: rest)) c = pure found ∧
      ∀ p ∈ found, offsetOf text (d :: rest) < p := by
  by_cases hrest : c ∈ rest
  · obtain ⟨front', after, rfl, hfront'⟩ := List.eq_append_cons_of_mem hrest
    have hnot : c ∉ front ++ d :: front' := by simp [hc, hd, hfront']
    have hassoc : front ++ d :: (front' ++ c :: after) = (front ++ d :: front') ++ c :: after := by simp
    have hbehind := (List.suffix_append front _).trans h
    refine ⟨some (offsetOf text (c :: after)), ?_, ?_⟩
    · rw [hassoc] at h ⊢
      exact find_offsetOf h hnot
    · rintro _ ⟨⟩
      refine offsetOf_lt hbehind ⟨d :: front', rfl⟩ ?_
      simp only [List.length_cons, List.length_append]
      omega
  · exact ⟨none, find_of_notMem h (by simp [hc, hd, hrest]), nofun⟩

omit h in
theorem seek_offsetOf (text : String) (rest : List Char) : seek text (offsetOf text rest) = offsetOf text rest :=
  Nat.min_eq_left (offsetOf_le text rest)

theorem offsetOf_add {piece after : List Char} (hpiece : piece ++ after = rest) :
    offsetOf text rest + byteLength piece = offsetOf text after := by
  subst hpiece
  exact (offsetOf_append h).symm

theorem advance_offsetOf (n : Nat) : advance text (offsetOf text rest) n = pure (offsetOf text (rest.drop n)) := by
  rw [advance, ahead_offsetOf h, pure_bind, offsetOf_add h (List.take_append_drop n rest)]

theorem skipBlanks_offsetOf : skipBlanks text (offsetOf text rest) = pure (offsetOf text (trimStart rest)) := by
  have hlength := byteLength_append (rest.takeWhile isBlank) (trimStart rest)
  rw [trimStart, List.takeWhile_append_dropWhile] at hlength
  have hblanks : byteLength rest - byteLength (trimStart rest) = byteLength (rest.takeWhile isBlank) := by
    rw [trimStart]
    omega
  rw [skipBlanks, ahead_offsetOf h, pure_bind, minus_of_le (by rw [trimStart]; omega), pure_bind, hblanks,
    offsetOf_add h List.takeWhile_append_dropWhile]
  rfl

theorem skipFlags_offsetOf :
    skipFlags text (offsetOf text rest) = pure (offsetOf text (rest.dropWhile Cursor.isFlag)) := by
  have hascii (c : Char) (hc : Cursor.isFlag c = true) : c.toNat < 128 := by
    simp only [Cursor.isFlag, Bool.or_eq_true, beq_iff_eq] at hc
    rcases hc with (((rfl | rfl) | rfl) | rfl) | rfl <;> decide
  rw [skipFlags, ahead_offsetOf h, pure_bind, runLength_eq hascii, offsetOf_add h List.takeWhile_append_dropWhile]

theorem eat_offsetOf (start : String) :
    eat text (offsetOf text rest) start = pure (landing text (offsetOf text rest) (dropStart? start.toList rest)) := by
  rw [eat, startsWith_offsetOf h, pure_bind]
  cases hdrop : dropStart? start.toList rest with
  | none => rfl
  | some after =>
    rw [landing, ← byteLength_toList, offsetOf_add h (dropStart?_eq_some.mp hdrop).symm]
    rfl

theorem skipMarked_of_head {mark : Char} (hmark : rest.head? ≠ some mark) :
    skipMarked text (offsetOf text rest) mark = pure (false, offsetOf text rest) := by
  rw [skipMarked, peek_offsetOf h, pure_bind, if_neg hmark]

end Moves

section Character

variable {text : String} {c : Char} {rest : List Char} (h : c :: rest <:+ text.toList)
include h

theorem skipMarked_mark {mark : Char} (hc : c = mark) (hascii : mark.toNat < 128) (hmark : mark ≠ '\\') :
    skipMarked text (offsetOf text (c :: rest)) mark =
      pure (landing text (offsetOf text (c :: rest)) ((through? mark rest).map Prod.snd)) := by
  subst hc
  rw [skipMarked, peek_offsetOf h, pure_bind, List.head?_cons, if_pos rfl, offsetOf_add_one h hascii,
    nextUnescaped_offsetOf h hmark, through?]
  cases hcut : cut c false rest with
  | none => rfl
  | some p =>
    have hafter : c :: p.2 <:+ rest := ⟨p.1, (eq_of_cut hcut).symm⟩
    simp only [Option.map_some, landing]
    rw [offsetOf_add_one (hafter.trans ((List.suffix_cons c rest).trans h)) hascii]

theorem skipRegexLiteral_slash (hc : c = '/') :
    skipRegexLiteral text (offsetOf text (c :: rest)) =
      pure (landing text (offsetOf text (c :: rest))
        ((through? '/' rest).map fun (_, after) => after.dropWhile Cursor.isFlag)) := by
  rw [skipRegexLiteral, skipMarked_mark h hc (by decide) (by decide), pure_bind]
  cases hthrough : through? '/' rest with
  | none => rfl
  | some p =>
    have hafter : p.2 <:+ rest := ⟨p.1, (eq_of_through? hthrough).symm⟩
    simp only [Option.map_some, landing]
    rw [skipFlags_offsetOf (hafter.trans ((List.suffix_cons c rest).trans h))]
    rfl

theorem skipBalanced_offsetOf :
    skipBalanced text (offsetOf text (c :: rest)) =
      pure (landing text (offsetOf text (c :: rest)) ((throughBracket? c rest).map Prod.snd)) := by
  rw [skipBalanced, matchingClose_eq, pure_bind, matchingClose_offsetOf h, throughBracket?]
  cases hkind : closerOf? c with
  | none => rfl
  | some closer =>
    simp only [Option.bind_some]
    cases hclosing : closing c closer 0 true rest with
    | none => rfl
    | some p =>
      have hafter : closer :: p.2 <:+ rest := ⟨p.1, (eq_of_closing hclosing).symm⟩
      simp only [Option.map_some, landing]
      rw [offsetOf_add_one (hafter.trans ((List.suffix_cons c rest).trans h)) (closerOf?_ascii hkind).2]

end Character

inductive Move where
  | advance (n : Nat)
  | skipBlanks
  | eat (start : String)
  | skipFlags
  | skipRegexLiteral
  | skipQuoted
  | skipBalanced

namespace Move

def run? : Move → Cursor → Option Cursor
  | advance n, k => some (k.advance n)
  | skipBlanks, k => some k.skipBlanks
  | eat start, k => k.eat? start
  | skipFlags, k => some k.skipFlags
  | skipRegexLiteral, k => k.skipRegexLiteral?
  | skipQuoted, k => k.skipQuoted?
  | skipBalanced, k => k.skipBalanced?

def runAt (text : String) (pos : Nat) : Move → Checked (Bool × Nat)
  | advance n => return (true, ← ByOffset.advance text pos n)
  | skipBlanks => return (true, ← ByOffset.skipBlanks text pos)
  | eat start => ByOffset.eat text pos start
  | skipFlags => return (true, ← ByOffset.skipFlags text pos)
  | skipRegexLiteral => ByOffset.skipRegexLiteral text pos
  | skipQuoted => ByOffset.skipQuoted text pos
  | skipBalanced => ByOffset.skipBalanced text pos

end Move

section Run

variable {text : String} {k k' : Cursor} {m : Move}

theorem suffix_of_text (hk : k.text = text.toList) : k.ahead <:+ text.toList := ⟨k.behind.reverse, hk⟩

theorem pos_eq_offsetOf (hk : k.text = text.toList) : k.pos = offsetOf text k.ahead := by
  rw [offsetOf_of_append hk.symm, byteLength_reverse]
  rfl

structure Onward (k k' : Cursor) : Prop where
  text : k'.text = k.text
  suffix : k'.ahead <:+ k.ahead

theorem Onward.trans {k'' : Cursor} (h : Onward k k') (h' : Onward k' k'') : Onward k k'' :=
  ⟨h'.text.trans h.text, h'.suffix.trans h.suffix⟩

theorem Onward.past {taken rest : List Char} (h : k.ahead = taken ++ rest) : Onward k (k.past taken rest) :=
  ⟨Cursor.text_past h, taken, h.symm⟩

theorem Onward.skipFlags (k : Cursor) : Onward k k.skipFlags := .past List.takeWhile_append_dropWhile.symm

theorem Onward.skipMarked {mark : Char} (h : k.skipMarked? mark = some k') : Onward k k' := by
  rw [Cursor.skipMarked?] at h
  split at h
  · cases h
  next c rest hcons =>
  split at h
  · obtain ⟨⟨taken, after⟩, hthrough, rfl⟩ := Option.map_eq_some_iff.mp h
    exact .past (by rw [hcons, eq_of_through? hthrough, List.cons_append])
  · cases h

theorem Onward.skipBalanced (h : k.skipBalanced? = some k') : Onward k k' := by
  rw [Cursor.skipBalanced?] at h
  split at h
  · cases h
  · next c rest hcons =>
    obtain ⟨⟨taken, after⟩, hthrough, rfl⟩ := Option.map_eq_some_iff.mp h
    exact .past (by rw [hcons, eq_of_throughBracket? hthrough, List.cons_append])

/-- No move goes back or changes the text. -/
theorem Move.onward (h : m.run? k = some k') : Onward k k' := by
  cases m with
  | advance n =>
    obtain rfl := Option.some.inj h
    exact .past (List.take_append_drop n k.ahead).symm
  | skipBlanks =>
    obtain rfl := Option.some.inj h
    exact .past List.takeWhile_append_dropWhile.symm
  | eat start =>
    obtain ⟨rest, hdrop, rfl⟩ := Option.map_eq_some_iff.mp h
    exact .past (dropStart?_eq_some.mp hdrop)
  | skipFlags =>
    obtain rfl := Option.some.inj h
    exact .skipFlags k
  | skipRegexLiteral =>
    obtain ⟨k'', hmarked, rfl⟩ := Option.map_eq_some_iff.mp h
    exact (Onward.skipMarked hmarked).trans (.skipFlags k'')
  | skipQuoted => exact .skipMarked h
  | skipBalanced => exact .skipBalanced h

section Marked

variable (hk : k.text = text.toList) {mark : Char}
include hk

theorem skipMarked_pos (hascii : mark.toNat < 128) (hmark : mark ≠ '\\') :
    skipMarked text k.pos mark = pure (landing text k.pos ((k.skipMarked? mark).map Cursor.ahead)) := by
  have h := suffix_of_text hk
  rw [pos_eq_offsetOf hk, Cursor.skipMarked?]
  split
  · next hnil =>
    rw [skipMarked_of_head h (by simp [hnil])]
    rfl
  next c rest hcons =>
  split
  · next hc =>
    rw [hcons] at h ⊢
    rw [skipMarked_mark h hc hascii hmark, Option.map_map]
    rfl
  · next hc =>
    rw [skipMarked_of_head h (by simpa [hcons] using hc)]
    rfl

theorem skipRegexLiteral_pos :
    skipRegexLiteral text k.pos = pure (landing text k.pos (k.skipRegexLiteral?.map Cursor.ahead)) := by
  rw [skipRegexLiteral, skipMarked_pos hk (by decide) (by decide), pure_bind, Cursor.skipRegexLiteral?]
  cases hmarked : k.skipMarked? '/' with
  | none => rfl
  | some k' =>
    have hk' := suffix_of_text ((Onward.skipMarked hmarked).text.trans hk)
    simp only [Option.map_some, landing, if_true]
    rw [skipFlags_offsetOf hk']
    rfl

theorem skipBalanced_pos :
    skipBalanced text k.pos = pure (landing text k.pos (k.skipBalanced?.map Cursor.ahead)) := by
  have h := suffix_of_text hk
  rw [pos_eq_offsetOf hk, Cursor.skipBalanced?]
  split
  · next hnil =>
    have hnone : Text.matchingClose text (offsetOf text []) = none := by
      obtain ⟨front, -, hsplit⟩ := splitAtByte_offsetOf (hnil ▸ h)
      rw [Text.matchingClose, hsplit]
      rfl
    rw [hnil, skipBalanced, matchingClose_eq, hnone]
    rfl
  · next c rest hcons =>
    rw [hcons] at h ⊢
    rw [skipBalanced_offsetOf h, Option.map_map]
    rfl

/-- From the place of a cursor a move leads where it leads the cursor. -/
theorem Move.runAt_pos : m.runAt text k.pos = pure (landing text k.pos ((m.run? k).map Cursor.ahead)) := by
  have h := suffix_of_text hk
  cases m with
  | advance n =>
    rw [Move.runAt, pos_eq_offsetOf hk, advance_offsetOf h]
    rfl
  | skipBlanks =>
    rw [Move.runAt, pos_eq_offsetOf hk, skipBlanks_offsetOf h]
    rfl
  | eat start =>
    rw [Move.runAt, pos_eq_offsetOf hk, eat_offsetOf h, Move.run?, Cursor.eat?, Option.map_map]
    exact congrArg (fun found => pure (landing text _ found)) Option.map_id'.symm
  | skipFlags =>
    rw [Move.runAt, pos_eq_offsetOf hk, skipFlags_offsetOf h]
    rfl
  | skipRegexLiteral => exact skipRegexLiteral_pos hk
  | skipQuoted => exact skipMarked_pos hk (by decide) (by decide)
  | skipBalanced => exact skipBalanced_pos hk

end Marked

end Run

/-- Where a sequence of moves leads step by step, and which of the moves succeed. -/
def trace (text : String) : List Move → Nat → Checked (List (Bool × Nat))
  | [], _ => return []
  | m :: ms, pos => do
    let (moved, next) ← m.runAt text pos
    return (moved, next) :: (← trace text ms next)

def places : List Move → Cursor → List (Bool × Nat)
  | [], _ => []
  | m :: ms, k =>
    match m.run? k with
    | some k' => (true, k'.pos) :: places ms k'
    | none => (false, k.pos) :: places ms k

section Places

variable {text : String} {k : Cursor} (hk : k.text = text.toList)
include hk

theorem trace_pos (ms : List Move) : trace text ms k.pos = pure (places ms k) := by
  induction ms generalizing k with
  | nil => rfl
  | cons m ms ih =>
    rw [trace, Move.runAt_pos hk, pure_bind, places]
    cases hrun : m.run? k with
    | none =>
      simp only [Option.map_none, landing]
      rw [ih hk]
      rfl
    | some k' =>
      have hk' := (Move.onward hrun).text.trans hk
      simp only [Option.map_some, landing]
      rw [← pos_eq_offsetOf hk', ih hk']
      rfl

theorem isBoundary_pos : IsBoundary text k.pos := by
  rw [pos_eq_offsetOf hk]
  exact isBoundary_offsetOf (suffix_of_text hk)

/-- No move leads back, past the end or inside of a character, and a move that fails leads nowhere. -/
theorem places_onward (ms : List Move) (moved : Bool) :
    ((moved, k.pos) :: places ms k).IsChain (fun p q => p.2 ≤ q.2 ∧ (q.1 = false → q.2 = p.2)) ∧
      ∀ p ∈ places ms k, IsBoundary text p.2 := by
  induction ms generalizing k moved with
  | nil => exact ⟨.singleton _, nofun⟩
  | cons m ms ih =>
    rw [places]
    cases hrun : m.run? k with
    | none =>
      obtain ⟨hchain, hplaces⟩ := ih hk false
      refine ⟨.cons_cons ⟨le_rfl, fun _ => rfl⟩ hchain, ?_⟩
      rintro p (_ | ⟨_, hp⟩)
      · exact isBoundary_pos hk
      · exact hplaces p hp
    | some k' =>
      have honward := Move.onward hrun
      have hk' := honward.text.trans hk
      have hle : k.pos ≤ k'.pos := by
        rw [pos_eq_offsetOf hk, pos_eq_offsetOf hk']
        exact offsetOf_le_of_suffix text honward.suffix
      obtain ⟨hchain, hplaces⟩ := ih hk' true
      refine ⟨.cons_cons ⟨hle, nofun⟩ hchain, ?_⟩
      rintro p (_ | ⟨_, hp⟩)
      · exact isBoundary_pos hk'
      · exact hplaces p hp

end Places

end Stencil.ByOffset
