import Stencil.Proofs.ByOffset.Bytes
import Stencil.Proofs.Nesting

/-!
# Brackets among bytes

The bracket that closes another one is looked for byte by byte. Behind a backslash one byte is skipped, which may leave
the search inside of a character; the bytes of such a character are then passed over one by one, since none of them is
an ASCII character. So it finds what the search through the characters finds.
-/
namespace Stencil.Text

theorem eq_of_leap_unclosed {literal : Bool} {c : Char} {rest : List Char} (h : leap literal c rest = .unclosed) :
    c = '\\' ∧ rest = [] ∨ c = '"' ∧ cut '"' false rest = none := by
  unfold leap at h
  split at h
  · next hc =>
    split at h
    · exact .inl ⟨hc, rfl⟩
    · cases h
  split at h
  · next hc =>
    split at h
    · cases h
    · next hthrough => exact .inr ⟨hc, Option.map_eq_none_iff.mp hthrough⟩
  split at h
  · split at h <;> cases h
  · cases h

theorem eq_of_leap_over {literal : Bool} {c : Char} {rest taken after : List Char}
    (h : leap literal c rest = .over taken after) :
    (c = '\\' ∧ ∃ d, rest = d :: after) ∨
      (c = '"' ∨ c = '/' ∧ literal = true) ∧ ∃ inside, cut c false rest = some (inside, after) := by
  have hcut {mark : Char} (hthrough : through? mark rest = some (taken, after)) :
      ∃ inside, cut mark false rest = some (inside, after) := by
    obtain ⟨⟨inside, after'⟩, hcut, heq⟩ := Option.map_eq_some_iff.mp hthrough
    exact ⟨inside, (Prod.mk.inj heq).2 ▸ hcut⟩
  unfold leap at h
  split at h
  · next hc =>
    split at h
    · cases h
    · next d after' =>
      obtain ⟨-, rfl⟩ := Leap.over.inj h
      exact .inl ⟨hc, d, rfl⟩
  split at h
  · next hc =>
    split at h
    · next hthrough =>
      obtain ⟨rfl, rfl⟩ := Leap.over.inj h
      exact .inr ⟨.inl hc, hc ▸ hcut hthrough⟩
    · cases h
  split at h
  · next hc =>
    split at h
    · next hthrough =>
      obtain ⟨rfl, rfl⟩ := Leap.over.inj h
      exact .inr ⟨.inr hc, hc.1 ▸ hcut hthrough⟩
    · cases h
  · cases h

theorem of_leap_step {literal : Bool} {c : Char} {rest : List Char} (h : leap literal c rest = .step) :
    c ≠ '\\' ∧ c ≠ '"' ∧ (c = '/' → literal = true → cut '/' false rest = none) := by
  unfold leap at h
  split at h
  · split at h <;> cases h
  next hb =>
  split at h
  · split at h <;> cases h
  next hq =>
  refine ⟨hb, hq, fun hs hliteral => ?_⟩
  rw [if_pos ⟨hs, hliteral⟩] at h
  split at h
  · cases h
  · next hthrough => exact Option.map_eq_none_iff.mp hthrough

theorem closerOf?_ascii {opener closer : Char} (h : closerOf? opener = some closer) :
    opener.toNat < 128 ∧ closer.toNat < 128 := by
  rcases Tag.closerOf?_cases h with ⟨rfl, rfl⟩ | ⟨rfl, rfl⟩ | ⟨rfl, rfl⟩
  all_goals exact ⟨by decide, by decide⟩

end Stencil.Text

namespace Stencil.ByOffset

open Stencil.Text

/-- One round of the search for the bracket that closes the one at `start`. The number of open brackets, the first one
among them, goes from round to round, and whether an argument may begin. -/
def closeRound (text : String) (opener closer : Char) (start i : Nat) :
    Nat × Bool → Checked (Round (Nat × Bool) (Option Nat))
  | (depth, argStart) =>
    match byteAt? text i with
    | none => pure (.done none)
    | some b =>
      if b = '\\' then pure (.again (i + 2) (depth, false))
      else if b = '"' ∧ start < i then
        match nextUnescaped '"' text (i + 1) with
        | some quote => pure (.again (quote + 1) (depth, false))
        | none => pure (.done none)
      else
        match if b = '/' ∧ argStart = true ∧ depth = 1 then nextUnescaped '/' text (i + 1) else none with
        | some slash => pure (.again (slash + 1) (depth, false))
        | none => do
          let depth' ← if b = opener then pure (depth + 1) else if b = closer then minus depth 1 else pure depth
          if b = closer ∧ depth' = 0 then return .done (some i)
          else
            return .again (i + 1)
              (depth', if isAsciiBlank b then argStart else (b == opener || b == ',') && depth' == 1)

def matchingClose (text : String) (start : Nat) : Checked (Option Nat) :=
  match byteAt? text start with
  | none => pure none
  | some opener =>
    match closerOf? opener with
    | none => pure none
    | some closer => loop text (closeRound text opener closer start) start (0, true)

/-- A character that is no ASCII character opens and closes nothing and begins no argument. -/
theorem update_foreign {opener closer c : Char} (hkind : closerOf? opener = some closer) (hc : 128 ≤ c.toNat)
    (depth : Nat) (argStart : Bool) :
    c ≠ closer ∧ (if c = opener then depth + 1 else if c = closer then depth - 1 else depth) = depth ∧
      (if isAsciiBlank c then argStart else c == ',' && depth == 0) = false := by
  obtain ⟨hopener, hcloser⟩ := closerOf?_ascii hkind
  have hne {d : Char} (hd : d.toNat < 128) : c ≠ d := ne_of_foreign hc hd
  have hblank : isAsciiBlank c = false := by simp [isAsciiBlank, hne]
  have hcomma : (c == ',') = false := beq_false_of_ne (hne (by decide))
  refine ⟨hne hcloser, ?_, ?_⟩
  · rw [if_neg (hne hopener), if_neg (hne hcloser)]
  · rw [hblank, hcomma, Bool.false_and, if_neg Bool.false_ne_true]

section Rounds

variable {text : String} {opener closer : Char} (hkind : closerOf? opener = some closer) {start i depth : Nat}
  {argStart : Bool} {b : Char} (hbyte : byteAt? text i = some b)
include hkind hbyte

theorem closeRound_step (hb : b ≠ '\\') (hq : b ≠ '"')
    (hs : b = '/' → argStart = true → depth = 0 → nextUnescaped '/' text (i + 1) = none) :
    closeRound text opener closer start i (depth + 1, argStart) =
      pure (if b = closer ∧ depth = 0 then .done (some i)
        else .again (i + 1) ((if b = opener then depth + 1 else if b = closer then depth - 1 else depth) + 1,
          if isAsciiBlank b then argStart else b == ',' && depth == 0)) := by
  obtain ⟨hopen, hclose, hne⟩ := Tag.isMark_of_closerOf? hkind
  have hliteral :
      (if b = '/' ∧ argStart = true ∧ depth + 1 = 1 then nextUnescaped '/' text (i + 1) else none) = none := by
    split
    · next h => exact hs h.1 h.2.1 (by omega)
    · rfl
  simp only [closeRound, hbyte, hb, hq, false_and, if_false, hliteral]
  by_cases hopener : b = opener
  · obtain rfl := hopener
    have hcomma : (b == ',') = false := beq_false_of_ne hopen.ne_comma
    simp [hne, hopen.not_asciiBlank, hcomma]
  have hopener' : (b == opener) = false := beq_false_of_ne hopener
  by_cases hcloser : b = closer
  · obtain rfl := hcloser
    have hcomma : (b == ',') = false := beq_false_of_ne hclose.ne_comma
    rw [if_neg hopener, if_pos rfl, minus_of_le (Nat.le_add_left 1 depth)]
    cases depth <;> simp [hopener, hopener', hclose.not_asciiBlank, hcomma]
  · rw [if_neg hopener, if_neg hcloser]
    simp [hopener, hcloser, hopener']

theorem closeRound_foreign (hb : 128 ≤ b.toNat) :
    closeRound text opener closer start i (depth + 1, argStart) = pure (.again (i + 1) (depth + 1, false)) := by
  have hne {d : Char} (hd : d.toNat < 128) : b ≠ d := ne_of_foreign hb hd
  obtain ⟨hcloser, hdepth, hnext⟩ := update_foreign hkind hb depth argStart
  rw [closeRound_step hkind hbyte (hne (by decide)) (hne (by decide)) fun h => absurd h (hne (by decide)),
    if_neg fun h => hcloser h.1, hdepth, hnext]

omit hkind hbyte in
theorem closeRound_end (hbyte : byteAt? text i = none) :
    closeRound text opener closer start i (depth, argStart) = pure (.done none) := by
  simp [closeRound, hbyte]

omit hkind in
theorem closeRound_backslash (hb : b = '\\') :
    closeRound text opener closer start i (depth, argStart) = pure (.again (i + 2) (depth, false)) := by
  simp [closeRound, hbyte, hb]

omit hkind in
theorem closeRound_skip (hb : b = '"' ∧ start < i ∨ b = '/' ∧ argStart = true ∧ depth = 1) {mark : Nat}
    (hmark : nextUnescaped b text (i + 1) = some mark) :
    closeRound text opener closer start i (depth, argStart) = pure (.again (mark + 1) (depth, false)) := by
  rcases hb with ⟨rfl, hi⟩ | ⟨rfl, rfl, rfl⟩
  · simp [closeRound, hbyte, hi, hmark]
  · simp [closeRound, hbyte, hmark]

omit hkind in
theorem closeRound_unclosed (hb : b = '"') (hi : start < i) (hmark : nextUnescaped '"' text (i + 1) = none) :
    closeRound text opener closer start i (depth, argStart) = pure (.done none) := by
  simp [closeRound, hbyte, hb, hi, hmark]

end Rounds

section Search

variable {text : String} {opener closer : Char} (hkind : closerOf? opener = some closer) {start : Nat}
include hkind

section Character

variable {c : Char} {rest : List Char} (h : c :: rest <:+ text.toList) (hstart : start < offsetOf text (c :: rest))
  {depth : Nat} {argStart : Bool}
include h

omit hkind in
theorem nextUnescaped_behind (hc : c = '"' ∨ c = '/') :
    nextUnescaped c text (offsetOf text (c :: rest) + 1) =
      (cut c false rest).map fun (_, after) => offsetOf text (c :: after) := by
  rcases hc with rfl | rfl
  all_goals rw [offsetOf_add_one h (by decide), nextUnescaped_offsetOf h (by decide)]

omit hkind in
include hstart in
theorem loop_unclosed (hleap : leap (argStart && depth == 0) c rest = .unclosed) :
    loop text (closeRound text opener closer start) (offsetOf text (c :: rest)) (depth + 1, argStart) = pure none := by
  rcases eq_of_leap_unclosed hleap with ⟨rfl, rfl⟩ | ⟨rfl, hcut⟩
  · have hend : byteAt? text (offsetOf text ['\\'] + 2) = none := by
      rw [byteAt?_eq_none_iff, ← offsetOf_nil, ← offsetOf_add_one h (by decide)]
      exact Nat.le_succ _
    rw [loop_again (closeRound_backslash (byteAt?_of_lt h (by decide)) rfl) (by omega)
      (offsetOf_lt_size h (List.cons_ne_nil _ _))]
    exact loop_done (closeRound_end hend)
  · have hmark := nextUnescaped_behind h (.inl rfl)
    rw [hcut, Option.map_none] at hmark
    exact loop_done (closeRound_unclosed (byteAt?_of_lt h (by decide)) rfl hstart hmark)

include hstart in
theorem loop_over {taken after : List Char} (hleap : leap (argStart && depth == 0) c rest = .over taken after) :
    loop text (closeRound text opener closer start) (offsetOf text (c :: rest)) (depth + 1, argStart) =
      loop text (closeRound text opener closer start) (offsetOf text after) (depth + 1, false) := by
  rcases eq_of_leap_over hleap with ⟨rfl, d, rfl⟩ | ⟨hc, inside, hcut⟩
  · exact loop_skip (fun i b => closeRound_foreign hkind) h (by decide)
      (closeRound_backslash (byteAt?_of_lt h (by decide)) rfl)
  · have hascii : c.toNat < 128 := by
      rcases hc with rfl | ⟨rfl, -⟩ <;> decide
    have hafter : c :: after <:+ rest := ⟨inside, (eq_of_cut hcut).symm⟩
    have hmark := nextUnescaped_behind h (hc.imp_right And.left)
    rw [hcut, Option.map_some] at hmark
    have hround : closeRound text opener closer start (offsetOf text (c :: rest)) (depth + 1, argStart) =
        pure (.again (offsetOf text (c :: after) + 1) (depth + 1, false)) := by
      refine closeRound_skip (byteAt?_of_lt h hascii) ?_ hmark
      exact hc.imp (⟨·, hstart⟩) (by simp)
    rw [offsetOf_add_one (hafter.trans ((List.suffix_cons c rest).trans h)) hascii] at hround
    exact loop_past hround h List.suffix_rfl ((List.suffix_cons c after).trans hafter)

theorem loop_step (hleap : leap (argStart && depth == 0) c rest = .step) (hc : ¬(c = closer ∧ depth = 0)) :
    loop text (closeRound text opener closer start) (offsetOf text (c :: rest)) (depth + 1, argStart) =
      loop text (closeRound text opener closer start) (offsetOf text rest)
        ((if c = opener then depth + 1 else if c = closer then depth - 1 else depth) + 1,
          if isAsciiBlank c then argStart else c == ',' && depth == 0) := by
  obtain ⟨hb, hq, hs⟩ := of_leap_step hleap
  have hpos := offsetOf_lt_size h (List.cons_ne_nil _ _)
  rcases Nat.lt_or_ge c.toNat 128 with hascii | hforeign
  · have hmark (hslash : c = '/') (harg : argStart = true) (hdepth : depth = 0) :
        nextUnescaped '/' text (offsetOf text (c :: rest) + 1) = none := by
      subst hslash
      rw [nextUnescaped_behind h (.inr rfl), hs rfl (by simp [harg, hdepth]), Option.map_none]
    have hround : closeRound text opener closer start (offsetOf text (c :: rest)) (depth + 1, argStart) = _ :=
      closeRound_step hkind (byteAt?_of_lt h hascii) hb hq hmark
    rw [if_neg hc, offsetOf_add_one h hascii] at hround
    exact loop_past hround h List.suffix_rfl List.suffix_rfl
  · obtain ⟨b, hbyte, hb⟩ := exists_byteAt?_of_le h hforeign c.utf8Size_pos
    obtain ⟨-, hdepth, hnext⟩ := update_foreign hkind hforeign depth argStart
    rw [hdepth, hnext]
    rw [Nat.add_zero] at hbyte
    rw [loop_again (closeRound_foreign hkind hbyte hb) (Nat.lt_succ_self _) hpos]
    exact loop_foreign (fun i b => closeRound_foreign hkind) h hforeign c.utf8Size_pos

end Character

/-- Where so many brackets are open within the first one, the search through the bytes finds what the search through the
characters finds. -/
theorem loop_closeRound {rest : List Char} (h : rest <:+ text.toList) (hstart : start < offsetOf text rest)
    (depth : Nat) (argStart : Bool) :
    loop text (closeRound text opener closer start) (offsetOf text rest) (depth + 1, argStart) =
      pure ((closing opener closer depth argStart rest).map fun (_, after) => offsetOf text (closer :: after)) := by
  fun_induction closing opener closer depth argStart rest with
  | case1 =>
    have hend : byteAt? text (offsetOf text []) = none := byteAt?_eq_none_iff.mpr (offsetOf_nil text).ge
    exact loop_done (closeRound_end hend)
  | case2 depth argStart c rest hleap => exact loop_unclosed h hstart hleap
  | case3 depth argStart c rest taken after hleap ih =>
    have hafter : after <:+ c :: rest := ⟨c :: taken, by rw [eq_of_leap hleap]; rfl⟩
    have hlength : after.length < (c :: rest).length := Nat.lt_succ_of_le (length_le_of_leap hleap)
    rw [loop_over hkind h hstart hleap, ih (hafter.trans h) (hstart.trans (offsetOf_lt h hafter hlength)),
      Option.map_map]
    rfl
  | case4 depth argStart c rest hleap hclose =>
    obtain ⟨rfl, rfl⟩ := hclose
    obtain ⟨hb, hq, -⟩ := of_leap_step hleap
    obtain ⟨-, hcloser⟩ := closerOf?_ascii hkind
    obtain ⟨-, hmark, -⟩ := Tag.isMark_of_closerOf? hkind
    refine loop_done ?_
    rw [closeRound_step hkind (byteAt?_of_lt h hcloser) hb hq fun hslash => absurd hslash hmark.ne_slash,
      if_pos ⟨rfl, rfl⟩]
    rfl
  | case5 depth argStart c rest hleap hclose ih =>
    simp only [dite_eq_ite] at ih
    have hrest := (List.suffix_cons c rest).trans h
    have hpast := offsetOf_lt h (List.suffix_cons c rest) (Nat.lt_succ_self _)
    rw [loop_step hkind h hleap hclose, ih hrest (hstart.trans hpast), Option.map_map]
    rfl

/-- The bracket at the start is the first one that is open. -/
theorem closeRound_opener (hbyte : byteAt? text start = some opener) :
    closeRound text opener closer start start (0, true) = pure (.again (start + 1) (1, true)) := by
  obtain ⟨hopen, -, hne⟩ := Tag.isMark_of_closerOf? hkind
  simp [closeRound, hbyte, hopen.ne_backslash, hne, hopen.not_asciiBlank]

end Search

theorem exists_of_byteAt? {text : String} {i : Nat} {b : Char} (h : byteAt? text i = some b) (hb : b.toNat < 128) :
    ∃ rest, b :: rest <:+ text.toList ∧ offsetOf text (b :: rest) = i := by
  obtain ⟨front, rest, htext, rfl⟩ := exists_of_getElem?_bytes h hb
  exact ⟨rest, ⟨front, htext.symm⟩, offsetOf_of_append htext⟩

section Opener

variable {text : String} {c : Char} {rest : List Char} (h : c :: rest <:+ text.toList)
include h

theorem matchingClose_offsetOf :
    Text.matchingClose text (offsetOf text (c :: rest)) =
      (closerOf? c).bind fun closer =>
        (closing c closer 0 true rest).map fun (_, after) => offsetOf text (closer :: after) := by
  obtain ⟨front, -, hsplit⟩ := splitAtByte_offsetOf h
  rw [Text.matchingClose, hsplit]
  simp only [Option.bind_eq_bind, Option.bind_some, bracketed?]
  cases hkind : closerOf? c with
  | none => rfl
  | some closer =>
    simp only [Option.bind_some]
    cases hclosing : closing c closer 0 true rest with
    | none => rfl
    | some p =>
      obtain ⟨inside, after⟩ := p
      have hafter := offsetOf_append (eq_of_closing hclosing ▸ (List.suffix_cons c rest).trans h)
      rw [← eq_of_closing hclosing, ← offsetOf_add_one h (closerOf?_ascii hkind).1] at hafter
      exact congrArg some hafter.symm

theorem matchingClose_opener (hc : c.toNat < 128) :
    matchingClose text (offsetOf text (c :: rest)) = pure (Text.matchingClose text (offsetOf text (c :: rest))) := by
  rw [matchingClose_offsetOf h, matchingClose, byteAt?_of_lt h hc]
  cases hkind : closerOf? c with
  | none => simp only [hkind, Option.bind_none]
  | some closer =>
    have hround := closeRound_opener hkind (byteAt?_of_lt h hc)
    rw [offsetOf_add_one h hc] at hround
    have hrest := (List.suffix_cons c rest).trans h
    have hpast := offsetOf_lt h (List.suffix_cons c rest) (Nat.lt_succ_self _)
    simp only [hkind, Option.bind_some]
    rw [loop_past hround h List.suffix_rfl List.suffix_rfl, loop_closeRound hkind hrest hpast 0 true]

end Opener

/-- The number of open brackets never falls below zero, and the brackets that are found are those of the text. -/
theorem matchingClose_eq (text : String) (start : Nat) :
    matchingClose text start = pure (Text.matchingClose text start) := by
  by_cases hopen : ∃ c rest, c :: rest <:+ text.toList ∧ c.toNat < 128 ∧ offsetOf text (c :: rest) = start
  · obtain ⟨c, rest, h, hascii, rfl⟩ := hopen
    exact matchingClose_opener h hascii
  · have hchecked : matchingClose text start = pure none := by
      rw [matchingClose]
      cases hbyte : byteAt? text start with
      | none => rfl
      | some b =>
        cases hkind : closerOf? b with
        | none => simp only [hkind]
        | some closer =>
          have hascii := (closerOf?_ascii hkind).1
          obtain ⟨rest, h, hstart⟩ := exists_of_byteAt? hbyte hascii
          exact absurd ⟨b, rest, h, hascii, hstart⟩ hopen
    have hnone : Text.matchingClose text start = none := by
      rw [Text.matchingClose, Option.bind_eq_bind, Option.bind_eq_none_iff]
      rintro ⟨front, rest⟩ hsplit
      obtain ⟨htext, rfl⟩ := splitAtByte_eq_some_iff.mp hsplit
      cases hinside : bracketed? rest with
      | none => simp only [hinside, Option.bind_none]
      | some p =>
        obtain ⟨opener, closer, hkind, rfl⟩ := eq_of_bracketed? hinside
        exact absurd ⟨opener, _, ⟨front, htext.symm⟩, (closerOf?_ascii hkind).1, offsetOf_of_append htext⟩ hopen
    rw [hchecked, hnone]

theorem matchingClose_parenthesis {text : String} {rest : List Char} (h : '(' :: rest <:+ text.toList) :
    matchingClose text (offsetOf text ('(' :: rest)) =
      pure ((closing '(' ')' 0 true rest).map fun (_, after) => offsetOf text (')' :: after)) := by
  have hkind : closerOf? '(' = some ')' := rfl
  rw [matchingClose_eq, matchingClose_offsetOf h, hkind, Option.bind_some]

theorem charAt_of_matchingClose {text : String} {start stop : Nat} (h : Text.matchingClose text start = some stop) :
    ∃ opener closer, closerOf? opener = some closer ∧ CharAt text start opener ∧ CharAt text stop closer ∧
      start < stop := by
  obtain ⟨⟨front, rest⟩, hsplit, hrest⟩ := Option.bind_eq_some_iff.mp h
  obtain ⟨⟨inside, after⟩, hinside, hstop⟩ := Option.bind_eq_some_iff.mp hrest
  obtain ⟨htext, rfl⟩ := splitAtByte_eq_some_iff.mp hsplit
  obtain ⟨opener, closer, hkind, rfl⟩ := eq_of_bracketed? hinside
  obtain rfl := Option.some.inj hstop
  have hsize := utf8Size_of_lt (closerOf?_ascii hkind).1
  have hclose : text.toList = (front ++ opener :: inside) ++ closer :: after := by
    rw [htext, List.append_assoc]
  refine ⟨opener, closer, hkind, ⟨front, _, htext, rfl⟩, ⟨_, _, hclose, ?_⟩, by omega⟩
  rw [byteLength_append, byteLength_cons, hsize, Nat.add_assoc]

end Stencil.ByOffset
