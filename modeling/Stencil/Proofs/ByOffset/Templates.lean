import Stencil.Proofs.ByOffset.Moves
import Stencil.Proofs.Layout

/-!
# Templates by byte offsets

A template is read up to the next brace or backslash, again and again, and what is put out grows with each round. The
brace that closes a tag is looked for byte by byte, with the number of open braces, which never falls below zero.
Whatever the tags render to, the loop puts out what the pieces of the template do.
-/
namespace Stencil.ByOffset

open Stencil.Text Stencil.Tag

def braceRound (text : String) (i depth : Nat) : Checked (Round Nat (Option Nat)) :=
  match byteAt? text i with
  | none => return .done none
  | some b =>
    if b = '\\' then return .again (i + 2) depth
    else if b = '\x7b' then return .again (i + 1) (depth + 1)
    else if b = '\x7d' then do
      let depth' ← minus depth 1
      if depth' = 0 then return .done (some i) else return .again (i + 1) depth'
    else return .again (i + 1) depth

/-- The brace that closes the tag which is opened at the start. -/
def tagClose? (text : String) (start : Nat) : Checked (Option Nat) := loop text (braceRound text) start 0

/-- What begins a round of the loop over a template. -/
def isCut (c : Char) : Bool := c == '\x7b' || c == '\\'

def nextCut? (text : String) (pos : Nat) : Checked (Option Nat) := do
  let rest ← ahead text pos
  return if rest.any isCut then some (byteLength (rest.takeWhile (!isCut ·))) else none

def put (out more : Run String) : Run String := do
  let s ← out
  let t ← more
  return s ++ t

/-- What a round does at a brace or a backslash. -/
def cutAt (tag : String → Run String) (text : String) (i : Nat) (out : Run String) :
    Checked (Round (Run String) (Run String)) := do
  if ← startsWith text i "\\\x7b" then return .again (i + 2) (put out (pure "\x7b"))
  else if ← startsWith text i "\\" then return .again (i + 1) (put out (pure "\\"))
  else
    let opensTag := (← peek text (i + 1)).any isSigil
    match (← tagClose? text i).filter fun _ => opensTag with
    | some close => return .again (close + 1) (put out (tag (← slice text i (close + 1))))
    | none => return .again (i + 1) (put out (pure "\x7b"))

def templateRound (tag : String → Run String) (text : String) (pos : Nat) (out : Run String) :
    Checked (Round (Run String) (Run String)) := do
  match ← nextCut? text pos with
  | some found => cutAt tag text (pos + found) (put out (pure (← slice text pos (pos + found))))
  | none => return .done (put out (pure (← sliceFrom text pos)))

def template (tag : String → Run String) (text : String) : Checked (Run String) :=
  loop text (templateRound tag text) 0 (pure "")

/-- The sigil of a tag without its braces, and what is behind it. -/
def afterSigil? (body : String) : Checked (Option (Char × String)) :=
  match body.toList.head? with
  | none => return none
  | some sigil => if isSigil sigil then return some (sigil, ← sliceFrom body sigil.utf8Size) else return none

theorem afterSigil?_eq (body : String) :
    afterSigil? body = pure (match body.toList with
      | [] => none
      | sigil :: rest => if isSigil sigil then some (sigil, String.ofList rest) else none) := by
  rw [afterSigil?]
  cases hbody : body.toList with
  | nil => rfl
  | cons sigil rest =>
    have hsuffix : sigil :: rest <:+ body.toList := hbody ▸ List.suffix_rfl
    have hoffset := offsetOf_cons hsuffix
    rw [← hbody, offsetOf_toList, Nat.zero_add] at hoffset
    have hslice := sliceFrom_offsetOf ((List.suffix_cons sigil rest).trans hsuffix)
    rw [hoffset] at hslice
    simp only [List.head?_cons, hslice]
    split <;> rfl

section Close

variable {text : String} {i depth : Nat} {b : Char}

theorem braceRound_of_byteAt? (hbyte : byteAt? text i = some b) (depth : Nat) (hclose : ¬(b = '\x7d' ∧ depth = 0)) :
    braceRound text i (depth + 1) = pure (.again (if b = '\\' then i + 2 else i + 1)
      ((if b = '\x7b' then depth + 1 else if b = '\x7d' then depth - 1 else depth) + 1)) := by
  rw [braceRound, hbyte]
  dsimp only
  by_cases hb : b = '\\'
  · subst hb
    simp
  by_cases ho : b = '\x7b'
  · subst ho
    simp
  by_cases hc : b = '\x7d'
  · subst hc
    have hdepth : depth ≠ 0 := fun h => hclose ⟨rfl, h⟩
    have hback : depth - 1 + 1 = depth := by omega
    simp [minus_of_le, hdepth, hback]
  · simp [hb, ho, hc]

theorem braceRound_foreign (hbyte : byteAt? text i = some b) (hb : 128 ≤ b.toNat) :
    braceRound text i (depth + 1) = pure (.again (i + 1) (depth + 1)) := by
  have hne {d : Char} (hd : d.toNat < 128) : b ≠ d := ne_of_foreign hb hd
  have hclose : b ≠ '\x7d' := hne (by decide)
  rw [braceRound_of_byteAt? hbyte depth fun h => hclose h.1, if_neg (hne (by decide)), if_neg (hne (by decide)),
    if_neg hclose]

theorem braceRound_end (hbyte : byteAt? text i = none) : braceRound text i depth = pure (.done none) := by
  rw [braceRound, hbyte]

/-- Where so many braces are open within the first one, the search finds what the search through the characters finds. -/
theorem loop_braceRound {rest : List Char} (h : rest <:+ text.toList) (depth : Nat) :
    loop text (braceRound text) (offsetOf text rest) (depth + 1) =
      pure ((Piece.throughBrace? depth rest).map fun (_, after) => offsetOf text ('\x7d' :: after)) := by
  have hend : byteAt? text text.utf8ByteSize = none := byteAt?_eq_none_iff.mpr (Nat.le_refl _)
  fun_induction Piece.throughBrace? depth rest with
  | case1 depth =>
    rw [offsetOf_nil]
    exact loop_done (braceRound_end hend)
  | case2 depth =>
    have hbyte := byteAt?_of_lt h (by decide)
    have hround := braceRound_of_byteAt? hbyte depth (by simp)
    have hsize := offsetOf_add_one h (by decide)
    rw [offsetOf_nil] at hsize
    rw [if_pos rfl] at hround
    rw [loop_again hround (by omega) (by omega)]
    exact loop_done (braceRound_end (byteAt?_eq_none_iff.mpr (by omega)))
  | case3 depth d rest ih =>
    have hround := braceRound_of_byteAt? (byteAt?_of_lt h (by decide)) depth (by simp)
    rw [loop_skip (fun i b => braceRound_foreign) h (by decide) hround, Option.map_map]
    exact ih (List.IsSuffix.trans ⟨['\\', d], rfl⟩ h)
  | case4 depth c rest _ _ hc =>
    obtain ⟨rfl, rfl⟩ := hc
    refine loop_done ?_
    rw [braceRound, byteAt?_of_lt h (by decide)]
    rfl
  | case5 depth c rest hlast hescape hc ih =>
    have hrest := (List.suffix_cons c rest).trans h
    have hback : c ≠ '\\' := by
      rintro rfl
      cases rest with
      | nil => exact hlast rfl rfl
      | cons d rest => exact hescape d rest rfl rfl
    rw [Option.map_map]
    rcases Nat.lt_or_ge c.toNat 128 with hlow | hhigh
    · have hround := braceRound_of_byteAt? (byteAt?_of_lt h hlow) depth hc
      rw [if_neg hback, offsetOf_add_one h hlow] at hround
      rw [loop_past hround h List.suffix_rfl List.suffix_rfl]
      exact ih hrest
    · -- No byte of the character is a brace, and each of them takes a round of its own.
      have hne {d : Char} (hd : d.toNat < 128) : c ≠ d := ne_of_foreign hhigh hd
      rw [if_neg (hne (by decide)), if_neg (hne (by decide))] at ih ⊢
      rw [← Nat.add_zero (offsetOf text (c :: rest)),
        loop_foreign (fun i b => braceRound_foreign) h hhigh (Nat.zero_le _)]
      exact ih hrest

theorem tagClose?_offsetOf {rest : List Char} (h : '\x7b' :: rest <:+ text.toList) :
    tagClose? text (offsetOf text ('\x7b' :: rest)) =
      pure ((Piece.throughBrace? 0 rest).map fun (_, after) => offsetOf text ('\x7d' :: after)) := by
  have hround : braceRound text (offsetOf text ('\x7b' :: rest)) 0 = pure (.again (offsetOf text rest) 1) := by
    rw [braceRound, byteAt?_of_lt h (by decide), ← offsetOf_add_one h (by decide)]
    rfl
  rw [tagClose?, loop_past hround h List.suffix_rfl List.suffix_rfl]
  exact loop_braceRound ((List.suffix_cons _ rest).trans h) 0

/-- The search for the closing brace ends with it. -/
theorem exists_of_throughBrace? {s taken after : List Char} (h : Piece.throughBrace? depth s = some (taken, after)) :
    ∃ inside, taken = inside ++ ['\x7d'] := by
  fun_induction Piece.throughBrace? depth s generalizing taken with
  | case1 => cases h
  | case2 => cases h
  | case3 depth d rest ih =>
    obtain ⟨⟨t, a⟩, ht, heq⟩ := Option.map_eq_some_iff.mp h
    obtain ⟨rfl, rfl⟩ := Prod.mk.inj heq
    obtain ⟨inside, rfl⟩ := ih ht
    exact ⟨'\\' :: d :: inside, rfl⟩
  | case4 depth c rest _ _ hc =>
    obtain ⟨rfl, -⟩ := Prod.mk.inj (Option.some.inj h)
    exact ⟨[], by rw [hc.1]; rfl⟩
  | case5 depth c rest _ _ _ ih =>
    obtain ⟨⟨t, a⟩, ht, heq⟩ := Option.map_eq_some_iff.mp h
    obtain ⟨rfl, rfl⟩ := Prod.mk.inj heq
    obtain ⟨inside, rfl⟩ := ih ht
    exact ⟨c :: inside, rfl⟩

end Close

theorem put_put (out a b : Run String) : put (put out a) b = put out (put a b) := by
  simp only [put, bind_assoc, pure_bind, String.append_assoc]

theorem put_pure (s : String) (more : Run String) : put (pure s) more = (s ++ ·) <$> more := by
  rw [put, pure_bind, map_eq_pure_bind]

section Templates

variable {text : String} {front rest : List Char} {c : Char}

theorem pieces_uncut (hfront : ∀ c ∈ front, isCut c = false) (s : List Char) :
    Piece.pieces (front ++ s) = front.foldr Piece.addChar (Piece.pieces s) := by
  induction front with
  | nil => rfl
  | cons c front ih =>
    have hc : c ≠ '\x7b' ∧ c ≠ '\\' := by simpa [isCut] using hfront c (by simp)
    rw [List.cons_append, Piece.pieces_char hc.1 fun h => absurd h hc.2, List.foldr_cons,
      ih fun d hd => hfront d (by simp [hd])]

theorem pieces_brace (rest : List Char) :
    Piece.pieces ('\x7b' :: rest) =
      match Piece.tagAfterBrace? rest with
      | some (t, after) => .tag t :: Piece.pieces after
      | none => Piece.addChar '\x7b' (Piece.pieces rest) := by
  rw [Piece.pieces, if_neg (by simp), if_pos rfl]
  split <;> simp [*]

theorem suffix_of_tagAfterBrace? {t after : List Char} (h : Piece.tagAfterBrace? rest = some (t, after)) :
    after <:+ rest := by
  unfold Piece.tagAfterBrace? at h
  split at h
  · obtain ⟨⟨taken, after'⟩, htaken, heq⟩ := Option.map_eq_some_iff.mp h
    obtain ⟨-, rfl⟩ := Prod.mk.inj heq
    exact ⟨taken, (Piece.eq_of_throughBrace? htaken).symm⟩
  · cases h

theorem nextCut?_offsetOf (h : front ++ c :: rest <:+ text.toList) (hfront : ∀ c ∈ front, isCut c = false)
    (hc : isCut c = true) :
    nextCut? text (offsetOf text (front ++ c :: rest)) = pure (some (byteLength front)) := by
  have htake : (front ++ c :: rest).takeWhile (!isCut ·) = front :=
    takeWhile_append_stop (by simpa using hfront) (by simpa using hc)
  rw [nextCut?, ahead_offsetOf h, pure_bind, if_pos (by simp [hc]), htake]

theorem nextCut?_of_uncut (h : rest <:+ text.toList) (hrest : ∀ c ∈ rest, isCut c = false) :
    nextCut? text (offsetOf text rest) = pure none := by
  rw [nextCut?, ahead_offsetOf h, pure_bind, if_neg]
  simpa using hrest

theorem cutAt_backslash (tag : String → Run String) (out : Run String) (h : '\\' :: rest <:+ text.toList) :
    cutAt tag text (offsetOf text ('\\' :: rest)) out =
      pure (if rest.head? = some '\x7b' then .again (offsetOf text (rest.drop 1)) (put out (pure "\x7b"))
        else .again (offsetOf text rest) (put out (pure "\\"))) := by
  have hrest := (List.suffix_cons _ rest).trans h
  have hone := offsetOf_add_one h (by decide)
  by_cases hbrace : rest.head? = some '\x7b'
  · obtain ⟨more, rfl⟩ := List.head?_eq_some_iff.mp hbrace
    have hescape : (dropStart? "\\\x7b".toList ('\\' :: '\x7b' :: more)).isSome = true := rfl
    rw [cutAt, startsWith_offsetOf h, pure_bind, hescape, if_pos rfl, if_pos hbrace, List.drop_one, List.tail_cons,
      ← offsetOf_add_one hrest (by decide), ← hone]
  · have hescape : (dropStart? "\\\x7b".toList ('\\' :: rest)).isSome = false := by
      rw [Option.isSome_eq_false_iff, Option.isNone_iff_eq_none, dropStart?_eq_none]
      rintro ⟨more, hmore⟩
      exact hbrace (by rw [← (List.cons.inj hmore).2]; rfl)
    have hback : (dropStart? "\\".toList ('\\' :: rest)).isSome = true := rfl
    rw [cutAt, startsWith_offsetOf h, startsWith_offsetOf h, pure_bind, hescape, if_neg Bool.false_ne_true, pure_bind,
      hback, if_pos rfl, if_neg hbrace, hone]

theorem cutAt_brace (tag : String → Run String) (out : Run String) (h : '\x7b' :: rest <:+ text.toList) :
    cutAt tag text (offsetOf text ('\x7b' :: rest)) out =
      pure (match Piece.tagAfterBrace? rest with
        | some (t, after) => .again (offsetOf text after) (put out (tag (String.ofList t)))
        | none => .again (offsetOf text rest) (put out (pure "\x7b"))) := by
  have hrest := (List.suffix_cons _ rest).trans h
  have hescape : (dropStart? "\\\x7b".toList ('\x7b' :: rest)).isSome = false := rfl
  have hback : (dropStart? "\\".toList ('\x7b' :: rest)).isSome = false := rfl
  rw [cutAt, startsWith_offsetOf h, startsWith_offsetOf h, pure_bind, hescape, if_neg Bool.false_ne_true, pure_bind,
    hback, if_neg Bool.false_ne_true, offsetOf_add_one h (by decide), peek_offsetOf hrest, pure_bind,
    tagClose?_offsetOf h, pure_bind, Piece.tagAfterBrace?]
  cases hsigil : rest.head?.any isSigil with
  | false => simp
  | true =>
    cases hclose : Piece.throughBrace? 0 rest with
    | none => rfl
    | some closed =>
      obtain ⟨taken, after⟩ := closed
      obtain ⟨inside, rfl⟩ := exists_of_throughBrace? hclose
      have hpiece : ('\x7b' :: (inside ++ ['\x7d'])) ++ after <:+ text.toList := by
        rw [List.cons_append, ← Piece.eq_of_throughBrace? hclose]
        exact h
      have hbehind : '\x7d' :: after <:+ text.toList := List.IsSuffix.trans ⟨'\x7b' :: inside, by simp⟩ hpiece
      have hslice := slice_offsetOf hpiece
      rw [List.cons_append, ← Piece.eq_of_throughBrace? hclose] at hslice
      simp only [Option.map_some, Option.filter_some, if_true]
      rw [offsetOf_add_one hbehind (by decide), hslice]
      rfl

section Rendered

variable (e : Engine) (r : Resolver) (depth : Nat) (deeper : Unit → Engine.Level)

/-- At a brace or a backslash something is put out, and the loop goes on behind it. The pieces from there on begin with
what is put out, too. -/
theorem exists_of_cutAt (h : c :: rest <:+ text.toList) (hc : isCut c = true) (out : Run String) :
    ∃ after more, after <:+ rest ∧
      cutAt (e.renderTagAt r depth deeper) text (offsetOf text (c :: rest)) out =
        pure (.again (offsetOf text after) (put out more)) ∧
      e.renderPieces r depth deeper (Piece.pieces (c :: rest)) =
        put more (e.renderPieces r depth deeper (Piece.pieces after)) := by
  have hmark : c = '\x7b' ∨ c = '\\' := by simpa [isCut] using hc
  rcases hmark with rfl | rfl
  · have hround := cutAt_brace (e.renderTagAt r depth deeper) out h
    have hpieces := pieces_brace rest
    cases htag : Piece.tagAfterBrace? rest with
    | some closed =>
      obtain ⟨tag, after⟩ := closed
      rw [htag] at hround hpieces
      refine ⟨after, _, suffix_of_tagAfterBrace? htag, hround, ?_⟩
      rw [hpieces, Engine.renderPieces_cons]
      rfl
    | none =>
      rw [htag] at hround hpieces
      refine ⟨rest, _, List.suffix_rfl, hround, ?_⟩
      rw [hpieces, Engine.renderPieces_addChar, put_pure]
      rfl
  · have hround := cutAt_backslash (e.renderTagAt r depth deeper) out h
    by_cases hbrace : rest.head? = some '\x7b'
    · obtain ⟨after, rfl⟩ := List.head?_eq_some_iff.mp hbrace
      refine ⟨after, _, List.suffix_cons _ after, hround, ?_⟩
      rw [Piece.pieces_escaped, Engine.renderPieces_addChar, put_pure]
      rfl
    · rw [if_neg hbrace] at hround
      refine ⟨rest, _, List.suffix_rfl, hround, ?_⟩
      rw [Piece.pieces_char (by decide) fun _ => hbrace, Engine.renderPieces_addChar, put_pure]
      rfl

/-- The loop from a place on, whatever has been put out before. -/
theorem loop_templateRound (h : rest <:+ text.toList) (out : Run String) :
    loop text (templateRound (e.renderTagAt r depth deeper) text) (offsetOf text rest) out =
      pure (put out (e.renderPieces r depth deeper (Piece.pieces rest))) := by
  induction hlength : rest.length using Nat.strong_induction_on generalizing rest out with
  | _ n ih =>
    subst hlength
    cases hfind : rest.find? isCut with
    | none =>
      have hrest : ∀ c ∈ rest, isCut c = false := by simpa using hfind
      have hpieces := pieces_uncut hrest []
      rw [List.append_nil] at hpieces
      refine loop_done ?_
      rw [templateRound, nextCut?_of_uncut h hrest, pure_bind]
      dsimp only
      rw [sliceFrom_offsetOf h, pure_bind, hpieces, Engine.renderPieces_foldr_addChar, Piece.pieces,
        Engine.renderPieces_nil]
      simp
    | some c =>
      obtain ⟨hc, front, behind, rfl, hfront⟩ := List.find?_eq_some_iff_append.mp hfind
      have hfront' : ∀ d ∈ front, isCut d = false := by simpa using hfront
      have hcut : c :: behind <:+ text.toList := (List.suffix_append front _).trans h
      obtain ⟨after, more, hafter, hround, hmore⟩ :=
        exists_of_cutAt e r depth deeper hcut hc (put out (pure (String.ofList front)))
      have hwhole : templateRound (e.renderTagAt r depth deeper) text (offsetOf text (front ++ c :: behind)) out =
          pure (.again (offsetOf text after) (put (put out (pure (String.ofList front))) more)) := by
        rw [templateRound, nextCut?_offsetOf h hfront' hc, pure_bind]
        dsimp only
        rw [← offsetOf_append h, slice_offsetOf h, pure_bind, hround]
      have hlength : after.length < (front ++ c :: behind).length := by
        have hle := hafter.length_le
        simp only [List.length_append, List.length_cons]
        omega
      have hsuffix := hafter.trans ((List.suffix_cons c behind).trans hcut)
      rw [loop_past hwhole h (List.suffix_append front _) hafter, ih after.length hlength hsuffix _ rfl,
        pieces_uncut hfront', Engine.renderPieces_foldr_addChar, hmore, ← put_pure, put_put, put_put]

end Rendered

/-- By offsets, a template is rendered as it is by its pieces, and nothing faults. -/
theorem template_eq (e : Engine) (r : Resolver) (depth : Nat) (deeper : Unit → Engine.Level) (text : String) :
    template (e.renderTagAt r depth deeper) text = pure (e.renderAt r depth deeper text) := by
  have hloop := loop_templateRound e r depth deeper (List.suffix_refl text.toList) (pure "")
  rw [offsetOf_toList] at hloop
  rw [template, hloop, Engine.renderAt_eq, put_pure]
  simp

end Templates

end Stencil.ByOffset
