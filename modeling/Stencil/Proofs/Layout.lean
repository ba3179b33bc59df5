import Stencil.Engine

/-!
# Written templates

A template that is put together from escaped texts and tags is rendered piece by piece: the texts come out as
they are, and each tag as what it renders to.
-/
namespace Stencil

open Stencil.Tag

namespace Piece

def escapeBraces (t : List Char) : List Char :=
  t.flatMap fun c => if c = '\x7b' then ['\\', c] else [c]

theorem escapeBraces_brace (t : List Char) :
    escapeBraces ('\x7b' :: t) = '\\' :: '\x7b' :: escapeBraces t := rfl

theorem escapeBraces_cons {c : Char} (h : c ≠ '\x7b') (t : List Char) :
    escapeBraces (c :: t) = c :: escapeBraces t := by
  rw [escapeBraces, List.flatMap_cons, if_neg h]
  rfl

theorem head?_escapeBraces_append {t s : List Char} (h : t = [] → s.head? ≠ some '\x7b') :
    (escapeBraces t ++ s).head? ≠ some '\x7b' := by
  cases t with
  | nil => exact h rfl
  | cons c t =>
    by_cases hc : c = '\x7b'
    · rw [hc, escapeBraces_brace]
      simp
    · rw [escapeBraces_cons hc]
      simpa using hc

theorem pieces_escaped (rest : List Char) :
    pieces ('\\' :: '\x7b' :: rest) = addChar '\x7b' (pieces rest) := by
  rw [pieces, if_pos ⟨rfl, rfl⟩]
  rfl

theorem pieces_char {c : Char} {rest : List Char} (hc : c ≠ '\x7b')
    (hrest : c = '\\' → rest.head? ≠ some '\x7b') :
    pieces (c :: rest) = addChar c (pieces rest) := by
  have hescape : ¬(c = '\\' ∧ rest.head? = some '\x7b') := fun h => hrest h.1 h.2
  rw [pieces, if_neg hescape, if_neg hc]

/-- An escaped text is cut into its own characters, whatever tags it spells. -/
theorem pieces_escapeBraces_append {t s : List Char}
    (h : t.getLast? = some '\\' → s.head? ≠ some '\x7b') :
    pieces (escapeBraces t ++ s) = t.foldr addChar (pieces s) := by
  induction t with
  | nil => rfl
  | cons c t ih =>
    have htail : t.getLast? = some '\\' → s.head? ≠ some '\x7b' := by
      intro hlast
      apply h
      rw [List.getLast?_cons, hlast, Option.getD_some]
    rw [List.foldr_cons, ← ih htail]
    by_cases hc : c = '\x7b'
    · rw [hc, escapeBraces_brace]
      exact pieces_escaped _
    · rw [escapeBraces_cons hc]
      refine pieces_char hc fun hback => head?_escapeBraces_append fun hnil => h ?_
      rw [hback, hnil]
      rfl

/-- The search for the brace that closes a tag looks no further than that brace. -/
theorem throughBrace?_append {depth : Nat} {s taken after : List Char}
    (h : throughBrace? depth s = some (taken, after)) (t : List Char) :
    throughBrace? depth (s ++ t) = some (taken, after ++ t) := by
  fun_induction throughBrace? depth s generalizing taken with
  | case1 => simp at h
  | case2 => simp at h
  | case3 depth d rest ih =>
    obtain ⟨⟨u, a⟩, hu, hEq⟩ := Option.map_eq_some_iff.mp h
    obtain ⟨rfl, rfl⟩ := Prod.mk.inj hEq
    rw [List.cons_append, List.cons_append, throughBrace?, ih hu]
    rfl
  | case4 depth c rest _ _ hc =>
    obtain ⟨rfl, rfl⟩ := Prod.mk.inj (Option.some.inj h)
    obtain ⟨rfl, rfl⟩ := hc
    rw [List.cons_append, throughBrace?, if_pos ⟨rfl, rfl⟩]
    · nofun
    · nofun
  | case5 depth c rest hlast hescape hc ih =>
    obtain ⟨⟨u, a⟩, hu, hEq⟩ := Option.map_eq_some_iff.mp h
    obtain ⟨rfl, rfl⟩ := Prod.mk.inj hEq
    have hback : c ≠ '\\' := by
      rintro rfl
      cases rest with
      | nil => exact hlast rfl rfl
      | cons d rest => exact hescape d rest rfl rfl
    rw [List.cons_append, throughBrace?, if_neg hc, ih hu]
    · rfl
    · intro hc'
      exact absurd hc' hback
    · intro d rest' hc'
      exact absurd hc' hback

end Piece

/-- A tag as it stands in a template: a brace, a sigil and what follows up to the brace that closes it. -/
structure WrittenTag where
  inside : List Char
  sigil : inside.head?.any isSigil = true
  closed : Piece.throughBrace? 0 inside = some (inside, [])

def WrittenTag.text (g : WrittenTag) : String := String.ofList ('\x7b' :: g.inside)

theorem WrittenTag.pieces_append (g : WrittenTag) (s : List Char) :
    Piece.pieces ('\x7b' :: g.inside ++ s) = .tag ('\x7b' :: g.inside) :: Piece.pieces s := by
  have hhead : (g.inside ++ s).head?.any isSigil = true := by
    have hsigil := g.sigil
    rw [List.head?_append]
    cases hfirst : g.inside.head? with
    | none => simp [hfirst] at hsigil
    | some c => simpa [hfirst] using hsigil
  have htag : Piece.tagAfterBrace? (g.inside ++ s) = some ('\x7b' :: g.inside, s) := by
    rw [Piece.tagAfterBrace?, if_pos hhead, Piece.throughBrace?_append g.closed]
    rfl
  rw [List.cons_append, Piece.pieces, if_neg (by simp), if_pos rfl]
  split
  · next t after h =>
    rw [htag] at h
    obtain ⟨rfl, rfl⟩ := Prod.mk.inj (Option.some.inj h)
    rfl
  · next h => simp [htag] at h

/-- A written template: escaped texts with tags between them. No text before a tag ends with a backslash,
which would escape the tag. -/
inductive Layout where
  | text (t : String)
  | tag (before : String) (free : before.toList.getLast? ≠ some '\\') (g : WrittenTag) (after : Layout)

namespace Layout

def escaped (t : String) : String := String.ofList (Piece.escapeBraces t.toList)

def print : Layout → String
  | text t => escaped t
  | tag before _ g after => escaped before ++ g.text ++ after.print

/-- Gives the texts as they are and renders the tags, one after the other. -/
def render (e : Engine) (r : Resolver) : Layout → Run String
  | text t => return t
  | tag before _ g after => do
    let output ← e.renderTag r g.text
    let rest ← after.render e r
    return before ++ output ++ rest

end Layout

theorem ofList_cons (c : Char) (s : List Char) :
    String.ofList (c :: s) = String.singleton c ++ String.ofList s := by
  rw [← List.singleton_append, String.ofList_append]
  rfl

namespace Engine

variable (e : Engine) (r : Resolver) (depth : Nat) (deeper : Unit → Level)

def renderPiece : Piece → Run String
  | .text s => return String.ofList s
  | .tag s => e.renderTagAt r depth deeper (String.ofList s)

def renderPieces (ps : List Piece) : Run String := do
  let parts ← ps.mapM (e.renderPiece r depth deeper)
  return String.join parts

theorem renderAt_eq (template : String) :
    e.renderAt r depth deeper template =
      e.renderPieces r depth deeper (Piece.pieces template.toList) := rfl

theorem renderPieces_nil : e.renderPieces r depth deeper [] = pure "" := rfl

theorem renderPieces_cons (p : Piece) (ps : List Piece) :
    e.renderPieces r depth deeper (p :: ps) = do
      let output ← e.renderPiece r depth deeper p
      let rest ← e.renderPieces r depth deeper ps
      return output ++ rest := by
  rw [renderPieces, List.mapM_cons]
  simp only [bind_assoc, pure_bind, String.join_cons, renderPieces]

theorem renderPieces_addChar (c : Char) (ps : List Piece) :
    e.renderPieces r depth deeper (Piece.addChar c ps) =
      (fun s => String.singleton c ++ s) <$> e.renderPieces r depth deeper ps := by
  unfold Piece.addChar
  split
  · next s rest =>
    rw [renderPieces_cons, renderPieces_cons, map_eq_pure_bind, renderPiece, renderPiece, pure_bind,
      pure_bind, ofList_cons, bind_assoc]
    simp only [pure_bind, String.append_assoc]
  · rw [renderPieces_cons, renderPiece, pure_bind, map_eq_pure_bind]
    rfl

/-- Text in front of some pieces comes out in front of what they render to. -/
theorem renderPieces_foldr_addChar (t : List Char) (ps : List Piece) :
    e.renderPieces r depth deeper (t.foldr Piece.addChar ps) =
      (fun s => String.ofList t ++ s) <$> e.renderPieces r depth deeper ps := by
  induction t with
  | nil => simp
  | cons c t ih =>
    rw [List.foldr_cons, renderPieces_addChar, ih, ofList_cons, Functor.map_map]
    simp only [String.append_assoc]

theorem renderPieces_escaped {t s : List Char} (h : t.getLast? = some '\\' → s.head? ≠ some '\x7b') :
    e.renderPieces r depth deeper (Piece.pieces (Piece.escapeBraces t ++ s)) =
      (fun rest => String.ofList t ++ rest) <$> e.renderPieces r depth deeper (Piece.pieces s) := by
  rw [Piece.pieces_escapeBraces_append h, renderPieces_foldr_addChar]

theorem renderPieces_tag (g : WrittenTag) (s : List Char) :
    e.renderPieces r depth deeper (Piece.pieces ('\x7b' :: g.inside ++ s)) = do
      let output ← e.renderTagAt r depth deeper g.text
      let rest ← e.renderPieces r depth deeper (Piece.pieces s)
      return output ++ rest := by
  rw [g.pieces_append, renderPieces_cons]
  rfl

/-- A written template is rendered piece by piece. What its tags render to is not read again. -/
theorem render_print (l : Layout) : e.render r l.print = l.render e r := by
  induction l with
  | text t =>
    have hnone : t.toList.getLast? = some '\\' → ([] : List Char).head? ≠ some '\x7b' := by simp
    have hrender := renderPieces_escaped e r 0 (e.deeper r) hnone
    rw [List.append_nil] at hrender
    rw [render, renderAt_eq, Layout.print, Layout.escaped, String.toList_ofList, hrender]
    simp [Piece.pieces, renderPieces_nil, Layout.render]
  | tag before free g after ih =>
    have hchars : (Layout.tag before free g after).print.toList =
        Piece.escapeBraces before.toList ++ ('\x7b' :: g.inside ++ after.print.toList) := by
      simp [Layout.print, Layout.escaped, WrittenTag.text]
    have hfree : before.toList.getLast? = some '\\' →
        ('\x7b' :: g.inside ++ after.print.toList).head? ≠ some '\x7b' := fun h => absurd h free
    rw [render, renderAt_eq] at ih
    rw [render, renderAt_eq, hchars, renderPieces_escaped e r 0 (e.deeper r) hfree,
      renderPieces_tag, ih, String.ofList_toList, map_eq_pure_bind]
    simp only [bind_assoc, pure_bind, Layout.render, renderTag, String.append_assoc]

end Engine

end Stencil
