import Stencil.Proofs.Decoding
import Stencil.Proofs.Offsets

/-!
# Quoted text

Text that has been guarded for quotes does not end them: the first quote behind the opening one that is not escaped is
the closing one, whatever runs of backslashes the text holds. Taking the backslashes off again gives the text.
-/
namespace Stencil.Text

def isGuarded (c : Char) : Bool := c == '\\' || c == '"' || c == '\''

theorem quote_eq_escapeMarks (s : List Char) : quote s = escapeMarks isGuarded s := by
  induction s with
  | nil => rfl
  | cons c s ih =>
    have hchar : quoteChar c = if isGuarded c then ['\\', c] else [c] := by
      simp [quoteChar, isGuarded, or_assoc]
    rw [quote, List.flatMap_cons, ← quote, ih, hchar, escapeMarks, escapeMarks, List.flatMap_cons]

theorem guarded_quote {mark : Char} (hmark : isGuarded mark = true) (hne : mark ≠ '\\') (s : List Char) :
    Guarded mark (quote s) := by
  rw [quote_eq_escapeMarks]
  exact guarded_escapeMarks_of_backslash hmark rfl hne

/-- Takes the backslash off each pair of a backslash and a character, from left to right. -/
def unpair : List Char → List Char
  | '\\' :: c :: rest => c :: unpair rest
  | c :: rest => c :: unpair rest
  | [] => []

theorem unpair_cons_of_ne {c : Char} (hc : c ≠ '\\') (s : List Char) : unpair (c :: s) = c :: unpair s := by
  rw [unpair.eq_def]
  split <;> simp_all

/-- Where backslashes have been escaped among other marks, the pairs are those that escaping has made. -/
theorem unpair_escapeMarks {isMark : Char → Bool} (hb : isMark '\\' = true) (s : List Char) :
    unpair (escapeMarks isMark s) = s := by
  induction s with
  | nil => rfl
  | cons c s ih =>
    cases hc : isMark c with
    | true => rw [escapeMarks_cons_of_mark hc, unpair, ih]
    | false =>
      have hne : c ≠ '\\' := by
        rintro rfl
        simp [hb] at hc
      rw [escapeMarks_cons_of_not_mark hc, unpair_cons_of_ne hne, ih]

theorem unpair_quote (s : List Char) : unpair (quote s) = s := by
  rw [quote_eq_escapeMarks]
  exact unpair_escapeMarks rfl s

section Marked

variable {mark : Char} {inside : List Char} (h : Guarded mark inside) (after : List Char)
include h

/-- The first unescaped mark behind the opening one is the one behind the guarded text. -/
theorem nextUnescaped_marked (hne : mark ≠ '\\') :
    nextUnescaped mark (String.ofList (mark :: (inside ++ mark :: after))) (byteLength [mark]) =
      some (byteLength [mark] + byteLength inside) := by
  have hsplit : splitAtByte (byteLength [mark]) (mark :: (inside ++ mark :: after)) =
      some ([mark], inside ++ mark :: after) := splitAtByte_append [mark] _
  have hfree : escapedAfter [mark].reverse = false := escapedAfter_concat hne []
  rw [nextUnescaped, String.toList_ofList, hsplit]
  simp only [Option.bind_eq_bind, Option.bind_some, hfree, h.cut]
  rfl

theorem skipMarked?_marked :
    (Cursor.ofText (mark :: (inside ++ mark :: after))).skipMarked? mark =
      some ⟨(mark :: (inside ++ [mark])).reverse, after⟩ := by
  rw [Cursor.ofText, Cursor.skipMarked?]
  simp [h.through?, Cursor.past]

end Marked

end Stencil.Text

namespace Stencil.Engine

open Stencil.Text Stencil.Tag

theorem apply_quote (settle : Value → Run Value) (s : String) (call : Invocation) :
    Stock.quote.apply settle (some (.text s)) call = pure (some (.text (String.ofList (quote s.toList)))) := rfl

/-- The filter gives the guarded text under each of its names. -/
theorem evaluateChain_quote_name {e : Engine} (r : Resolver) (s : String) {name : String}
    (hname : name ∈ Stock.quote.names) (h : e.LeavesStock name) :
    e.evaluateChain r name (some (.text s)) = pure (some (.text (String.ofList (quote s.toList)))) := by
  have key (u : StockCall) (hstock : u.stock = .quote) (hu : u.text = name)
      (hlower : Unicode.lowercase (String.ofList u.name.chars) = name) :
      e.evaluateChain r name (some (.text s)) = pure (some (.text (String.ofList (quote s.toList)))) :=
    evaluateChain_named r hu hlower h (settled_text _) fun call => by rw [hstock, apply_quote]
  have hnames : name = "qs" ∨ name = "quoted" ∨ name = "escapequotes" := by simpa [Stock.names] using hname
  rcases hnames with rfl | rfl | rfl
  · exact key (bareCall "qs" .quote) rfl (by decide) (by decide)
  · exact key (bareCall "quoted" .quote) rfl (by decide) (by decide)
  · exact key (bareCall "escapequotes" .quote) rfl (by decide) (by decide)

/-- What the filter gives stands between quotes of either kind: the first unescaped quote behind the opening one closes
it, whatever follows, and a cursor that skips the quoted text stops there. With a backslash taken off each pair it is
the text that was given. -/
theorem quoted_within_quotes (e : Engine) (r : Resolver) (s after : String) :
    (∀ name ∈ Stock.quote.names, e.LeavesStock name →
      e.evaluateChain r name (some (.text s)) = pure (some (.text (String.ofList (quote s.toList))))) ∧
    nextUnescaped '"' (String.ofList ('"' :: (quote s.toList ++ '"' :: after.toList))) 1 =
      some (1 + byteLength (quote s.toList)) ∧
    (∃ k, (Cursor.ofText ('"' :: (quote s.toList ++ '"' :: after.toList))).skipQuoted? = some k ∧
      k.pos = 1 + byteLength (quote s.toList) + 1 ∧ k.ahead = after.toList) ∧
    nextUnescaped '\'' (String.ofList ('\'' :: (quote s.toList ++ '\'' :: after.toList))) 1 =
      some (1 + byteLength (quote s.toList)) ∧
    unpair (quote s.toList) = s.toList := by
  have hdouble : Guarded '"' (quote s.toList) := guarded_quote rfl (by decide) _
  have hsingle : Guarded '\'' (quote s.toList) := guarded_quote rfl (by decide) _
  refine ⟨fun name => evaluateChain_quote_name r s, nextUnescaped_marked hdouble _ (by decide),
    ⟨_, skipMarked?_marked hdouble _, ?_, rfl⟩, nextUnescaped_marked hsingle _ (by decide), unpair_quote _⟩
  have hmark : byteLength ['"'] = 1 := rfl
  rw [Cursor.pos, byteLength_reverse, byteLength_cons, byteLength_append, hmark, Nat.add_assoc]
  rfl

/-- A run of backslashes before a quote, and another one at the end. -/
theorem quoted_within_quotes_runs :
    "qs" ∈ Stock.quote.names ∧ standard.LeavesStock "qs" ∧
    standard.evaluateChain silent "qs" (some (.text "a\\\\\"\\")) = pure (some (.text "a\\\\\\\\\\\"\\\\")) ∧
    nextUnescaped '"' "\"a\\\\\\\\\\\"\\\\\"\"" 1 = some 10 := by
  have hmem : "qs" ∈ Stock.quote.names := by decide
  have hleaves : standard.LeavesStock "qs" := ⟨rfl, rfl⟩
  obtain ⟨hfilter, hnext, -⟩ := quoted_within_quotes standard silent "a\\\\\"\\" "\""
  exact ⟨hmem, hleaves, hfilter "qs" hmem hleaves, hnext⟩

end Stencil.Engine
