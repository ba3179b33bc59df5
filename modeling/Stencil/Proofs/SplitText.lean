import Stencil.Proofs.Arguments
import Stencil.Proofs.Decoding
import Stencil.Proofs.Numerals

/-!
# Splitting and joining

The pieces that a delimiter separates make up the text again with the delimiter between them. A limit bounds their
number, and only the last piece that a limit leaves can hold the delimiter.
-/
namespace Stencil.Text

section Pieces

variable (needle : List Char) (limit : Nat) (s : List Char)

/-- Nothing is lost between the pieces. -/
theorem intercalate_splitUpTo : needle.intercalate (splitUpTo needle limit s) = s := by
  fun_induction splitUpTo needle limit s with
  | case1 => simp [List.intercalate]
  | case2 => simp [List.intercalate]
  | case3 => simp [List.intercalate]
  | case4 limit s hn hlimit before after h ih =>
    obtain ⟨piece, more, hmore⟩ := List.exists_cons_of_ne_nil (splitUpTo_ne_nil needle (limit - 1) after)
    rw [hmore] at ih ⊢
    rw [List.intercalate_cons_cons, ih, eq_of_breakAt? h]
    

theorem length_splitUpTo_le (hlimit : limit ≠ 0) : (splitUpTo needle limit s).length ≤ limit := by
  fun_induction splitUpTo needle limit s with
  | case1 => simp; omega
  | case2 => simp
  | case3 => simp; omega
  | case4 limit s hn hone before after h ih =>
    have hrest := ih (by omega)
    simp
    omega

theorem length_splitUpTo_le_length : (splitUpTo needle limit s).length ≤ s.length + 1 := by
  fun_induction splitUpTo needle limit s with
  | case1 => simp
  | case2 => simp
  | case3 => simp
  | case4 limit s hn hone before after h ih =>
    have hlt := length_lt_of_breakAt? hn h
    simp
    omega

variable {needle} (hn : needle ≠ [])
include hn

/-- Only the last piece can hold what separates. -/
theorem not_infix_of_mem_dropLast_splitUpTo {piece : List Char}
    (hpiece : piece ∈ (splitUpTo needle limit s).dropLast) : ¬needle <:+: piece := by
  fun_induction splitUpTo needle limit s with
  | case1 => simp at hpiece
  | case2 => simp at hpiece
  | case3 => simp at hpiece
  | case4 limit s _ hone before after h ih =>
    rw [List.dropLast_cons_of_ne_nil (splitUpTo_ne_nil needle _ after), List.mem_cons] at hpiece
    rcases hpiece with rfl | hpiece
    · exact not_infix_of_breakAt? hn h
    · exact ih hpiece

/-- Without a limit no piece holds what separates. -/
theorem not_infix_of_mem_splitUpTo (hlimit : limit = 0) {piece : List Char}
    (hpiece : piece ∈ splitUpTo needle limit s) : ¬needle <:+: piece := by
  fun_induction splitUpTo needle limit s with
  | case1 => exact absurd ‹needle = []› hn
  | case2 => omega
  | case3 limit s _ _ hnone =>
    obtain rfl := List.mem_singleton.mp hpiece
    exact (breakAt?_eq_none hn).mp hnone
  | case4 limit s _ hone before after h ih =>
    rcases List.mem_cons.mp hpiece with rfl | hpiece
    · exact not_infix_of_breakAt? hn h
    · exact ih (by omega) hpiece

end Pieces

end Stencil.Text

namespace Stencil.Decimal

theorem unsigned?_toDigits (bits n : Nat) :
    unsigned? bits (Nat.toDigits 10 n) = if n < 2 ^ bits then some n else none := by
  have hdigits := fun c => isDigit_of_mem_toDigits (n := n) (c := c)
  have hnatural : natural? (Nat.toDigits 10 n) = some n := by
    rw [natural?_of_digits hdigits Nat.toDigits_ne_nil, natOfDigits_toDigits]
  unfold unsigned?
  split
  · next rest h => exact absurd h (head_ne_of_digits hdigits rfl rest)
  · rw [hnatural, Option.filter_some]
    exact if_congr decide_eq_true_iff rfl rfl

end Stencil.Decimal

namespace Stencil.Filter

open Stencil.Text Stencil.Tag

theorem limitOf_toDigits (n : Nat) :
    limitOf (some (String.ofList (Nat.toDigits 10 n))) = if n < 2 ^ 64 then n else 0 := by
  have hblank : ∀ c ∈ Nat.toDigits 10 n, isBlank c = false :=
    fun c hc => Decimal.isBlank_of_isDigit (Decimal.isDigit_of_mem_toDigits hc)
  have htrim : trim (Nat.toDigits 10 n) = Nat.toDigits 10 n :=
    trim_of_ends (fun c hc => hblank c (List.mem_of_mem_head? hc)) (fun c hc => hblank c (List.mem_of_getLast? hc))
  rw [limitOf, Option.bind_some, String.toList_ofList, htrim, Decimal.unsigned?_toDigits]
  split <;> rfl

theorem split_text {d : String} (hblank : trim d.toList ≠ []) (hslash : d.toList.head? ≠ some '/') {call : Invocation}
    (hcall : call.argument? 0 = some d) (s : String) :
    split (.text s) call = pure (textList (splitUpTo d.toList (limitOf (call.argument? 1)) s.toList)) := by
  unfold split
  rw [hcall]
  dsimp only [Option.getD_some]
  rw [if_neg hblank, if_neg hslash]
  rfl

theorem join_textList (d : String) (pieces : List (List Char)) :
    join d (textList pieces) = .text (String.ofList (d.toList.intercalate pieces)) := by
  have hdisplay : (pieces.map fun p => Value.text (String.ofList p)).map Value.display = pieces.map String.ofList := by
    rw [List.map_map]
    exact List.map_congr_left fun p _ => by rw [Function.comp_apply, Value.display]
  have hjoin : d.intercalate (pieces.map String.ofList) = String.ofList (d.toList.intercalate pieces) := by
    rw [← String.toList_inj, String.toList_intercalate, List.map_map, String.toList_ofList]
    simp [Function.comp_def]
  rw [join, textList, Value.toList?]
  dsimp only
  rw [hdisplay, hjoin]

end Stencil.Filter

namespace Stencil

open Stencil.Text Stencil.Tag Stencil.Tag.Grammar Stencil.Filter

def delimiter (d : String) (hd : ∀ c ∈ d.toList, c ∉ ['\\', '"', '(', ')', '[', ']', '\x7b', '\x7d', ',', '/']) : Plain where
  chars := d.toList
  plain c hc := by
    have hfree := hd c hc
    simp only [List.mem_cons, not_or] at hfree
    simp [isPlain, hfree]
  start h := by
    obtain ⟨rest, hrest⟩ := List.head?_eq_some_iff.mp h
    have hmem := (trimStart_suffix d.toList).subset (hrest ▸ List.mem_cons_self)
    exact hd '/' hmem (by simp)

def numeral (n : Nat) : Plain where
  chars := Nat.toDigits 10 n
  plain _ hc := decide_eq_true (not_mem_of_class (Decimal.isDigit_of_mem_toDigits hc) (by decide))
  start h := by
    obtain ⟨rest, hrest⟩ := List.head?_eq_some_iff.mp h
    have hmem := (trimStart_suffix (Nat.toDigits 10 n)).subset (hrest ▸ List.mem_cons_self)
    exact ne_of_class (Decimal.isDigit_of_mem_toDigits hmem) (show Char.isDigit '/' = false by decide) rfl

namespace StockCall

variable {u : StockCall} {ps : List Plain} (h : u.arguments = some ps)
include h

theorem text_call : u.text = String.ofList u.name.chars ++ "(" ++ String.ofList (commas (ps.map Plain.chars)) ++ ")" := by
  rw [← String.toList_inj, toList_text, print, h]
  simp

theorem parse_callArguments (hne : ps ≠ []) (hlen : ps.length ≤ maxArguments) :
    (Invocation.parse u.text).callArguments = ps.map fun p => String.ofList p.chars := by
  have htrim := u.readable.trim_eq
  rw [Invocation.parse, toList_text]
  unfold print at htrim ⊢
  rw [h] at htrim ⊢
  exact (Invocation.ofChars_call htrim u.name.valid).2.trans (callArguments_plains hne hlen)

end StockCall

namespace Engine

def splitCall (arguments : List Plain) : StockCall := { bareCall "split" .split with arguments := some arguments }

def joinCall (d : Plain) : StockCall := { bareCall "join" .join with arguments := some [d] }

section Delimiter

variable {d : String} (hd : ∀ c ∈ d.toList, c ∉ ['\\', '"', '(', ')', '[', ']', '\x7b', '\x7d', ',', '/'])

theorem text_splitCall : (splitCall [delimiter d hd]).text = "split(" ++ d ++ ")" := by
  rw [StockCall.text_call rfl, ← String.toList_inj]
  simp [splitCall, bareCall, delimiter]

theorem text_splitCall_numeral (k : Nat) :
    (splitCall [delimiter d hd, numeral k]).text = "split(" ++ d ++ "," ++ toString k ++ ")" := by
  rw [StockCall.text_call rfl, ← String.toList_inj]
  simp [splitCall, bareCall, delimiter, numeral, commas_cons_cons]

theorem text_joinCall : (joinCall (delimiter d hd)).text = "join(" ++ d ++ ")" := by
  rw [StockCall.text_call rfl, ← String.toList_inj]
  simp [joinCall, bareCall, delimiter]

theorem chain_pair (u u' : StockCall) : StockCall.chain [u, u'] = u.text ++ "|" ++ u'.text := by
  rw [← String.toList_inj, StockCall.chain, String.toList_ofList, List.map_cons, List.map_singleton,
    bars_cons _ (by simp), bars_singleton]
  simp [StockCall.toList_text]

variable (hblank : trim d.toList ≠ [])
include hblank

theorem apply_splitCall (settle : Value → Run Value) {more : List Plain} (hmore : more.length < Tag.maxArguments) (s : String) :
    Stock.split.apply settle (some (.text s)) (Invocation.parse (splitCall (delimiter d hd :: more)).text) =
      pure (some (textList (splitUpTo d.toList
        (limitOf (more.head?.map fun p => String.ofList p.chars)) s.toList))) := by
  have harguments := StockCall.parse_callArguments (u := splitCall (delimiter d hd :: more)) rfl (by simp) hmore
  have hslash : d.toList.head? ≠ some '/' := by
    intro h
    exact hd '/' (List.mem_of_mem_head? h) (by simp)
  have hfirst : (Invocation.parse (splitCall (delimiter d hd :: more)).text).argument? 0 = some d := by
    rw [Invocation.argument?, harguments]
    simp [delimiter]
  have hsecond : (Invocation.parse (splitCall (delimiter d hd :: more)).text).argument? 1 =
      more.head?.map fun p => String.ofList p.chars := by
    rw [Invocation.argument?, harguments]
    simp [List.head?_eq_getElem?]
  rw [Stock.apply, Option.mapM_some, split_text hblank hslash hfirst, hsecond, map_pure]

omit hblank in
theorem apply_joinCall (settle : Value → Run Value) (pieces : List (List Char)) :
    Stock.join.apply settle (some (textList pieces)) (Invocation.parse (joinCall (delimiter d hd)).text) =
      pure (some (.text (String.ofList (d.toList.intercalate pieces)))) := by
  have harguments := StockCall.parse_callArguments (u := joinCall (delimiter d hd)) rfl (by simp)
    (by simp [Tag.maxArguments])
  have hfirst : (Invocation.parse (joinCall (delimiter d hd)).text).argument? 0 = some d := by
    rw [Invocation.argument?, harguments]
    simp [delimiter]
  rw [Stock.apply, hfirst, Option.getD_some, Option.map_some, join_textList]

section Chains

variable {e : Engine} (r : Resolver) (hsplit : e.LeavesStock "split") {more : List Plain}
  (hmore : more.length < Tag.maxArguments) (s : String)
include hsplit hmore

theorem evaluateChain_splitCall :
    e.evaluateChain r (splitCall (delimiter d hd :: more)).text (some (.text s)) =
      pure (some (textList (splitUpTo d.toList (limitOf (more.head?.map fun p => String.ofList p.chars)) s.toList))) := by
  have hname : Unicode.lowercase (String.ofList "split".toList) = "split" := by decide
  refine evaluateChain_call r (hname.symm ▸ hsplit) ?_ (apply_splitCall hd hblank _ hmore s)
  simp [Settled, textList]

/-- Whatever the limit, joining the pieces gives the text. -/
theorem evaluateChain_splitCall_joinCall (hjoin : e.LeavesStock "join") :
    e.evaluateChain r (StockCall.chain [splitCall (delimiter d hd :: more), joinCall (delimiter d hd)])
      (some (.text s)) = pure (some (.text s)) := by
  have hname : Unicode.lowercase (String.ofList "split".toList) = "split" := by decide
  have hname' : Unicode.lowercase (String.ofList "join".toList) = "join" := by decide
  have hlist (pieces : List (List Char)) : Settled (some (textList pieces)) := by simp [Settled, textList]
  refine evaluateChain_pair r (hname.symm ▸ hsplit) (hname'.symm ▸ hjoin) (settled_text s) (hlist _) (settled_text s)
    (apply_splitCall hd hblank _ hmore s) ?_
  have hpieces := apply_joinCall hd (settle (e.deeper r))
    (splitUpTo d.toList (limitOf (more.head?.map fun p => String.ofList p.chars)) s.toList)
  rwa [intercalate_splitUpTo, String.ofList_toList] at hpieces

end Chains

end Delimiter

theorem textList_eq (pieces : List (List Char)) : textList pieces = .list ((pieces.map String.ofList).map .text) := by
  rw [textList, List.map_map]
  rfl

/-- Splitting and joining lose nothing, with and without a limit. With a limit there are at most so many pieces, and none
but the last holds the delimiter; without one no piece does. A numeral beyond the range of a word sets no limit, but no
text has so many pieces. -/
theorem evaluateChain_split_join {e : Engine} (r : Resolver) (hsplit : e.LeavesStock "split")
    (hjoin : e.LeavesStock "join") {d : String} (hblank : trim d.toList ≠ [])
    (hd : ∀ c ∈ d.toList, c ∉ ['\\', '"', '(', ')', '[', ']', '\x7b', '\x7d', ',', '/']) (s : String) :
    e.evaluateChain r ("split(" ++ d ++ ")|join(" ++ d ++ ")") (some (.text s)) = pure (some (.text s)) ∧
    (∃ pieces : List String,
      e.evaluateChain r ("split(" ++ d ++ ")") (some (.text s)) = pure (some (.list (pieces.map .text))) ∧
      pieces ≠ [] ∧ ∀ piece ∈ pieces, ¬d.toList <:+: piece.toList) ∧
    ∀ k, 1 ≤ k →
      e.evaluateChain r ("split(" ++ d ++ "," ++ toString k ++ ")|join(" ++ d ++ ")") (some (.text s)) =
        pure (some (.text s)) ∧
      ∃ pieces : List String,
        e.evaluateChain r ("split(" ++ d ++ "," ++ toString k ++ ")") (some (.text s)) =
          pure (some (.list (pieces.map .text))) ∧
        1 ≤ pieces.length ∧ (k < 2 ^ 64 ∨ s.length < 2 ^ 64 → pieces.length ≤ k) ∧
        ∀ piece ∈ pieces.dropLast, ¬d.toList <:+: piece.toList := by
  have hne : d.toList ≠ [] := by
    intro h
    rw [h] at hblank
    exact hblank rfl
  have hchain (t : String) : t ++ ")" ++ "|" ++ ("join(" ++ d ++ ")") = t ++ ")|join(" ++ d ++ ")" := by
    rw [← String.toList_inj]
    simp
  have hunlimited : ([] : List Plain).length < Tag.maxArguments := by decide
  have hlimited (k : Nat) : [numeral k].length < Tag.maxArguments := by simp [Tag.maxArguments]
  refine ⟨?_, ⟨(splitUpTo d.toList 0 s.toList).map String.ofList, ?_, ?_, ?_⟩, fun k hk => ⟨?_, ?_⟩⟩
  · have h := evaluateChain_splitCall_joinCall hd hblank r hsplit hunlimited s hjoin
    rwa [chain_pair, text_splitCall, text_joinCall, hchain] at h
  · have h := evaluateChain_splitCall hd hblank r hsplit hunlimited s
    rwa [text_splitCall, textList_eq] at h
  · simpa using splitUpTo_ne_nil d.toList 0 s.toList
  · intro piece hpiece
    obtain ⟨chars, hchars, rfl⟩ := List.mem_map.mp hpiece
    rw [String.toList_ofList]
    exact not_infix_of_mem_splitUpTo 0 s.toList hne rfl hchars
  · have h := evaluateChain_splitCall_joinCall hd hblank r hsplit (hlimited k) s hjoin
    rwa [chain_pair, text_splitCall_numeral, text_joinCall, hchain] at h
  · have h := evaluateChain_splitCall hd hblank r hsplit (hlimited k) s
    have hlimit : limitOf (([numeral k].head?).map fun p => String.ofList p.chars) = if k < 2 ^ 64 then k else 0 :=
      limitOf_toDigits k
    rw [text_splitCall_numeral, hlimit, textList_eq] at h
    refine ⟨_, h, ?_, ?_, ?_⟩
    · rw [List.length_map, Nat.one_le_iff_ne_zero, ne_eq, List.length_eq_zero_iff]
      exact splitUpTo_ne_nil _ _ _
    · intro hbound
      rw [List.length_map]
      split
      · exact length_splitUpTo_le d.toList k s.toList (by omega)
      · have hle := length_splitUpTo_le_length d.toList 0 s.toList
        have hlength : s.toList.length = s.length := String.length_toList
        omega
    · intro piece hpiece
      rw [← List.map_dropLast] at hpiece
      obtain ⟨chars, hchars, rfl⟩ := List.mem_map.mp hpiece
      rw [String.toList_ofList]
      exact not_infix_of_mem_dropLast_splitUpTo _ s.toList hne hchars

/-- A delimiter with a bar, a colon and a blank inside, in a text whose pieces look like a list, a quoted text and a
tag. -/
theorem evaluateChain_split_join_bar :
    standard.LeavesStock "split" ∧ standard.LeavesStock "join" ∧ trim "| :".toList ≠ [] ∧
    (∀ c ∈ "| :".toList, c ∉ ['\\', '"', '(', ')', '[', ']', '\x7b', '\x7d', ',', '/']) ∧ 1 ≤ 2 ∧
    standard.evaluateChain silent "split(| :)|join(| :)" (some (.text "[a,b]| :\"c\"| :\x7b~d\x7d")) =
      pure (some (.text "[a,b]| :\"c\"| :\x7b~d\x7d")) ∧
    standard.evaluateChain silent "split(| :,2)|join(| :)" (some (.text "[a,b]| :\"c\"| :\x7b~d\x7d")) =
      pure (some (.text "[a,b]| :\"c\"| :\x7b~d\x7d")) := by
  have hleaves (name : String) : standard.LeavesStock name := ⟨rfl, rfl⟩
  have hblank : trim "| :".toList ≠ [] := by decide
  have hd : ∀ c ∈ "| :".toList, c ∉ ['\\', '"', '(', ')', '[', ']', '\x7b', '\x7d', ',', '/'] := by simp
  have h := evaluateChain_split_join silent (hleaves "split") (hleaves "join") hblank hd
    "[a,b]| :\"c\"| :\x7b~d\x7d"
  exact ⟨hleaves _, hleaves _, hblank, hd, by decide, h.1, (h.2.2 2 (by decide)).1⟩

end Engine

end Stencil
