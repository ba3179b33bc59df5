import Stencil.Proofs.Escape
import Stencil.Proofs.Grammar
import Stencil.Proofs.Trimming
import Stencil.Value.InlineList

/-!
# Written inline lists

A list is written between brackets with commas between its items; in the texts a backslash stands before each
comma and each closing bracket. What is written so is read back, as deep as inline lists nest.
-/
namespace Stencil.Value

open Stencil.Text Stencil.Tag.Grammar

def isItemEnd (c : Char) : Bool := c == ',' || c == ']'

mutual

/-- A list with its texts escaped. Values of other kinds are written as they are displayed. -/
def encode : Value → List Char
  | list items => '[' :: encodeItems items ++ [']']
  | text s => escapeMarks isItemEnd s.toList
  | v => v.display.toList

def encodeItems : List Value → List Char
  | [] => []
  | [v] => v.encode
  | v :: rest => v.encode ++ ',' :: encodeItems rest

end

/-- Texts, and lists of such values nested so many levels deep, that can be written: the texts are trimmed and
hold neither backslashes nor opening brackets, and no list has an empty text for its only item. -/
inductive Inline : Nat → Value → Prop where
  | text {levels : Nat} {s : String} (trimmed : trim s.toList = s.toList) (backslash : '\\' ∉ s.toList)
      (bracket : '[' ∉ s.toList) : Inline levels (text s)
  | list {levels : Nat} {items : List Value} (all : ∀ v ∈ items, Inline levels v)
      (single : items ≠ [.text ""]) : Inline (levels + 1) (list items)

mutual

def leaves : Value → List String
  | text s => [s]
  | list items => leavesOf items
  | _ => []

def leavesOf : List Value → List String
  | [] => []
  | v :: rest => v.leaves ++ leavesOf rest

end

theorem encode_text (s : String) : (text s).encode = escapeMarks isItemEnd s.toList := by rw [encode]

theorem encodeItems_eq (items : List Value) : encodeItems items = commas (items.map encode) := by
  induction items with
  | nil => rw [encodeItems, List.map_nil, commas_nil]
  | cons v items ih =>
    cases items with
    | nil => rw [encodeItems, List.map_singleton, commas_singleton]
    | cons w items =>
      rw [encodeItems, ih, List.map_cons, List.map_cons, List.map_cons, commas_cons_cons]
      exact List.cons_ne_nil w items

theorem encode_list (items : List Value) :
    (list items).encode = '[' :: (commas (items.map encode) ++ [']']) := by
  rw [encode, encodeItems_eq, List.cons_append]

/-- Texts whose brackets are closed. The flag tells whether there may be commas outside of brackets. -/
inductive Balanced : Bool → List Char → Prop where
  | nil {within : Bool} : Balanced within []
  | plain {within : Bool} {c : Char} {s : List Char} (hc : c ∉ ['\\', '[', ']', ',']) (hs : Balanced within s) :
      Balanced within (c :: s)
  | comma {s : List Char} (hs : Balanced true s) : Balanced true (',' :: s)
  | escaped {within : Bool} (c : Char) {s : List Char} (hs : Balanced within s) : Balanced within ('\\' :: c :: s)
  | bracket {within : Bool} {inside s : List Char} (hinside : Balanced true inside) (hs : Balanced within s) :
      Balanced within ('[' :: (inside ++ ']' :: s))

namespace Balanced

variable {within : Bool} {s t : List Char}

theorem append (hs : Balanced within s) (ht : Balanced within t) : Balanced within (s ++ t) := by
  induction hs with
  | nil => exact ht
  | plain hc _ ih => exact .plain hc (ih ht)
  | comma _ ih => exact .comma (ih ht)
  | escaped c _ ih => exact .escaped c (ih ht)
  | bracket hinside _ _ ih =>
    rw [List.cons_append, List.append_assoc, List.cons_append]
    exact .bracket hinside (ih ht)

theorem widen (hs : Balanced within s) : Balanced true s := by
  induction hs with
  | nil => exact .nil
  | plain hc _ ih => exact .plain hc ih
  | comma _ ih => exact .comma ih
  | escaped c _ ih => exact .escaped c ih
  | bracket hinside _ _ ih => exact .bracket hinside ih

end Balanced

theorem untilLast?_of_ne {c : Char} (hc : c ≠ '\\') (depth : Nat) (rest : List Char) :
    untilLast? depth (c :: rest) =
      if c = '[' then (untilLast? (depth + 1) rest).map (c :: ·)
      else if c = ']' then
        match depth with
        | 0 => if rest.isEmpty then some [] else none
        | d + 1 => (untilLast? d rest).map (c :: ·)
      else (untilLast? depth rest).map (c :: ·) := by
  rw [untilLast?.eq_def]
  split
  · next heq => exact absurd heq (List.cons_ne_nil c rest)
  · next heq => exact absurd (List.cons.inj heq).1 hc
  · next heq => exact absurd (List.cons.inj heq).1 hc
  · next heq =>
    obtain ⟨rfl, rfl⟩ := List.cons.inj heq
    rfl

theorem Balanced.untilLast? {within : Bool} {s : List Char} (hs : Balanced within s) (depth : Nat) (t : List Char) :
    Value.untilLast? depth (s ++ t) = (Value.untilLast? depth t).map (s ++ ·) := by
  induction hs generalizing depth t with
  | nil => simp
  | plain hc _ ih =>
    simp only [List.mem_cons, List.not_mem_nil, or_false, not_or] at hc
    rw [List.cons_append, untilLast?_of_ne hc.1, if_neg hc.2.1, if_neg hc.2.2.1, ih, Option.map_map]
    rfl
  | comma _ ih =>
    rw [List.cons_append, untilLast?_of_ne (by decide), if_neg (by decide), if_neg (by decide), ih, Option.map_map]
    rfl
  | escaped c _ ih =>
    rw [List.cons_append, List.cons_append, Value.untilLast?, ih, Option.map_map]
    rfl
  | bracket _ _ ihinside ih =>
    rw [List.cons_append, List.append_assoc, untilLast?_of_ne (by decide), if_pos rfl, ihinside,
      List.cons_append, untilLast?_of_ne (by decide), if_neg (by decide), if_pos rfl]
    dsimp only
    rw [ih, Option.map_map, Option.map_map, Option.map_map]
    simp [Function.comp_def]

theorem splitItems_of_ne {c : Char} (hc : c ≠ '\\') (depth : Nat) (rest : List Char) :
    splitItems depth (c :: rest) =
      if c = ',' ∧ depth = 0 then ([], (splitItems depth rest).1 :: (splitItems depth rest).2)
      else
        (c :: (splitItems (if c = '[' then depth + 1 else if c = ']' then depth - 1 else depth) rest).1,
          (splitItems (if c = '[' then depth + 1 else if c = ']' then depth - 1 else depth) rest).2) := by
  rw [splitItems.eq_def]
  split <;> simp_all

theorem Balanced.splitItems {within : Bool} {s : List Char} (hs : Balanced within s) {depth : Nat}
    (hdepth : within = true → depth ≠ 0) (t : List Char) :
    Value.splitItems depth (s ++ t) = (s ++ (Value.splitItems depth t).1, (Value.splitItems depth t).2) := by
  induction hs generalizing depth t with
  | nil => simp
  | plain hc _ ih =>
    simp only [List.mem_cons, List.not_mem_nil, or_false, not_or] at hc
    rw [List.cons_append, splitItems_of_ne hc.1, if_neg (by simp [hc.2.2.2]), if_neg hc.2.1, if_neg hc.2.2.1,
      ih hdepth]
    rfl
  | comma _ ih =>
    rw [List.cons_append, splitItems_of_ne (by decide), if_neg (by simp [hdepth rfl]), if_neg (by decide),
      if_neg (by decide), ih hdepth]
    rfl
  | escaped c _ ih =>
    rw [List.cons_append, List.cons_append, Value.splitItems, ih hdepth]
    rfl
  | bracket _ _ ihinside ih =>
    rw [List.cons_append, List.append_assoc, splitItems_of_ne (by decide), if_neg (by simp), if_pos rfl,
      ihinside (by simp), List.cons_append, splitItems_of_ne (by decide), if_neg (by simp), if_neg (by decide),
      if_pos rfl, Nat.add_sub_cancel, ih hdepth]
    simp

/-- Balanced items between commas are split there. -/
theorem splitItems_commas {s : List Char} {rest : List (List Char)} (hs : Balanced false s)
    (hrest : ∀ x ∈ rest, Balanced false x) : splitItems 0 (commas (s :: rest)) = (s, rest) := by
  induction rest generalizing s with
  | nil =>
    rw [commas_singleton, ← List.append_nil s, hs.splitItems (by simp)]
    simp [splitItems]
  | cons x rest ih =>
    rw [commas_cons_cons, hs.splitItems (by simp), splitItems_of_ne (by decide), if_pos ⟨rfl, rfl⟩,
      ih (hrest x (by simp)) fun y hy => hrest y (by simp [hy]), List.append_nil]

theorem balanced_commas {items : List (List Char)} (h : ∀ s ∈ items, Balanced true s) :
    Balanced true (commas items) := by
  induction items with
  | nil => exact .nil
  | cons s items ih =>
    have hs := h s (by simp)
    have hitems := ih fun x hx => h x (by simp [hx])
    cases items with
    | nil => rwa [commas_singleton]
    | cons x items =>
      rw [commas_cons_cons]
      exact hs.append (.comma hitems)

theorem balanced_escapeMarks {s : List Char} (hb : '\\' ∉ s) (ho : '[' ∉ s) :
    Balanced false (escapeMarks isItemEnd s) := by
  induction s with
  | nil => exact .nil
  | cons c s ih =>
    simp only [List.mem_cons, not_or] at hb ho
    have hs := ih hb.2 ho.2
    cases hc : isItemEnd c with
    | false =>
      rw [escapeMarks_cons_of_not_mark hc]
      refine .plain ?_ hs
      simp only [isItemEnd, Bool.or_eq_false_iff, beq_eq_false_iff_ne] at hc
      simp [Ne.symm hb.1, Ne.symm ho.1, hc]
    | true =>
      rw [escapeMarks_cons_of_mark hc]
      exact .escaped c hs

theorem Inline.balanced {levels : Nat} {v : Value} (h : Inline levels v) : Balanced false v.encode := by
  induction h with
  | text _ hb ho =>
    rw [encode_text]
    exact balanced_escapeMarks hb ho
  | list _ _ ih =>
    rw [encode_list]
    refine .bracket (balanced_commas fun s hs => ?_) .nil
    obtain ⟨v, hv, rfl⟩ := List.mem_map.mp hs
    exact (ih v hv).widen

theorem trim_encode {levels : Nat} {v : Value} (h : Inline levels v) : trim v.encode = v.encode := by
  cases h with
  | text htrim _ _ =>
    obtain ⟨hhead, hlast⟩ := ends_of_trim htrim
    rw [encode_text]
    refine trim_of_ends (fun c hc => ?_) (by rwa [getLast?_escapeMarks])
    rcases head?_escapeMarks hc with rfl | hc
    · decide
    · exact hhead c hc
  | list _ _ =>
    rw [encode_list, ← List.cons_append]
    exact trim_of_ends (by simp [isBlank]) (getLast_append (by simp) (by simp [isBlank]))

theorem encode_ne_nil {levels : Nat} {v : Value} (h : Inline levels v) (hne : v ≠ text "") : v.encode ≠ [] := by
  cases h with
  | @text _ s _ _ _ =>
    rw [encode_text]
    intro hnil
    have hlast : (escapeMarks isItemEnd s.toList).getLast? = s.toList.getLast? := getLast?_escapeMarks
    rw [hnil, List.getLast?_nil, eq_comm, List.getLast?_eq_none_iff, String.toList_eq_nil_iff] at hlast
    exact hne (congrArg text hlast)
  | list _ _ => simp [encode_list]

/-- What stands between the brackets of a list is blank only if the list is empty. -/
theorem trim_commas_ne_nil {levels : Nat} {items : List Value} (h : ∀ v ∈ items, Inline levels v)
    (hsingle : items ≠ [.text ""]) (hne : items ≠ []) : trim (commas (items.map encode)) ≠ [] := by
  obtain ⟨c, hc, hblank⟩ : ∃ c ∈ commas (items.map encode), isBlank c = false := by
    match items with
    | [] => exact absurd rfl hne
    | [v] =>
      have hv := h v (by simp)
      obtain ⟨c, rest, hc⟩ := List.exists_cons_of_ne_nil (encode_ne_nil hv (by rintro rfl; exact hsingle rfl))
      have hhead := (ends_of_trim (trim_encode hv)).1
      rw [List.map_singleton, commas_singleton]
      exact ⟨c, by simp [hc], hhead c (by simp [hc])⟩
    | v :: w :: items =>
      rw [List.map_cons, List.map_cons, commas_cons_cons]
      exact ⟨',', by simp, by decide⟩
  exact List.ne_nil_of_mem (mem_trim hblank hc)

theorem inlineItems?_text {levels : Nat} {s : String} (h : Inline levels (text s)) :
    inlineItems? (text s).encode = none := by
  have htrim := trim_encode h
  cases h with
  | text _ _ ho =>
    have hstart (rest : List Char) : (text s).encode ≠ '[' :: rest := by
      intro heq
      rw [encode_text] at heq
      rcases head?_escapeMarks (c := '[') (by rw [heq]; rfl) with hc | hc
      · exact absurd hc (by decide)
      · exact ho (List.mem_of_mem_head? hc)
    unfold inlineItems?
    rw [htrim]
    split
    · next rest heq => exact absurd heq (hstart rest)
    · rfl

theorem inlineItems?_list {levels : Nat} {items : List Value} (h : Inline levels (list items)) :
    inlineItems? (list items).encode = some (items.map encode) := by
  have htrim := trim_encode h
  cases h with
  | list hall hsingle =>
    have hbalanced : ∀ s ∈ items.map encode, Balanced false s := by
      intro s hs
      obtain ⟨v, hv, rfl⟩ := List.mem_map.mp hs
      exact (hall v hv).balanced
    have hinside := (balanced_commas fun s hs => (hbalanced s hs).widen).untilLast? 0 [']']
    have hend : untilLast? 0 [']'] = some [] := rfl
    rw [hend, Option.map_some, List.append_nil] at hinside
    unfold inlineItems?
    rw [htrim, encode_list]
    split
    · next rest heq =>
      obtain ⟨-, rfl⟩ := List.cons.inj heq
      rw [hinside, Option.map_some]
      cases items with
      | nil => rfl
      | cons v items =>
        have hnonempty := trim_commas_ne_nil hall hsingle (List.cons_ne_nil v items)
        rw [List.map_cons] at hbalanced hnonempty ⊢
        have hsplit := splitItems_commas (hbalanced v.encode List.mem_cons_self) fun s hs =>
          hbalanced s (List.mem_cons_of_mem _ hs)
        rw [List.isEmpty_eq_false_iff.mpr hnonempty, hsplit]
        rfl
    · next heq => exact absurd rfl (heq _)

theorem unescape_encode {levels : Nat} {s : String} (h : Inline levels (text s)) :
    unescape ']' (unescape ',' (trim (text s).encode)) = s.toList := by
  have htrim := trim_encode h
  cases h with
  | text _ hb _ =>
    rw [htrim, encode_text, unescape_escapeMarks ',' hb, unescape_escapeMarks ']' hb]
    refine escapeMarks_of_not_mem fun c _ => ?_
    simp [isItemEnd]
    tauto

theorem ofInlineItem_encode {levels : Nat} {v : Value} (h : Inline levels v) :
    ofInlineItem levels v.encode = v := by
  induction h with
  | @text levels s htrim hb ho =>
    have h : Inline levels (text s) := .text htrim hb ho
    cases levels with
    | zero => rw [ofInlineItem, unescape_encode h, String.ofList_toList]
    | succ levels =>
      rw [ofInlineItem, inlineItems?_text h]
      dsimp only
      rw [unescape_encode h, String.ofList_toList]
  | @list levels items hall hsingle ih =>
    rw [ofInlineItem, inlineItems?_list (.list hall hsingle)]
    dsimp only
    rw [List.map_map]
    exact congrArg list ((List.map_congr_left ih).trans (List.map_id items))

theorem toList_displayItems (items : List Value) :
    (displayItems items).toList = commas (items.map fun v => v.display.toList) := by
  induction items with
  | nil => rw [displayItems, List.map_nil, commas_nil, String.toList_empty]
  | cons v items ih =>
    cases items with
    | nil => rw [displayItems, List.map_singleton, commas_singleton]
    | cons w items =>
      rw [displayItems, String.toList_append, String.toList_append, ih, List.map_cons, List.map_cons, List.map_cons,
        commas_cons_cons, List.append_assoc]
      · rfl
      · exact List.cons_ne_nil w items

theorem leavesOf_eq (items : List Value) : leavesOf items = items.flatMap leaves := by
  induction items with
  | nil => rw [leavesOf, List.flatMap_nil]
  | cons v items ih => rw [leavesOf, ih, List.flatMap_cons]

/-- Values whose texts hold no marks are written as they are displayed. -/
theorem Inline.encode_eq_display {levels : Nat} {v : Value} (h : Inline levels v)
    (hmarks : ∀ s ∈ v.leaves, ',' ∉ s.toList ∧ ']' ∉ s.toList) : v.encode = v.display.toList := by
  induction h with
  | @text _ s _ _ _ =>
    obtain ⟨hcomma, hclose⟩ := hmarks s (by simp [leaves])
    rw [encode_text, display]
    refine escapeMarks_of_not_mem fun c hc => ?_
    rw [isItemEnd, Bool.or_eq_false_iff, beq_eq_false_iff_ne, beq_eq_false_iff_ne]
    exact ⟨ne_of_mem_of_not_mem hc hcomma, ne_of_mem_of_not_mem hc hclose⟩
  | @list _ items _ _ ih =>
    rw [leaves, leavesOf_eq] at hmarks
    have hitems : items.map encode = items.map fun v => v.display.toList :=
      List.map_congr_left fun v hv => ih v hv fun s hs => hmarks s (List.mem_flatMap.mpr ⟨v, hv, hs⟩)
    rw [encode_list, hitems, display, String.toList_append, String.toList_append, toList_displayItems]
    rfl

theorem parseInlineList?_encoded {items : List Value} (h : Inline maxInlineDepth (list items)) :
    parseInlineList? (String.ofList (list items).encode) = some items := by
  rw [parseInlineList?, String.toList_ofList, inlineItems?_list h, Option.map_some, List.map_map]
  cases h with
  | list hall _ => exact congrArg some ((List.map_congr_left fun v hv => ofInlineItem_encode (hall v hv)).trans
      (List.map_id items))

/-- Lists that nest as deep as inline lists do are read back as they were written. Those whose texts hold neither
commas nor closing brackets are written as they are displayed, and are read back from that. -/
theorem parseInlineList?_encode {items : List Value} (h : Inline maxInlineDepth (list items)) :
    parseInlineList? (String.ofList (list items).encode) = some items ∧
      ((∀ s ∈ (list items).leaves, ',' ∉ s.toList ∧ ']' ∉ s.toList) →
        String.ofList (list items).encode = (list items).display ∧
          toList? (text (list items).display) = some items) := by
  have hread := parseInlineList?_encoded h
  refine ⟨hread, fun hmarks => ?_⟩
  have hdisplay : String.ofList (list items).encode = (list items).display := by
    rw [h.encode_eq_display hmarks, String.ofList_toList]
  exact ⟨hdisplay, by rw [toList?, ← hdisplay, hread]⟩

theorem parseInlineList?_encode_commas :
    (Inline maxInlineDepth (list [text "a,b", text "", list [text "x]"], list []]) ∧
      parseInlineList? "[a\\,b,,[x\\]],[]]" = some [text "a,b", text "", list [text "x]"], list []]) ∧
    (Inline maxInlineDepth (list [text "x", list [text "y", text "z"]]) ∧
      toList? (text "[x,[y,z]]") = some [text "x", list [text "y", text "z"]]) := by
  have htext (s : String) (h : trim s.toList = s.toList ∧ '\\' ∉ s.toList ∧ '[' ∉ s.toList) (levels : Nat) :
      Inline levels (text s) := .text h.1 h.2.1 h.2.2
  have hnone (levels : Nat) : Inline (levels + 1) (list []) := .list (by simp) (by simp)
  have hone (levels : Nat) : Inline (levels + 1) (list [text "x]"]) :=
    .list (by simpa using htext "x]" (by decide) levels) (by simp)
  have htwo (levels : Nat) : Inline (levels + 1) (list [text "y", text "z"]) :=
    .list (by simpa using ⟨htext "y" (by decide) levels, htext "z" (by decide) levels⟩) (by simp)
  have hmarks : Inline maxInlineDepth (list [text "a,b", text "", list [text "x]"], list []]) := by
    refine .list ?_ (by simp)
    simp only [List.forall_mem_cons]
    exact ⟨htext _ (by decide) _, htext _ (by decide) _, hone _, hnone _, by simp⟩
  have hplain : Inline maxInlineDepth (list [text "x", list [text "y", text "z"]]) := by
    refine .list ?_ (by simp)
    simp only [List.forall_mem_cons]
    exact ⟨htext _ (by decide) _, htwo _, by simp⟩
  exact ⟨⟨hmarks, (parseInlineList?_encode hmarks).1⟩, hplain, ((parseInlineList?_encode hplain).2 (by decide)).2⟩

end Stencil.Value
