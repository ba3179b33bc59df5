import Stencil.Proofs.ByOffset.Arguments
import Stencil.Proofs.InlineList

/-!
# Inline lists by byte offsets

The items of a list are slices between its commas, and the items of nested lists are slices of those. They are the
items that are read through the characters.
-/
namespace Stencil.ByOffset

open Stencil.Text

def listRound (text : String) (pos depth : Nat) : Checked (Round Nat (Option Nat)) := do
  match ← peek text pos with
  | none => return .done none
  | some c =>
    if c = '\\' then return .again (← advance text pos 2) depth
    else if c = '[' then return .again (← advance text pos 1) (depth + 1)
    else if c = ']' then
      if depth - 1 = 0 then return .done (some pos) else return .again (← advance text pos 1) (depth - 1)
    else return .again (← advance text pos 1) depth

def listClose? (text : String) : Checked (Option Nat) := loop text (listRound text) 0 0

section Close

variable {text : String}

theorem listRound_backslash {rest : List Char} (h : '\\' :: rest <:+ text.toList) (depth : Nat) :
    listRound text (offsetOf text ('\\' :: rest)) depth = pure (.again (offsetOf text (rest.drop 1)) depth) := by
  rw [listRound, peek_offsetOf h, pure_bind]
  simp [advance_offsetOf h 2]

theorem listRound_of_ne {c : Char} {rest : List Char} (h : c :: rest <:+ text.toList) (hc : c ≠ '\\') (depth : Nat) :
    listRound text (offsetOf text (c :: rest)) depth =
      pure (if c = '[' then .again (offsetOf text rest) (depth + 1)
        else if c = ']' then
          if depth - 1 = 0 then .done (some (offsetOf text (c :: rest))) else .again (offsetOf text rest) (depth - 1)
        else .again (offsetOf text rest) depth) := by
  rw [listRound, peek_offsetOf h, pure_bind]
  simp only [List.head?_cons, if_neg hc, advance_offsetOf h 1, pure_bind]
  split
  · rfl
  split
  · split <;> rfl
  · rfl

/-- What the search by offsets finds, given what the search through the characters finds: the last character of the text
exactly if that is the closing bracket. -/
def ClosesAt (text : String) (s : List Char) (found : Option Nat) : Option (List Char) → Prop
  | some inside => s = inside ++ [']'] ∧ found = some (offsetOf text [']'])
  | none => found ≠ some (text.utf8ByteSize - 1)

theorem ClosesAt.append {rest : List Char} {found : Option Nat} {inside : Option (List Char)}
    (h : ClosesAt text rest found inside) (piece : List Char) :
    ClosesAt text (piece ++ rest) found (inside.map (piece ++ ·)) := by
  cases inside with
  | none => exact h
  | some inside => exact ⟨by rw [h.1, List.append_assoc], h.2⟩

theorem loop_listRound {s : List Char} (h : s <:+ text.toList) (depth : Nat) :
    ∃ found, loop text (listRound text) (offsetOf text s) (depth + 1) = pure found ∧
      ClosesAt text s found (Value.untilLast? depth s) := by
  -- one bracket more is open here than within the list, the one that opens it
  have hnil (depth : Nat) : loop text (listRound text) (offsetOf text []) (depth + 1) = pure none := by
    refine loop_done ?_
    rw [listRound, peek_offsetOf List.nil_suffix]
    rfl
  fun_induction Value.untilLast? depth s with
  | case1 depth => exact ⟨none, hnil depth, nofun⟩
  | case2 depth =>
    refine ⟨none, ?_, nofun⟩
    rw [loop_past (listRound_backslash h _) h List.suffix_rfl List.suffix_rfl, List.drop_nil, hnil]
  | case3 depth c rest ih =>
    obtain ⟨found, hloop, hfound⟩ := ih (List.IsSuffix.trans ⟨['\\', c], rfl⟩ h)
    refine ⟨found, ?_, hfound.append ['\\', c]⟩
    rw [loop_past (listRound_backslash h _) h List.suffix_rfl (List.suffix_cons c rest)]
    exact hloop
  | case4 depth rest _ _ ih =>
    have hround := listRound_of_ne h (by decide) (depth + 1)
    obtain ⟨found, hloop, hfound⟩ := ih ((List.suffix_cons '[' rest).trans h)
    refine ⟨found, ?_, hfound.append ['[']⟩
    rw [loop_past hround h List.suffix_rfl List.suffix_rfl, hloop]
  | case5 rest hempty =>
    obtain rfl := List.isEmpty_iff.mp hempty
    exact ⟨_, loop_done (listRound_of_ne h (by decide) 1), rfl, rfl⟩
  | case6 rest hempty =>
    refine ⟨_, loop_done (listRound_of_ne h (by decide) 1), fun hlast => ?_⟩
    exact hempty (List.isEmpty_iff.mpr ((offsetOf_eq_last_iff h (by decide)).mp (Option.some.inj hlast)))
  | case7 rest depth _ _ hopen ih =>
    have hround := listRound_of_ne h (by decide) (depth + 1 + 1)
    obtain ⟨found, hloop, hfound⟩ := ih ((List.suffix_cons ']' rest).trans h)
    refine ⟨found, ?_, hfound.append [']']⟩
    rw [loop_past hround h List.suffix_rfl List.suffix_rfl]
    exact hloop
  | case8 depth c rest hone hmore hopen hclose ih =>
    have hb : c ≠ '\\' := by
      rintro rfl
      cases rest with
      | nil => exact hone rfl rfl
      | cons d rest => exact hmore d rest rfl rfl
    have hround := listRound_of_ne h hb (depth + 1)
    rw [if_neg hopen, if_neg hclose] at hround
    obtain ⟨found, hloop, hfound⟩ := ih ((List.suffix_cons c rest).trans h)
    refine ⟨found, ?_, hfound.append [c]⟩
    rw [loop_past hround h List.suffix_rfl List.suffix_rfl, hloop]

theorem listClose?_ofList (rest : List Char) :
    ∃ found, listClose? (String.ofList ('[' :: rest)) = pure found ∧
      ClosesAt (String.ofList ('[' :: rest)) rest found (Value.untilLast? 0 rest) := by
  have h := suffix_ofList ('[' :: rest)
  have hopen := loop_past (listRound_of_ne h (by decide) 0) h List.suffix_rfl List.suffix_rfl
  obtain ⟨found, hloop, hfound⟩ := loop_listRound ((List.suffix_cons '[' rest).trans h) 0
  rw [offsetOf_ofList] at hopen
  exact ⟨found, hopen.trans hloop, hfound⟩

end Close

/-- What the loop over the items of a list carries: where the item begins that is read, how many brackets are open in
it, and the values of those before it. -/
structure Items where
  start : Nat
  depth : Nat
  found : List Value

def itemRound (item : String → Checked Value) (inner : String) (pos : Nat) (state : Items) :
    Checked (Round Items (List Value)) := do
  match ← peek inner pos with
  | none => return .done (state.found ++ [← item (← sliceFrom inner state.start)])
  | some c =>
    if c = '\\' then return .again (← advance inner pos 2) state
    else if c = ',' ∧ state.depth = 0 then
      let value ← item (← slice inner state.start pos)
      let next ← advance inner pos 1
      return .again next { state with start := next, found := state.found ++ [value] }
    else
      let depth := if c = '[' then state.depth + 1 else if c = ']' then state.depth - 1 else state.depth
      return .again (← advance inner pos 1) { state with depth }

def items? (item : String → Checked Value) (text : String) : Checked (Option (List Value)) := do
  let list := trimmed text
  if ← startsWith list 0 "[" then
    let last ← minus list.utf8ByteSize 1
    if (← listClose? list) = some last then
      let inner ← slice list 1 last
      if (trim inner.toList).isEmpty then return some []
      else return some (← loop inner (itemRound item inner) 0 { start := 0, depth := 0, found := [] })
    else return none
  else return none

def inlineItem : Nat → String → Checked Value
  | 0, raw => pure (.text (unescaped ']' (unescaped ',' (trimmed raw))))
  | levels + 1, raw => do
    match ← items? (inlineItem levels) (trimmed raw) with
    | some nested => return .list nested
    | none => return .text (unescaped ']' (unescaped ',' (trimmed raw)))

def inlineList (text : String) : Checked (Option (List Value)) :=
  items? (inlineItem (Value.maxInlineDepth - 1)) text

section Items

variable {inner : String} {item : String → Checked Value} {value : List Char → Value}
  (hitem : ∀ raw, item (String.ofList raw) = pure (value raw))
include hitem

omit hitem in
theorem itemRound_backslash {rest : List Char} (h : '\\' :: rest <:+ inner.toList) (state : Items) :
    itemRound item inner (offsetOf inner ('\\' :: rest)) state =
      pure (.again (offsetOf inner (rest.drop 1)) state) := by
  rw [itemRound, peek_offsetOf h, pure_bind]
  simp [advance_offsetOf h 2]

theorem itemRound_comma {read rest : List Char} (h : read ++ ',' :: rest <:+ inner.toList) (found : List Value) :
    itemRound item inner (offsetOf inner (',' :: rest))
        { start := offsetOf inner (read ++ ',' :: rest), depth := 0, found } =
      pure (.again (offsetOf inner rest)
        { start := offsetOf inner rest, depth := 0, found := found ++ [value read] }) := by
  have hcomma := (List.suffix_append read (',' :: rest)).trans h
  rw [itemRound, peek_offsetOf hcomma, pure_bind, slice_offsetOf h, pure_bind, hitem, pure_bind]
  simp [advance_offsetOf hcomma 1]

omit hitem in
theorem itemRound_of_ne {c : Char} {rest : List Char} (h : c :: rest <:+ inner.toList) (hc : c ≠ '\\') (state : Items)
    (hcomma : ¬(c = ',' ∧ state.depth = 0)) :
    itemRound item inner (offsetOf inner (c :: rest)) state =
      pure (.again (offsetOf inner rest) { state with
        depth := if c = '[' then state.depth + 1 else if c = ']' then state.depth - 1 else state.depth }) := by
  rw [itemRound, peek_offsetOf h, pure_bind]
  simp only [List.head?_cons, if_neg hc, if_neg hcomma]
  rw [advance_offsetOf h]
  rfl

theorem loop_itemRound {read rest : List Char} (h : read ++ rest <:+ inner.toList) (depth : Nat) (found : List Value) :
    loop inner (itemRound item inner) (offsetOf inner rest) { start := offsetOf inner (read ++ rest), depth, found } =
      pure (found ++ value (read ++ (Value.splitItems depth rest).1) :: (Value.splitItems depth rest).2.map value) := by
  have hrest {read rest : List Char} (h : read ++ rest <:+ inner.toList) : rest <:+ inner.toList :=
    (List.suffix_append read rest).trans h
  have hnil {read : List Char} (h : read <:+ inner.toList) (depth : Nat) (found : List Value) :
      loop inner (itemRound item inner) (offsetOf inner []) { start := offsetOf inner read, depth, found } =
        pure (found ++ [value read]) := by
    refine loop_done ?_
    rw [itemRound, peek_offsetOf List.nil_suffix, pure_bind]
    simp only [List.head?_nil]
    rw [sliceFrom_offsetOf h, pure_bind, hitem]
    rfl
  fun_induction Value.splitItems depth rest generalizing read found with
  | case1 depth =>
    rw [List.append_nil] at h ⊢
    exact hnil h depth found
  | case2 depth =>
    rw [loop_past (itemRound_backslash (hrest h) _) (hrest h) List.suffix_rfl List.suffix_rfl]
    exact hnil h depth found
  | case3 depth c rest item items hsplit ih =>
    have hread : read ++ '\\' :: c :: rest = (read ++ ['\\', c]) ++ rest := by simp
    have hmore := ih (hread ▸ h) found
    rw [loop_past (itemRound_backslash (hrest h) _) (hrest h) List.suffix_rfl (List.suffix_cons c rest), hread]
    simpa [hsplit] using hmore
  | case4 depth c rest _ _ hc item items hsplit ih =>
    obtain ⟨rfl, rfl⟩ := hc
    have hbehind : [] ++ rest <:+ inner.toList := (List.suffix_cons ',' rest).trans (hrest h)
    have hmore := ih hbehind (found ++ [value read])
    rw [loop_past (itemRound_comma hitem h found) (hrest h) List.suffix_rfl List.suffix_rfl]
    simpa [hsplit] using hmore
  | case5 depth c rest hone hmany hcomma item items hsplit ih =>
    have hc : c ≠ '\\' := by
      rintro rfl
      cases rest with
      | nil => exact hone rfl rfl
      | cons d rest => exact hmany d rest rfl rfl
    have hread : read ++ c :: rest = (read ++ [c]) ++ rest := by simp
    have hmore := ih (hread ▸ h) found
    rw [loop_past (itemRound_of_ne (hrest h) hc _ hcomma) (hrest h) List.suffix_rfl List.suffix_rfl, hread]
    simpa [hsplit] using hmore

theorem items?_ofList (s : List Char) :
    items? item (String.ofList s) = pure ((Value.inlineItems? s).map fun items => items.map value) := by
  rw [items?, trimmed_ofList, startsWith_ofList, pure_bind, Value.inlineItems?]
  split
  · next hopen =>
    obtain ⟨rest, hrest⟩ := Option.isSome_iff_exists.mp hopen
    have htrim : trim s = '[' :: rest := dropStart?_eq_some.mp hrest
    have hbehind := (List.suffix_cons '[' rest).trans (suffix_ofList ('[' :: rest))
    have hone : offsetOf (String.ofList ('[' :: rest)) rest = 1 := offsetOf_ofList_cons (by decide) rest
    have hsize : 1 ≤ (String.ofList ('[' :: rest)).utf8ByteSize := hone ▸ offsetOf_le _ rest
    obtain ⟨found, hclose, hfound⟩ := listClose?_ofList rest
    rw [htrim, minus_of_le hsize, pure_bind, hclose, pure_bind]
    cases hinside : Value.untilLast? 0 rest with
    | none =>
      rw [hinside] at hfound
      rw [if_neg hfound]
      simp only [hinside, Option.map_none]
    | some inside =>
      rw [hinside] at hfound
      obtain ⟨hsplit, rfl⟩ := hfound
      have hbracket : [']'] <:+ (String.ofList ('[' :: rest)).toList :=
        List.IsSuffix.trans ⟨inside, hsplit.symm⟩ hbehind
      have hlast := (offsetOf_eq_last_iff hbracket (by decide)).mpr rfl
      have hslice := slice_offsetOf (hsplit ▸ hbehind)
      rw [← hsplit, hone, hlast] at hslice
      rw [if_pos (congrArg some hlast), hslice, pure_bind, String.toList_ofList]
      simp only [hinside, Option.map_some]
      split
      · rfl
      · have hwhole : [] ++ inside <:+ (String.ofList inside).toList := suffix_ofList inside
        have hloop := loop_itemRound hitem hwhole 0 []
        rw [List.nil_append, offsetOf_ofList] at hloop
        rw [hloop, pure_bind]
        simp
  · next hopen =>
    split
    · next rest htrim => exact absurd (htrim ▸ rfl) hopen
    · rfl

end Items

theorem inlineItem_ofList (levels : Nat) (raw : List Char) :
    inlineItem levels (String.ofList raw) = pure (Value.ofInlineItem levels raw) := by
  have htext (raw : List Char) : unescaped ']' (unescaped ',' (String.ofList (trim raw))) =
      String.ofList (unescape ']' (unescape ',' (trim raw))) := by
    rw [unescaped, unescaped, String.toList_ofList, String.toList_ofList]
  induction levels generalizing raw with
  | zero => rw [inlineItem, trimmed_ofList, htext, Value.ofInlineItem]
  | succ levels ih =>
    rw [inlineItem, trimmed_ofList, items?_ofList ih, pure_bind, Value.ofInlineItem, Value.inlineItems?, trim_trim]
    rw [← Value.inlineItems?, htext]
    cases Value.inlineItems? raw <;> rfl

theorem inlineList_eq (text : String) : inlineList text = pure (Value.parseInlineList? text) := by
  have h := items?_ofList (inlineItem_ofList (Value.maxInlineDepth - 1)) text.toList
  rwa [String.ofList_toList] at h

end Stencil.ByOffset
