import Stencil.Filter.Apply
import Stencil.Proofs.ByOffset.Arguments
import Stencil.Proofs.ByOffset.Formats
import Stencil.Proofs.ByOffset.OnePass
import Stencil.Proofs.Slicing

/-!
# Filters by offsets

The filters that take parts of texts and lists by their offsets. Each of them takes only parts that are there.
-/
namespace Stencil.ByOffset.Filters

open Stencil.Text Stencil.Tag

variable {α : Type}

/-- A word taken for an offset. A negative one is an offset that no list has. -/
def toOffset (i : Int64) : Nat := i.toUInt64.toNat

def sliced (s : Slice) (items : List α) : Checked (List α) :=
  let b := s.bounds items.length
  if b.stepWord = 1 then range items (toOffset b.startWord) (toOffset b.stopWord)
  else
    let array := items.toArray
    return (Slice.stride b.stopWord b.stepWord b.startWord).filterMap fun i =>
      if 0 ≤ i then array[i.toInt.toNat]? else none

def alternated (v : Value) (call : Invocation) : Checked Value :=
  match Filter.wholeNumber? v with
  | none => return v
  | some n => do
    let choices := match call.callArguments with
      | [] => ["even", "odd"]
      | choices => choices
    return referenced (← item choices (n % choices.length).toNat)

def wordRound (limit : Nat) (text : String) (pos : Nat) (found : List String) :
    Checked (Round (List String) (List String)) := do
  let rest ← ahead text pos
  if rest = [] then return .done found
  else if found.length + 1 = limit then return .done (found ++ [String.ofList rest])
  else if rest.any isBlank then
    let stop := pos + byteLength (rest.takeWhile (!isBlank ·))
    let word ← slice text pos stop
    return .again (← skipBlanks text stop) (found ++ [word])
  else return .done (found ++ [String.ofList rest])

def words (limit : Nat) (text : String) : Checked (List String) := do
  loop text (wordRound limit text) (← skipBlanks text 0) []

def formatOf (raw : String) : Checked String := do
  match ← between '"' (trimmed raw) with
  | some inside => return String.ofList (replaceAll ['\\', '"'] ['"'] inside.toList)
  | none => return raw

def formatted (format value : String) : Checked String := do
  match ← Formats.format format value with
  | .ok text => return text
  | .error fault => return fault.annotation format value

def sprintf (input : Option Value) (call : Invocation) : Checked (Option Value) :=
  call.rawArguments.mapM fun raw => do return .text (← formatted (← formatOf raw) (Value.displayOr input))

def formatAndRest (arguments : List String) : Checked (Option String × List String) :=
  match arguments[1]? with
  | some a =>
    if '%' ∈ a.toList then do return (some a, ← range arguments 2 arguments.length)
    else return (none, arguments.drop 1)
  | none => return (none, arguments.drop 1)

/-- A run that may fault. -/
abbrev CheckedRun := ExceptT Fault Run

def checked (x : Checked α) : CheckedRun α := ExceptT.mk (pure x)

def calculate (settle : Value → Run Value) (v : Value) (call : Invocation) : CheckedRun Value :=
  match call.callArguments with
  | [] => return v
  | expression :: rest => do
    let (format, values) ← checked (formatAndRest (expression :: rest))
    let numbers ← ExceptT.lift <| values.mapM fun a => do return Number.parse? (← Filter.settledArgument settle a)
    match Number.parse? v.display with
    | none => return v
    | some x =>
      match ← checked (OnePass.evaluate? expression x numbers) with
      | none =>
        ExceptT.lift (.notice (.notArithmetic expression))
        return v
      | some n =>
        match format with
        | some f => return .text (← checked (formatted f n.display))
        | none => return .text n.display

theorem toOffset_of_nonneg {i : Int64} (h : 0 ≤ i.toInt) : toOffset i = i.toInt.toNat := by
  have hword : i.toInt = if 2 * toOffset i < 2 ^ 64 then (toOffset i : Int) else toOffset i - (2 ^ 64 : Nat) :=
    i.toBitVec.toInt_eq_toNat_cond
  have hlt : toOffset i < 2 ^ 64 := i.toBitVec.isLt
  split at hword <;> omega

theorem sliced_eq (s : Slice) (items : List α) (hlen : items.length < 2 ^ 63) : sliced s items = pure (s.apply items) := by
  rw [sliced, Slice.apply]
  dsimp only
  split
  · next hone =>
    obtain ⟨hstart, hle, hstop⟩ := Slice.bounds_in_range items s hlen (by rw [Slice.Bounds.step, hone]; rfl)
    have hstop' := hstart.trans hle
    rw [toOffset_of_nonneg hstart, toOffset_of_nonneg hstop', range_of_le]
    · rfl
    · exact Int.toNat_le_toNat hle
    · exact Int.toNat_le.mpr hstop
  · rfl

theorem alternated_eq (v : Value) (call : Invocation) : alternated v call = pure (Filter.alternate v call) := by
  have hpick {choices : List String} (hne : choices ≠ []) (n : Int) :
      item choices (n % choices.length).toNat = pure (choices.getD (n % choices.length).toNat "") := by
    have hpos := List.length_pos_iff.mpr hne
    have hlow := Int.emod_nonneg n (show (choices.length : Int) ≠ 0 by omega)
    have hhigh := Int.emod_lt_of_pos n (show 0 < (choices.length : Int) by omega)
    have hlt : (n % choices.length).toNat < choices.length := by omega
    rw [item_of_lt hlt, List.getD_eq_getElem?_getD, List.getElem?_eq_getElem hlt, Option.getD_some]
  rw [alternated, Filter.alternate]
  cases Filter.wholeNumber? v with
  | none => rfl
  | some n =>
    cases hcall : call.callArguments with
    | nil =>
      have h := hpick (show ["even", "odd"] ≠ [] by simp) n
      dsimp only
      rw [h]
      rfl
    | cons a rest =>
      have h := hpick (List.cons_ne_nil a rest) n
      dsimp only
      rw [h]
      rfl

section Words

variable {text : String} {rest : List Char}

theorem words_trimStart (limit : Nat) (s : List Char) : Filter.words limit (trimStart s) = Filter.words limit s := by
  have hidem : trimStart (trimStart s) = trimStart s := List.dropWhile_idempotent isBlank s
  rw [Filter.words, hidem]
  exact (Filter.words.eq_def limit s).symm

/-- A text that begins with a word: the word itself, and the words that follow where the limit leaves more than one. -/
theorem words_of_trimmed {limit : Nat} (hrest : trimStart rest = rest) (hne : rest ≠ []) :
    Filter.words limit rest =
      if limit = 1 then [rest]
      else rest.takeWhile (!isBlank ·) :: Filter.words (limit - 1) (rest.dropWhile (!isBlank ·)) := by
  rw [Filter.words, hrest, dif_neg hne]

theorem wordRound_last (limit : Nat) (h : rest <:+ text.toList) (hne : rest ≠ []) (found : List String)
    (hlast : found.length + 1 = limit ∨ ∀ c ∈ rest, isBlank c = false) :
    wordRound limit text (offsetOf text rest) found = pure (.done (found ++ [String.ofList rest])) := by
  rw [wordRound, ahead_offsetOf h, pure_bind, if_neg hne]
  split
  · rfl
  · next hmore =>
    have hblank : rest.any isBlank = false := by simpa using hlast.resolve_left hmore
    rw [hblank]
    rfl

theorem wordRound_word (limit : Nat) {word more : List Char} {c : Char} (h : word ++ c :: more <:+ text.toList)
    (hword : ∀ d ∈ word, isBlank d = false) (hc : isBlank c = true) (found : List String)
    (hmore : found.length + 1 ≠ limit) :
    wordRound limit text (offsetOf text (word ++ c :: more)) found =
      pure (.again (offsetOf text (trimStart more)) (found ++ [String.ofList word])) := by
  have htake : (word ++ c :: more).takeWhile (!isBlank ·) = word :=
    takeWhile_append_stop (by simpa using hword) (by simpa using hc)
  have hbehind := (List.suffix_append word _).trans h
  rw [wordRound, ahead_offsetOf h, pure_bind, if_neg (by simp), if_neg hmore, if_pos (by simp [hc]), htake,
    ← offsetOf_append h]
  dsimp only
  rw [slice_offsetOf h, pure_bind, skipBlanks_offsetOf hbehind, trimStart_blank hc]
  rfl

/-- The loop from a word on, or from the end. So many words as have been found count against the limit. -/
theorem loop_wordRound (limit : Nat) (h : rest <:+ text.toList) (hrest : trimStart rest = rest) (found : List String)
    (hfound : limit = 0 ∨ found.length < limit) :
    loop text (wordRound limit text) (offsetOf text rest) found =
      pure (found ++ (Filter.words (limit - found.length) rest).map String.ofList) := by
  induction hlength : rest.length using Nat.strong_induction_on generalizing rest found with
  | _ n ih =>
    subst hlength
    by_cases hnil : rest = []
    · subst hnil
      refine loop_done ?_
      rw [wordRound, ahead_offsetOf h, pure_bind, if_pos rfl, Filter.words]
      simp [trimStart]
    have hlimit : limit - found.length = 1 ↔ found.length + 1 = limit := by omega
    rw [words_of_trimmed hrest hnil]
    -- The last word that the limit leaves room for takes the blanks behind it, too.
    by_cases hlast : found.length + 1 = limit
    · rw [loop_done (wordRound_last limit h hnil found (.inl hlast)), if_pos (hlimit.mpr hlast)]
      rfl
    rw [if_neg (mt hlimit.mp hlast)]
    cases hfind : rest.find? isBlank with
    | none =>
      have hword : ∀ c ∈ rest, isBlank c = false := by simpa using hfind
      have htake : rest.takeWhile (!isBlank ·) = rest := List.takeWhile_eq_self_iff.mpr (by simpa using hword)
      have hdrop : rest.dropWhile (!isBlank ·) = [] := List.dropWhile_eq_nil_iff.mpr (by simpa using hword)
      rw [loop_done (wordRound_last limit h hnil found (.inr hword)), htake, hdrop, Filter.words]
      simp [trimStart]
    | some c =>
      obtain ⟨hc, word, more, rfl, hword⟩ := List.find?_eq_some_iff_append.mp hfind
      have hword' : ∀ d ∈ word, isBlank d = false := by simpa using hword
      have htake : (word ++ c :: more).takeWhile (!isBlank ·) = word :=
        takeWhile_append_stop hword (by simpa using hc)
      have hdrop : (word ++ c :: more).dropWhile (!isBlank ·) = c :: more :=
        dropWhile_append_stop hword (by simpa using hc)
      have hbehind : trimStart more <:+ more := List.dropWhile_suffix isBlank
      have hshorter : (trimStart more).length < (word ++ c :: more).length := by
        have hle := hbehind.length_le
        simp only [List.length_append, List.length_cons]
        omega
      have hleft : limit - found.length - 1 = limit - (found ++ [String.ofList word]).length := by
        rw [List.length_append, List.length_singleton]
        omega
      rw [loop_past (wordRound_word limit h hword' hc found hlast) h (List.suffix_append word _) hbehind,
        ih _ hshorter (hbehind.trans ((List.suffix_cons c more).trans ((List.suffix_append word _).trans h)))
          (List.dropWhile_idempotent isBlank _) _ (by rw [List.length_append, List.length_singleton]; omega) rfl,
        htake, hdrop, ← words_trimStart _ (c :: more), trimStart_blank hc, hleft]
      simp

theorem words_eq (limit : Nat) (text : String) :
    words limit text = pure ((Filter.words limit text.toList).map String.ofList) := by
  have hstart := skipBlanks_offsetOf (List.suffix_refl text.toList)
  have hsuffix : trimStart text.toList <:+ text.toList := List.dropWhile_suffix isBlank
  rw [offsetOf_toList] at hstart
  rw [words, hstart, pure_bind, loop_wordRound limit hsuffix (List.dropWhile_idempotent isBlank _) [] (by simp; omega),
    words_trimStart]
  rfl

end Words

theorem formatOf_eq (raw : String) : formatOf raw = pure (Filter.formatOf raw) := by
  rw [formatOf, trimmed, between_ofList (by decide), pure_bind, Filter.formatOf]
  generalize trim raw.toList = s
  fun_cases inside? '"' s with
  | case1 c d rest hends =>
    obtain ⟨rfl, hlast⟩ := hends
    simp [hlast]
  | case2 c d rest hends =>
    dsimp only [Option.map_none]
    split
    · next hs =>
      obtain ⟨rfl, rfl, rfl⟩ : c = '"' ∧ _ ∧ _ := by simpa using hs
      rw [if_neg fun hlast => hends ⟨rfl, hlast⟩]
    · rfl
  | case3 =>
    dsimp only [Option.map_none]
    split
    · next d rest hother => exact (hother '"' d rest rfl).elim
    · rfl

theorem formatted_eq (format value : String) : formatted format value = pure (Filter.formatted format value) := by
  rw [formatted, Formats.format_eq, pure_bind, Filter.formatted]
  split <;> simp only [*]

theorem sprintf_eq (input : Option Value) (call : Invocation) : sprintf input call = pure (Filter.sprintf input call) := by
  rw [sprintf, Filter.sprintf]
  simp only [formatOf_eq, formatted_eq, pure_bind]
  cases call.rawArguments <;> rfl

theorem formatAndRest_cons (expression : String) (rest : List String) :
    formatAndRest (expression :: rest) = pure (Filter.formatAndRest rest) := by
  rw [formatAndRest]
  cases rest with
  | nil => rfl
  | cons a rest =>
    have hrange : range (expression :: a :: rest) 2 (expression :: a :: rest).length = pure rest := range_back (by simp)
    have hsecond : (expression :: a :: rest)[1]? = some a := rfl
    have hdrop : (expression :: a :: rest).drop 1 = a :: rest := rfl
    rw [hsecond, hrange, hdrop, Filter.formatAndRest]
    exact (apply_ite pure _ _ _).symm

theorem checked_pure (a : α) : checked (pure a) = pure a := rfl

/-- The values are settled, the expression is evaluated in one pass, and nothing of it faults. -/
theorem calculate_eq (settle : Value → Run Value) (v : Value) (call : Invocation) :
    calculate settle v call = ExceptT.lift (Filter.calculate settle v call) := by
  rw [calculate, Filter.calculate]
  cases call.callArguments with
  | nil => rfl
  | cons expression rest =>
    simp only [formatAndRest_cons, checked_pure, pure_bind, OnePass.evaluate?_eq, formatted_eq]
    refine ExceptT.ext ?_
    rw [ExceptT.run_bind_lift, ExceptT.run_lift, map_bind]
    congr
    funext numbers
    cases Number.parse? v.display with
    | none => rfl
    | some x =>
      dsimp only
      cases Arithmetic.evaluate? expression x numbers with
      | none => rfl
      | some n => cases (Filter.formatAndRest rest).1 <;> rfl

end Stencil.ByOffset.Filters
