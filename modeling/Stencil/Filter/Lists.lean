import Stencil.Decimal.Numeral
import Stencil.Tag.Invocation
import Stencil.Text.Search
import Stencil.Value.InlineList

/-!
# Filters on lists

Joining, picking, splitting, measuring and sorting. Text that is an inline list counts as a list.
-/
namespace Stencil.Filter

open Stencil.Text

def join (divider : String) (v : Value) : Value :=
  match v.toList? with
  | some items => .text (divider.intercalate (items.map Value.display))
  | none => v

/-- The item of a list at an index, which counts from the end if it is negative. -/
def itemAt? (items : List Value) (key : List Char) : Option Value := do
  let i ← Decimal.signed? 64 key
  let i := if i < 0 then i + items.length else i
  if i < 0 then none else items[i.toNat]?

def get (key : String) (v : Value) : Option Value :=
  let key := trimmed key
  match v with
  | .map entries => Table.get? key entries
  | _ =>
    match v.toList? with
    | some items => itemAt? items key.toList
    | none => some v

/-- The words of a text. With a limit that is not zero there are at most so many, and the last is the rest
of the text. -/
def words (limit : Nat) (s : List Char) : List (List Char) :=
  let t := trimStart s
  if _h : t = [] then []
  else if limit = 1 then [t]
  else t.takeWhile (!isBlank ·) :: words (limit - 1) (t.dropWhile (!isBlank ·))
termination_by s.length
decreasing_by
  have h1 := trimStart_length_le s
  obtain ⟨c, rest, hc⟩ := List.exists_cons_of_ne_nil _h
  have hb : isBlank c = false := by
    have hd : (s.dropWhile isBlank).head? = some c := by
      have : s.dropWhile isBlank = c :: rest := hc
      simp [this]
    have := List.head?_dropWhile_not isBlank s
    rw [hd] at this
    simpa using this
  have h2 : (t.dropWhile (!isBlank ·)).length ≤ rest.length := by
    rw [hc, List.dropWhile_cons]
    simp only [hb, Bool.not_false, if_true]
    exact (List.dropWhile_suffix _).length_le
  have h3 : t.length ≤ s.length := h1
  rw [hc] at h3
  simp only [List.length_cons] at h3
  exact Nat.lt_of_le_of_lt h2 h3

/-- The limit that an argument sets to the number of pieces; zero for none. -/
def limitOf (argument : Option String) : Nat :=
  (argument.bind fun a => Decimal.unsigned? 64 (trim a.toList)).getD 0

def textList (pieces : List (List Char)) : Value :=
  .list (pieces.map fun p => .text (String.ofList p))

def length : Option Value → Nat
  | none => 0
  | some (.map entries) => entries.length
  | some v =>
    match v.toList? with
    | some items => items.length
    | none => v.display.length

/-- Sorts the items of a list by their texts; equal ones keep their order. -/
def sort (v : Value) : Value :=
  match v.toList? with
  | some items =>
    let keyed := items.map fun item => (item.display, item)
    .list ((keyed.mergeSort fun a b => a.1 ≤ b.1).map (·.2))
  | none => v

end Stencil.Filter
