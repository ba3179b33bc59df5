import Stencil.Proofs.Composition

/-!
# Calls of stock filters

Stock filters as they are written: by one of their names, alone or with plain arguments. Most of them leave an
absent value absent.
-/
namespace Stencil

open Stencil.Text Stencil.Tag Stencil.Tag.Grammar

theorem lowerFrom_ascii {s : List Char} (h : ∀ c ∈ s, c.toNat < 128) (behind : List Char) :
    Unicode.lowerFrom behind s = s.map Char.toLower := by
  induction s generalizing behind with
  | nil => rfl
  | cons c s ih =>
    have hc := h c (by simp)
    have hsigma : c ≠ 'Σ' := by
      rintro rfl
      exact absurd hc (by decide)
    rw [Unicode.lowerFrom, if_neg hsigma, Unicode.lowerChar, if_pos hc,
      ih (fun d hd => h d (by simp [hd])), List.map_cons, List.singleton_append]

theorem Stock.mem_names_of_ofName? {name : String} {f : Stock} (h : Stock.ofName? name = some f) :
    name ∈ f.names := by
  have hfound := List.find?_some h
  simpa using hfound

theorem Stock.eq_onmatch_of_prefix (f : Stock) :
    ∀ name ∈ f.names, "onmatch".toList <+: name.toList → name.toList = "onmatch".toList := by
  cases f <;> decide

/-- The only name of a stock filter that begins like `onmatch` is that word. -/
theorem eq_onmatch_of_known {name : Name} {f : Stock}
    (h : Stock.ofName? (Unicode.lowercase (String.ofList name.chars)) = some f)
    (hword : "onmatch".toList <+: name.chars) : name.chars = "onmatch".toList := by
  have hlower : (Unicode.lowercase (String.ofList name.chars)).toList = name.chars.map Char.toLower := by
    rw [Unicode.lowercase, String.toList_ofList, String.toList_ofList, Unicode.lower]
    exact lowerFrom_ascii (fun c hc => toNat_lt_of_isNameChar (name.valid c hc)) []
  have hmapped : "onmatch".toList <+: name.chars.map Char.toLower := by
    have hlow : "onmatch".toList.map Char.toLower = "onmatch".toList := by decide
    rw [← hlow]
    exact hword.map Char.toLower
  rw [← hlower] at hmapped
  have heq := f.eq_onmatch_of_prefix _ (Stock.mem_names_of_ofName? h) hmapped
  have hlength := congrArg List.length (hlower.symm.trans heq)
  rw [List.length_map] at hlength
  exact (hword.eq_of_length hlength.symm).symm

/-- A stock filter as it is written: by one of its names in any case, alone or with plain arguments. -/
structure StockCall where
  name : Name
  stock : Stock
  known : Stock.ofName? (Unicode.lowercase (String.ofList name.chars)) = some stock
  arguments : Option (List Plain)

namespace StockCall

variable (u : StockCall)

def print : List Char :=
  match u.arguments with
  | none => u.name.chars
  | some ps => u.name.chars ++ '(' :: (commas (ps.map Plain.chars) ++ [')'])

def text : String := String.ofList u.print

def chain (us : List StockCall) : String := String.ofList (bars (us.map print))

theorem toList_text : u.text.toList = u.print := String.toList_ofList

theorem readable_onmatch (ps : List Plain) :
    Readable ("onmatch".toList ++ '(' :: (commas (ps.map Plain.chars) ++ [')'])) where
  nonempty := by simp
  head := by simp [isBlank]
  last := by
    rw [← List.cons_append, ← List.append_assoc]
    exact getLast_append (by simp) (by simp [isBlank])
  shape t ht := by
    refine ⟨[], List.nil_suffix, by simp, ?_⟩
    have hlist := afterMatchList_of_passed (fun t => afterPairs?_plain t ps) none ht
    have hs : trimStart ("onmatch".toList ++ '(' :: (commas (ps.map Plain.chars) ++ [')']) ++ t) =
        "onmatch".toList ++ '(' :: (commas (ps.map Plain.chars) ++ ')' :: t) := by
      rw [trimStart_of_head (by simp [isBlank])]
      simp
    rw [afterShape_of_onmatch hs]
    exact hlist

theorem readable : Readable u.print := by
  unfold print
  cases u.arguments with
  | none => exact readable_print (.bare u.name)
  | some ps =>
    by_cases hword : "onmatch".toList <+: u.name.chars
    · rw [eq_onmatch_of_known u.known hword]
      exact readable_onmatch ps
    · have h := readable_print (.call u.name hword (ps.map .plain))
      rw [print_call, List.map_map] at h
      exact h

theorem readable_of_mem (us : List StockCall) : ∀ s ∈ us.map print, Readable s := by
  intro s hs
  obtain ⟨u, -, rfl⟩ := List.mem_map.mp hs
  exact u.readable

theorem text_ne_empty : u.text ≠ "" := by
  intro h
  have hchars := congrArg String.toList h
  rw [u.toList_text] at hchars
  exact u.readable.nonempty hchars

theorem parse_name : (Invocation.parse u.text).name = String.ofList u.name.chars := by
  have htrim := u.readable.trim_eq
  rw [Invocation.parse, toList_text]
  unfold print at htrim ⊢
  cases harguments : u.arguments with
  | none => exact (Invocation.ofChars_bare u.name.valid).1
  | some ps =>
    rw [harguments] at htrim
    exact (Invocation.ofChars_call htrim u.name.valid).1

theorem parse_rawArguments (h : u.arguments = none) : (Invocation.parse u.text).rawArguments = none := by
  rw [Invocation.parse, toList_text, print, h]
  exact Invocation.rawArguments_bare u.name.valid

/-- Whether a call leaves an absent value absent. The filters that count, mark, choose and name give a value
always, and a format does if there is one. An indentation must fit into memory even where there is nothing to
indent. -/
def KeepsNull : Prop :=
  match u.stock with
  | .onMatch | .length | .selected | .checked | .default | .type => False
  | .sprintf => u.arguments = none
  | .indent =>
    byteLength (Filter.padding (Invocation.parse u.text)).2.toList *
      (Filter.padding (Invocation.parse u.text)).1 < Nat.pow 2 63
  | _ => True

theorem apply_none (h : u.KeepsNull) (settle : Value → Run Value) :
    u.stock.apply settle none (Invocation.parse u.text) = pure none := by
  unfold KeepsNull at h
  cases hstock : u.stock with
  | onMatch | length | selected | checked | default | type => simp [hstock] at h
  | sprintf =>
    rw [hstock] at h
    have hraw := u.parse_rawArguments h
    rw [Stock.apply, Filter.sprintf, hraw]
    rfl
  | indent =>
    rw [hstock] at h
    dsimp only at h
    rw [Stock.apply, Filter.indentBy]
    dsimp only
    rw [if_neg (Nat.not_le.mpr h)]
    rfl
  | _ => rfl

end StockCall

namespace Engine

/-- No custom filter and no alias takes the place of a stock filter with a name. -/
def LeavesStock (e : Engine) (name : String) : Prop :=
  Table.get? name e.registry.custom = none ∧ Table.get? name e.registry.aliases = none

variable {e : Engine} (r : Resolver) (deeper : Unit → Level)

/-- A filter is a stock filter where its name is known and no other filter has it. -/
theorem applyFilter_of_leavesStock {filter name : String} {f : Stock} (h : e.LeavesStock name)
    (hname : Unicode.lowercase (Invocation.parse filter).name = name) (hknown : Stock.ofName? name = some f)
    (v : Option Value) :
    e.applyFilter deeper v filter = f.apply (settle deeper) v (Invocation.parse filter) := by
  unfold applyFilter
  dsimp only
  rw [hname, h.1, h.2, hknown]

theorem applyFilter_stock {u : StockCall}
    (h : e.LeavesStock (Unicode.lowercase (String.ofList u.name.chars))) (v : Option Value) :
    e.applyFilter deeper v u.text = u.stock.apply (settle deeper) v (Invocation.parse u.text) :=
  applyFilter_of_leavesStock deeper h (congrArg Unicode.lowercase u.parse_name) u.known v

theorem filters_chain {us : List StockCall} (hus : us ≠ []) :
    filters (StockCall.chain us) = us.map StockCall.text := by
  rw [StockCall.chain, filters_bars (StockCall.readable_of_mem us) (by simpa using hus), List.map_map]
  rfl

/-- Calls that leave an absent value absent leave it absent one after the other. -/
theorem applyChain_none {us : List StockCall} (hus : us ≠ [])
    (hstock : ∀ u ∈ us, e.LeavesStock (Unicode.lowercase (String.ofList u.name.chars)))
    (hkeeps : ∀ u ∈ us, u.KeepsNull) :
    e.applyChain deeper (StockCall.chain us) none = pure none := by
  have htexts : ∀ s ∈ us.map StockCall.text, s ≠ "" := by
    intro s hs
    obtain ⟨u, -, rfl⟩ := List.mem_map.mp hs
    exact u.text_ne_empty
  rw [applyChain_of_filters e deeper (filters_chain hus) htexts]
  clear htexts hus
  induction us with
  | nil => rfl
  | cons u us ih =>
    have hstep : e.filterStep deeper none u.text = pure none := by
      rw [filterStep, applyFilter_stock deeper (hstock u (by simp)), u.apply_none (hkeeps u (by simp))]
      rfl
    rw [List.map_cons, List.foldlM_cons, hstep, pure_bind]
    exact ih (fun v hv => hstock v (by simp [hv])) fun v hv => hkeeps v (by simp [hv])

end Engine

end Stencil
