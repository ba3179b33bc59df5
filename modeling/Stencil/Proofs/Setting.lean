import Mathlib.Data.List.Infix
import Stencil.Engine.Store

/-!
# Setting values in a store

A key leads through maps only: of the values on its way it keeps the maps, and all others give way to maps. What
is found at a path that leaves the way of the key therefore stays as it is, unless the path has gone through the
index of a list that the key replaces.
-/
namespace Stencil.Store

/-- A list stands where two paths have gone the same way. -/
def ListOnWay (v : Value) (keys path : List String) : Prop :=
  ∃ p, p <+: keys ∧ p <+: path ∧ ∃ items, descend? p v = some (.list items)

theorem descend?_cons_map (key : String) (rest : List String) (entries : Table Value) :
    descend? (key :: rest) (.map entries) = (Table.get? key entries).bind (descend? rest) := rfl

theorem descend?_map_nil {path : List String} (h : path ≠ []) : descend? path (.map []) = none := by
  cases path with
  | nil => exact absurd rfl h
  | cons key rest => rfl

theorem resolve?_of_ne_nil (s : Store) {path : List String} (h : path ≠ []) :
    s.resolve? path = descend? path (.map s.data) := by
  cases path with
  | nil => exact absurd rfl h
  | cons key rest => rfl

/-- Neither at the empty path nor at the root is there a list. -/
theorem resolve?_eq_list_iff (s : Store) (path : List String) (items : List Value) :
    s.resolve? path = some (.list items) ↔ descend? path (.map s.data) = some (.list items) := by
  cases path with
  | nil => simp [resolve?, descend?]
  | cons key rest => rfl

/-- Below the root the way goes on in the entry of the first key. -/
theorem listOnWay_cons {entries : Table Value} {key : String} {keys path : List String} :
    ListOnWay (.map entries) (key :: keys) (key :: path) ↔
      ∃ v, Table.get? key entries = some v ∧ ListOnWay v keys path := by
  constructor
  · rintro ⟨p, hkeys, hpath, items, hlist⟩
    cases p with
    | nil => cases hlist
    | cons k p =>
      obtain rfl : k = key := (List.cons_prefix_cons.mp hkeys).1
      obtain ⟨v, hv, hitems⟩ := Option.bind_eq_some_iff.mp hlist
      exact ⟨v, hv, p, (List.cons_prefix_cons.mp hkeys).2, (List.cons_prefix_cons.mp hpath).2, items, hitems⟩
  · rintro ⟨v, hv, p, hkeys, hpath, items, hitems⟩
    refine ⟨key :: p, (List.prefix_cons_inj key).mpr hkeys, (List.prefix_cons_inj key).mpr hpath, items, ?_⟩
    rw [descend?_cons_map, hv]
    exact hitems

theorem not_listOnWay_of_ne {entries : Table Value} {key other : String} (h : other ≠ key)
    (keys path : List String) : ¬ListOnWay (.map entries) (key :: keys) (other :: path) := by
  rintro ⟨p, hkeys, hpath, items, hlist⟩
  cases p with
  | nil => cases hlist
  | cons k p =>
    exact h ((List.cons_prefix_cons.mp hpath).1.symm.trans (List.cons_prefix_cons.mp hkeys).1)

/-- Only maps have something below them that no list stands in front of. -/
theorem descend?_eq_none_of_not_listOnWay {v : Value} {keys path : List String} (hpath : path ≠ [])
    (hlist : ¬ListOnWay v keys path) (hmap : ∀ entries, v ≠ .map entries) : descend? path v = none := by
  obtain ⟨key, rest, rfl⟩ := List.exists_cons_of_ne_nil hpath
  cases v with
  | text s => rfl
  | snippet s => rfl
  | map entries => exact absurd rfl (hmap entries)
  | list items =>
    exact absurd ⟨[], List.nil_prefix, List.nil_prefix, items, rfl⟩ hlist

/-- The entries that a key finds below a value: those of a map, and none elsewhere. -/
def entriesOf : Option Value → Table Value
  | some (.map entries) => entries
  | _ => []

theorem entriesOf_some_of_ne_map {v : Value} (h : ∀ entries, v ≠ .map entries) : entriesOf (some v) = [] := by
  cases v with
  | text s => rfl
  | snippet s => rfl
  | list items => rfl
  | map entries => exact absurd rfl (h entries)

theorem put_cons (value : Value) (key : String) {rest : List String} (h : rest ≠ []) (entries : Table Value) :
    put value (key :: rest) entries =
      Table.insert key (.map (put value rest (entriesOf (Table.get? key entries)))) entries := by
  obtain ⟨next, rest, rfl⟩ := List.exists_cons_of_ne_nil h
  rfl

theorem get?_put_of_ne (value : Value) {key other : String} (h : other ≠ key) (rest : List String)
    (entries : Table Value) :
    Table.get? other (put value (key :: rest) entries) = Table.get? other entries := by
  by_cases hrest : rest = []
  · rw [hrest]
    exact Table.get?_insert_of_ne h value entries
  · rw [put_cons value key hrest]
    exact Table.get?_insert_of_ne h _ entries

theorem descend?_put_cons (value : Value) (key : String) {rest : List String} (h : rest ≠ [])
    (path : List String) (entries : Table Value) :
    descend? (key :: path) (.map (put value (key :: rest) entries)) =
      descend? path (.map (put value rest (entriesOf (Table.get? key entries)))) := by
  rw [descend?_cons_map, put_cons value key h, Table.get?_insert_self]
  rfl

/-- A path that leaves the way of a key finds what it found before, and nothing behind a list on the way that
they have in common. -/
theorem descend?_put (value : Value) {keys path : List String} (hshort : ¬path <+: keys)
    (hlong : ¬keys <+: path) (entries : Table Value) :
    (ListOnWay (.map entries) keys path → descend? path (.map (put value keys entries)) = none) ∧
    (¬ListOnWay (.map entries) keys path →
      descend? path (.map (put value keys entries)) = descend? path (.map entries)) := by
  -- One key after the other, as long as the path goes the same way.
  induction keys generalizing path entries with
  | nil => exact absurd List.nil_prefix hlong
  | cons key rest ih =>
    cases path with
    | nil => exact absurd List.nil_prefix hshort
    | cons other path =>
      by_cases hkey : other = key
      · subst hkey
        have hshort' : ¬path <+: rest := fun h => hshort ((List.prefix_cons_inj other).mpr h)
        have hlong' : ¬rest <+: path := fun h => hlong ((List.prefix_cons_inj other).mpr h)
        have hpath : path ≠ [] := fun h => hshort' (h ▸ List.nil_prefix)
        have hrest : rest ≠ [] := fun h => hlong' (h ▸ List.nil_prefix)
        -- Where no map was, the path finds nothing in the new one.
        have hfresh : descend? path (.map (put value rest [])) = none := by
          have hnone := descend?_map_nil hpath
          by_cases h : ListOnWay (.map []) rest path
          · exact (ih hshort' hlong' []).1 h
          · rw [(ih hshort' hlong' []).2 h, hnone]
        rw [descend?_put_cons value other hrest, listOnWay_cons, descend?_cons_map]
        cases hentry : Table.get? other entries with
        | none => exact ⟨fun _ => hfresh, fun _ => hfresh⟩
        | some v =>
          simp only [Option.some.injEq, exists_eq_left', Option.bind_some]
          by_cases hmap : ∃ inner, v = .map inner
          · obtain ⟨inner, rfl⟩ := hmap
            exact ih hshort' hlong' inner
          · have hnomap : ∀ inner, v ≠ .map inner := not_exists.mp hmap
            rw [entriesOf_some_of_ne_map hnomap]
            refine ⟨fun _ => hfresh, fun hlist => ?_⟩
            rw [hfresh, descend?_eq_none_of_not_listOnWay hpath hlist hnomap]
      · refine ⟨fun hlist => absurd hlist (not_listOnWay_of_ne hkey rest path), fun _ => ?_⟩
        rw [descend?_cons_map, descend?_cons_map, get?_put_of_ne value hkey]

/-- Setting a key leaves what is found at a path that is neither the beginning of the key nor goes on behind it,
unless a list stands where both have gone the same way: then the path finds nothing any more. -/
theorem resolve?_set_of_apart (s : Store) (key : String) (value : Value) {path : List String}
    (hshort : ¬path <+: keyPath key) (hlong : ¬keyPath key <+: path) :
    ((∀ p items, p <+: keyPath key → p <+: path → s.resolve? p ≠ some (.list items)) →
      (s.set key value).resolve? path = s.resolve? path) ∧
    ((∃ p items, p <+: keyPath key ∧ p <+: path ∧ s.resolve? p = some (.list items)) →
      (s.set key value).resolve? path = none) := by
  have hpath : path ≠ [] := fun h => hshort (h ▸ List.nil_prefix)
  have hway : ListOnWay (.map s.data) (keyPath key) path ↔
      ∃ p items, p <+: keyPath key ∧ p <+: path ∧ s.resolve? p = some (.list items) := by
    simp only [resolve?_eq_list_iff, ListOnWay, exists_and_left]
  obtain ⟨hblocked, hkept⟩ := descend?_put value hshort hlong s.data
  rw [resolve?_of_ne_nil _ hpath, resolve?_of_ne_nil _ hpath]
  refine ⟨fun hno => hkept fun hlist => ?_, fun hlist => hblocked (hway.mpr hlist)⟩
  obtain ⟨p, items, hkeys, hp, hitems⟩ := hway.mp hlist
  exact hno p items hkeys hp hitems

/-- The tags of a user stay where the name is set, as a map holds both. -/
theorem resolve?_set_of_apart_tags :
    let s : Store := ⟨[("user", .map [("tags", .list [.text "a", .text "b"])])], []⟩
    ¬["user", "tags", "1"] <+: keyPath "user.name" ∧ ¬keyPath "user.name" <+: ["user", "tags", "1"] ∧
      (s.set "user.name" (.text "Ada")).resolve? ["user", "tags", "1"] = s.resolve? ["user", "tags", "1"] := by
  intro s
  have hkey : keyPath "user.name" = ["user", "name"] := by decide +kernel
  have hshort : ¬["user", "tags", "1"] <+: keyPath "user.name" := by simp [hkey]
  have hlong : ¬keyPath "user.name" <+: ["user", "tags", "1"] := by simp [hkey]
  refine ⟨hshort, hlong, (resolve?_set_of_apart s "user.name" _ hshort hlong).1 ?_⟩
  intro p items hp hpath hlist
  rw [hkey] at hp
  match p with
  | [] => cases hlist
  | [key] =>
    obtain rfl : key = "user" := (List.cons_prefix_cons.mp hpath).1
    cases hlist
  | key :: next :: rest =>
    have hname : next = "name" := (List.cons_prefix_cons.mp (List.cons_prefix_cons.mp hp).2).1
    have htags : next = "tags" := (List.cons_prefix_cons.mp (List.cons_prefix_cons.mp hpath).2).1
    exact absurd (hname.symm.trans htags) (by decide)

/-- A list gives way to a map with all its items. -/
theorem resolve?_set_loses_items :
    let s : Store := ⟨[("a", .list [.text "x"])], []⟩
    ¬["a", "0"] <+: keyPath "a.b" ∧ ¬keyPath "a.b" <+: ["a", "0"] ∧
      s.resolve? ["a", "0"] = some (.text "x") ∧ (s.set "a.b" (.text "y")).resolve? ["a", "0"] = none := by
  intro s
  have hkey : keyPath "a.b" = ["a", "b"] := by decide +kernel
  refine ⟨by simp [hkey], by simp [hkey], rfl, ?_⟩
  rw [set, hkey]
  rfl

end Stencil.Store
