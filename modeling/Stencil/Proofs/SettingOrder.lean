import Stencil.CommandLine.Answer
import Stencil.Proofs.Setting
import Stencil.Proofs.Trimming

/-!
# The order of settings

What has been set is found again, whatever stood on the way of its key. Settings whose keys leave each other's way
do not see each other: each writes below its own entry of the map where the ways part, and the entries of a map have
no order but that of their keys. So a list of such settings gives one store in every order.
-/
namespace Stencil.Store

theorem keyPath_ne_nil (key : String) : keyPath key ≠ [] := by
  simpa [keyPath, Text.splitAll] using Text.splitUpTo_ne_nil ['.'] 0 key.toList

/-- What a value becomes on the way of a key: the new value at its end, and a map before. -/
def along (value : Value) (rest : List String) (found : Option Value) : Value :=
  if rest = [] then value else .map (put value rest (entriesOf found))

theorem put_eq_insert (value : Value) (key : String) (rest : List String) (entries : Table Value) :
    put value (key :: rest) entries =
      Table.insert key (along value rest (Table.get? key entries)) entries := by
  by_cases h : rest = []
  · rw [along, if_pos h, h]
    rfl
  · rw [along, if_neg h, put_cons value key h]

theorem descend?_put_self (value : Value) {keys : List String} (h : keys ≠ []) (entries : Table Value) :
    descend? keys (.map (put value keys entries)) = some value := by
  -- One key after the other; whatever its entry holds, a map takes its place, in which the rest is put.
  induction keys generalizing entries with
  | nil => exact absurd rfl h
  | cons key rest ih =>
    rw [put_eq_insert, descend?_cons_map, Table.get?_insert_self, Option.bind_some, along]
    by_cases hrest : rest = []
    · rw [if_pos hrest, hrest]
      rfl
    · rw [if_neg hrest]
      exact ih hrest _

/-- Values that are put at paths of which none goes on behind the other can be put in either order. -/
theorem put_put_of_apart (value value' : Value) {keys path : List String} (hshort : ¬path <+: keys)
    (hlong : ¬keys <+: path) (entries : Table Value) :
    put value' path (put value keys entries) = put value keys (put value' path entries) := by
  -- The common beginning of the paths leads to one map, and there to two entries.
  induction keys generalizing path entries with
  | nil => exact absurd List.nil_prefix hlong
  | cons key rest ih =>
    cases path with
    | nil => exact absurd List.nil_prefix hshort
    | cons other path =>
      by_cases hkey : other = key
      · subst hkey
        have hshort' : ¬path <+: rest := fun h => hshort ((List.prefix_cons_inj other).mpr h)
        have hlong' : ¬rest <+: path := fun h => hlong ((List.prefix_cons_inj other).mpr h)
        have hpath : path ≠ [] := fun h => hshort' (h ▸ List.nil_prefix)
        have hrest : rest ≠ [] := fun h => hlong' (h ▸ List.nil_prefix)
        have hinner : ∀ v, entriesOf (some (.map v)) = v := fun _ => rfl
        rw [put_cons _ _ hpath, put_cons _ _ hrest, put_cons _ _ hrest, put_cons _ _ hpath,
          Table.get?_insert_self, Table.get?_insert_self, Table.insert_insert, Table.insert_insert, hinner, hinner,
          ih hshort' hlong']
      · rw [put_eq_insert value, put_eq_insert value', put_eq_insert value', put_eq_insert value,
          Table.get?_insert_of_ne hkey, Table.get?_insert_of_ne (Ne.symm hkey), Table.insert_comm hkey]

/-- Neither key leads on behind the other one. -/
def Apart (key other : String) : Prop := ¬keyPath key <+: keyPath other ∧ ¬keyPath other <+: keyPath key

theorem Apart.symm {key other : String} (h : Apart key other) : Apart other key := And.symm h

def setAll (s : Store) (settings : List (String × Value)) : Store :=
  settings.foldl (fun s (key, value) => s.set key value) s

theorem resolve?_set_self (s : Store) (key : String) (value : Value) :
    (s.set key value).resolve? (keyPath key) = some value := by
  rw [resolve?_of_ne_nil _ (keyPath_ne_nil key), set]
  exact descend?_put_self value (keyPath_ne_nil key) s.data

theorem set_set_of_apart (s : Store) {key other : String} (h : Apart key other) (value value' : Value) :
    (s.set key value).set other value' = (s.set other value').set key value := by
  simp only [set, put_put_of_apart value value' h.2 h.1]

variable {settings settings' : List (String × Value)}

/-- Settings whose keys are apart give the same store in every order. -/
theorem setAll_eq_of_perm (h : settings.Perm settings') (hapart : settings.Pairwise fun x y => Apart x.1 y.1)
    (s : Store) : s.setAll settings = s.setAll settings' := by
  induction h generalizing s with
  | nil => rfl
  | cons x _ ih => exact ih (List.pairwise_cons.mp hapart).2 _
  | swap x y rest =>
    have hxy : Apart y.1 x.1 := (List.pairwise_cons.mp hapart).1 x (by simp)
    exact congrArg (fun s => setAll s rest) (set_set_of_apart s hxy y.2 x.2)
  | trans h _ ih ih' =>
    exact (ih hapart s).trans (ih' ((h.pairwise_iff Apart.symm).mp hapart) s)

/-- Each of some settings whose keys are apart is found in the end, as it could have been the last one. -/
theorem resolve?_setAll (hapart : settings.Pairwise fun x y => Apart x.1 y.1) (s : Store) {key : String}
    {value : Value} (h : (key, value) ∈ settings) : (s.setAll settings).resolve? (keyPath key) = some value := by
  obtain ⟨before, behind, rfl⟩ := List.append_of_mem h
  have hlast : (before ++ (key, value) :: behind).Perm (before ++ behind ++ [(key, value)]) :=
    List.perm_middle.trans (List.perm_append_singleton _ _).symm
  rw [setAll_eq_of_perm hlast hapart, setAll, List.foldl_concat]
  exact resolve?_set_self _ key value

end Stencil.Store

namespace Stencil.CommandLine

open Store

def setOption (setting : String × String) : String := setting.1 ++ "=" ++ setting.2

def textSetting (setting : String × String) : String × Value := (setting.1, .text setting.2)

variable {m : Type → Type} [Monad m] [LawfulMonad m]

theorem setValue_setOption (s : Store) {setting : String × String} (h : '=' ∉ setting.1.toList) :
    setValue (m := m) s (setOption setting) = pure (s.set setting.1 (.text setting.2)) := by
  have hchars : (setOption setting).toList = setting.1.toList ++ '=' :: setting.2.toList := by
    simp [setOption]
  have hkey : ∀ c ∈ setting.1.toList, (c != '=') = true := by
    intro c hc
    simp only [bne_iff_ne, ne_eq]
    rintro rfl
    exact h hc
  have hsplit : splitPair (m := m) .set (setOption setting) = pure setting := by
    rw [splitPair, hchars, Text.takeWhile_append_stop hkey (by simp), Text.dropWhile_append_stop hkey (by simp)]
    simp
  rw [setValue, hsplit, pure_bind]

/-- The options of a command line set their keys one after the other. -/
theorem foldlM_setValue (s : Store) {settings : List (String × String)}
    (h : ∀ x ∈ settings, '=' ∉ x.1.toList) :
    (settings.map setOption).foldlM (setValue (m := m)) s = pure (s.setAll (settings.map textSetting)) := by
  induction settings generalizing s with
  | nil => rfl
  | cons x rest ih =>
    rw [List.map_cons, List.foldlM_cons, setValue_setOption s (h x (by simp)), pure_bind,
      ih _ fun y hy => h y (by simp [hy])]
    rfl

/-- What has been set is found, whatever stood on the way of its key. Settings whose keys are apart can change
places; so a list of them gives one store in every order, in which each is found, and the options of a command line
give that store too. -/
theorem settings_in_any_order (s : Store) :
    (∀ key value, (s.set key value).resolve? (keyPath key) = some value) ∧
    (∀ key other value value', Apart key other →
      (s.set key value).set other value' = (s.set other value').set key value) ∧
    (∀ settings settings' : List (String × Value), settings.Perm settings' →
      settings.Pairwise (fun x y => Apart x.1 y.1) →
        s.setAll settings' = s.setAll settings ∧
        ∀ key value, (key, value) ∈ settings → (s.setAll settings').resolve? (keyPath key) = some value) ∧
    ∀ settings settings' : List (String × String), settings.Perm settings' →
      settings.Pairwise (fun x y => Apart x.1 y.1) → (∀ x ∈ settings, '=' ∉ x.1.toList) →
        (settings'.map setOption).foldlM (setValue (m := m)) s = pure (s.setAll (settings.map textSetting)) := by
  refine ⟨s.resolve?_set_self, fun key other value value' h => s.set_set_of_apart h value value', ?_, ?_⟩
  · intro settings settings' h hapart
    have heq : s.setAll settings' = s.setAll settings := (setAll_eq_of_perm h hapart s).symm
    refine ⟨heq, fun key value hmem => ?_⟩
    rw [heq]
    exact resolve?_setAll hapart s hmem
  · intro settings settings' h hapart hplain
    have hplain' : ∀ x ∈ settings', '=' ∉ x.1.toList := fun x hx => hplain x (h.mem_iff.mpr hx)
    have hapart' : (settings.map textSetting).Pairwise fun x y => Apart x.1 y.1 :=
      List.pairwise_map.mpr hapart
    rw [foldlM_setValue s hplain', setAll_eq_of_perm (h.map textSetting) hapart' s]

/-- Two settings of a user, who has been a list of names. -/
theorem settings_in_any_order_user :
    let s : Store := ⟨[("user", .list [.text "Ada"])], []⟩
    let settings := [("user.name", "Ada"), ("user.age", "36")]
    Apart "user.name" "user.age" ∧ settings.Perm settings.reverse ∧
      settings.Pairwise (fun x y => Apart x.1 y.1) ∧ (∀ x ∈ settings, '=' ∉ x.1.toList) ∧
      (s.set "user.name" (.text "Ada")).resolve? ["user", "name"] = some (.text "Ada") ∧
      (s.set "user.name" (.text "Ada")).set "user.age" (.text "36") =
        (s.set "user.age" (.text "36")).set "user.name" (.text "Ada") ∧
      (settings.reverse.map setOption).foldlM (setValue (m := Id)) s =
        pure ⟨[("user", .map [("age", .text "36"), ("name", .text "Ada")])], []⟩ := by
  intro s settings
  have hname : keyPath "user.name" = ["user", "name"] := by decide +kernel
  have hage : keyPath "user.age" = ["user", "age"] := by decide +kernel
  have hapart : Apart "user.name" "user.age" := by
    rw [Apart, hname, hage]
    decide
  have hperm : settings.Perm settings.reverse := (List.reverse_perm settings).symm
  have hpairwise : settings.Pairwise fun x y => Apart x.1 y.1 := by simpa [settings] using hapart
  have hplain : ∀ x ∈ settings, '=' ∉ x.1.toList := by decide
  obtain ⟨hfound, hswap, -, hoptions⟩ := settings_in_any_order (m := Id) s
  refine ⟨hapart, hperm, hpairwise, hplain, hname ▸ hfound "user.name" _, hswap _ _ _ _ hapart, ?_⟩
  have hboth : (s.set "user.name" (.text "Ada")).set "user.age" (.text "36") =
      ⟨[("user", .map [("age", .text "36"), ("name", .text "Ada")])], []⟩ := by
    rw [Store.set, Store.set, hname, hage]
    rfl
  rw [hoptions settings _ hperm hpairwise hplain]
  exact congrArg pure hboth

end Stencil.CommandLine
