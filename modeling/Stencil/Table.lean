/-!
# Tables

Texts with values, kept in the order of the keys. Main statements: what is inserted is found, and nothing
else changes; entries with different keys can be inserted in either order.
-/
namespace Stencil

abbrev Table (α : Type) := List (String × α)

namespace Table

variable {α : Type}

def get? (key : String) : Table α → Option α
  | [] => none
  | (k, v) :: rest => if k = key then some v else get? key rest

def insert (key : String) (value : α) : Table α → Table α
  | [] => [(key, value)]
  | (k, v) :: rest =>
    if k = key then (key, value) :: rest
    else if key < k then (key, value) :: (k, v) :: rest
    else (k, v) :: insert key value rest

/-- The table of some entries; of two with one key the later counts. -/
def ofEntries (entries : List (String × α)) : Table α :=
  entries.foldl (fun t (k, v) => insert k v t) []

theorem get?_insert_self (key : String) (value : α) (t : Table α) :
    get? key (insert key value t) = some value := by
  induction t with
  | nil => simp [insert, get?]
  | cons entry rest ih =>
    obtain ⟨k, v⟩ := entry
    by_cases h : k = key
    · simp [insert, get?, h]
    · by_cases hlt : key < k
      · simp [insert, get?, h, hlt]
      · simp [insert, get?, h, hlt, ih]

theorem get?_insert_of_ne {key other : String} (h : other ≠ key) (value : α) (t : Table α) :
    get? other (insert key value t) = get? other t := by
  induction t with
  | nil => simp [insert, get?, Ne.symm h]
  | cons entry rest ih =>
    obtain ⟨k, v⟩ := entry
    by_cases hk : k = key
    · simp [insert, get?, hk, Ne.symm h]
    · by_cases hlt : key < k
      · simp [insert, get?, hk, hlt, Ne.symm h]
      · simp [insert, get?, hk, hlt, ih]

theorem insert_insert (key : String) (value value' : α) (t : Table α) :
    insert key value (insert key value' t) = insert key value t := by
  induction t with
  | nil => simp [insert]
  | cons entry rest ih =>
    obtain ⟨k, v⟩ := entry
    by_cases h : k = key
    · simp [insert, h]
    · by_cases hlt : key < k
      · simp [insert, h, hlt]
      · simp [insert, h, hlt, ih]

theorem insert_comm_of_lt {key other : String} (h : key < other) (value value' : α) (t : Table α) :
    insert key value (insert other value' t) = insert other value' (insert key value t) := by
  have hne : key ≠ other := String.ne_of_lt h
  have hnot : ¬other < key := String.lt_asymm h
  induction t with
  | nil => simp [insert, h, hne, hne.symm, hnot]
  | cons entry rest ih =>
    obtain ⟨k, v⟩ := entry
    by_cases hother : k = other
    · subst hother
      simp [insert, h, hne, hne.symm, hnot]
    · by_cases hlt : other < k
      · have hkey : key < k := String.lt_trans h hlt
        have hkne : k ≠ key := (String.ne_of_lt hkey).symm
        simp [insert, h, hne, hne.symm, hnot, hother, hlt, hkey, hkne]
      · by_cases hkey : k = key
        · simp [insert, hkey, hne, hnot]
        · by_cases hkey' : key < k
          · simp [insert, hne, hnot, hother, hlt, hkey, hkey']
          · simp [insert, hother, hlt, hkey, hkey', ih]

theorem insert_comm {key other : String} (h : key ≠ other) (value value' : α) (t : Table α) :
    insert key value (insert other value' t) = insert other value' (insert key value t) := by
  by_cases hlt : key < other
  · exact insert_comm_of_lt hlt value value' t
  · have hle : other ≤ key := String.not_lt.mp hlt
    have hlt' : other < key := Std.lt_of_le_of_ne hle h.symm
    exact (insert_comm_of_lt hlt' value' value t).symm

end Table

end Stencil
