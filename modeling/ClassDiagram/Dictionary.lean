/-!
Dictionaries that keep the order in which their keys came. Setting a key that is there keeps its
place; `get?_put` says what a look-up sees, `keys_put` where a key ends up.
-/

namespace ClassDiagram

/-- Keys and values in the order of the keys' first setting. -/
abbrev Dictionary (α : Type) := List (String × α)

namespace Dictionary

variable {α : Type}

def put (key : String) (value : α) : Dictionary α → Dictionary α
  | [] => [(key, value)]
  | (k, v) :: entries => if k = key then (k, value) :: entries else (k, v) :: put key value entries

def get? (entries : Dictionary α) (key : String) : Option α := List.lookup key entries

def keys (entries : Dictionary α) : List String := entries.map Prod.fst

def values (entries : Dictionary α) : List α := entries.map Prod.snd

def putAll (entries : Dictionary α) (pairs : List (String × α)) : Dictionary α :=
  pairs.foldl (fun d (k, v) => d.put k v) entries

theorem get?_put (entries : Dictionary α) (key k : String) (value : α) :
    (put key value entries).get? k = if k = key then some value else entries.get? k := by
  induction entries with
  | nil => by_cases h : k = key <;> simp [put, get?, h]
  | cons entry entries ih =>
    obtain ⟨a, v⟩ := entry
    by_cases ha : a = key
    · by_cases h : k = a
      · simp [put, get?, ← ha, h]
      · have hk : (k == a) = false := by simp [h]
        simp [put, get?, ← ha, List.lookup_cons, h, hk]
    · by_cases h : k = a
      · simp [put, get?, ha, h]
      · have hk : (k == a) = false := by simp [h]
        simp only [get?] at ih
        simp [put, get?, ha, List.lookup_cons, hk, ih]

theorem keys_put (entries : Dictionary α) (key : String) (value : α) :
    (put key value entries).keys = if key ∈ entries.keys then entries.keys
      else entries.keys ++ [key] := by
  induction entries with
  | nil => simp [put, keys]
  | cons entry entries ih =>
    obtain ⟨a, v⟩ := entry
    by_cases ha : a = key
    · simp [put, keys, ha]
    · have hk : ¬ key = a := fun h => ha h.symm
      simp only [keys] at ih
      by_cases hm : key ∈ entries.map Prod.fst <;> simp_all [put, keys]

end Dictionary

end ClassDiagram
