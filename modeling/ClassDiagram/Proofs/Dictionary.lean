import Mathlib.Data.List.Nodup
import ClassDiagram.Dictionary

/-!
Dictionaries as maps. With different keys, the entries are the map (`get?_eq_some_iff`), so their
order does not matter to a look-up (`get?_perm`), and setting them one by one gives them back
(`putAll_nil`). Of several settings of one key the last counts (`get?_putAll_of_last`); a key that
is there keeps its place (`put_append`).
-/

namespace ClassDiagram.Dictionary

variable {α : Type} {a b : Dictionary α}

@[simp] theorem keys_append : keys (a ++ b) = a.keys ++ b.keys := List.map_append

@[simp] theorem keys_cons (entry : String × α) : keys (entry :: a) = entry.1 :: a.keys := rfl

@[simp] theorem values_append : values (a ++ b) = a.values ++ b.values := List.map_append

@[simp] theorem values_cons (entry : String × α) : values (entry :: a) = entry.2 :: a.values := rfl

theorem mem_put {key : String} {value : α} {entry : String × α} (h : entry ∈ put key value a) :
    entry = (key, value) ∨ entry ∈ a := by
  induction a with
  | nil => exact .inl (List.mem_singleton.mp h)
  | cons first a ih =>
    rw [put] at h
    split at h
    · rename_i hfirst
      rw [hfirst, List.mem_cons] at h
      exact h.imp_right (List.mem_cons_of_mem _)
    · rcases List.mem_cons.mp h with rfl | h
      · exact .inr List.mem_cons_self
      · exact (ih h).imp_right (List.mem_cons_of_mem _)

theorem mem_putAll {pairs : List (String × α)} {entry : String × α} (h : entry ∈ a.putAll pairs) :
    entry ∈ pairs ∨ entry ∈ a := by
  induction pairs generalizing a with
  | nil => exact .inr h
  | cons pair pairs ih =>
    rcases ih h with h | h
    · exact .inl (List.mem_cons_of_mem _ h)
    · rcases mem_put h with rfl | h
      · exact .inl List.mem_cons_self
      · exact .inr h

theorem put_of_not_mem {key : String} (h : key ∉ a.keys) (value : α) :
    put key value a = a ++ [(key, value)] := by
  induction a with
  | nil => rfl
  | cons entry a ih =>
    rw [keys, List.map_cons, List.mem_cons, not_or] at h
    rw [put, if_neg (Ne.symm h.1), ih h.2, List.cons_append]

theorem not_mem_keys_iff {key : String} : key ∉ a.keys ↔ ∀ entry ∈ a, (key != entry.1) = true := by
  simp only [keys, List.mem_map, not_exists, not_and, bne_iff_ne]
  exact forall₂_congr fun _ _ => ne_comm

theorem get?_eq_none_iff {key : String} : a.get? key = none ↔ key ∉ a.keys :=
  List.lookup_eq_none_iff.trans not_mem_keys_iff.symm

/-- An entry that is found is the first one of its key. -/
theorem exists_append_of_get? {key : String} {value : α} (h : a.get? key = some value) :
    ∃ before after, a = before ++ (key, value) :: after ∧ key ∉ before.keys := by
  obtain ⟨before, after, rfl, hbefore⟩ := List.lookup_eq_some_iff.mp h
  exact ⟨before, after, rfl, not_mem_keys_iff.mpr hbefore⟩

/-- The entry of a key that is there is replaced in its place. -/
theorem put_append {key : String} (h : key ∉ a.keys) (old value : α) (after : Dictionary α) :
    put key value (a ++ (key, old) :: after) = a ++ (key, value) :: after := by
  induction a with
  | nil => rw [List.nil_append, put, if_pos rfl, List.nil_append]
  | cons entry a ih =>
    rw [keys, List.map_cons, List.mem_cons, not_or] at h
    rw [List.cons_append, put, if_neg (Ne.symm h.1), ih h.2, List.cons_append]

theorem putAll_of_nodup (h : (a ++ b).keys.Nodup) : a.putAll b = a ++ b := by
  induction b generalizing a with
  | nil => rw [putAll, List.foldl_nil, List.append_nil]
  | cons entry b ih =>
    obtain ⟨key, value⟩ := entry
    have hsplit : a ++ (key, value) :: b = a ++ [(key, value)] ++ b := by
      rw [List.append_assoc, List.singleton_append]
    have hkey : key ∉ a.keys := by
      rw [keys, List.map_append, List.map_cons, List.nodup_append] at h
      intro hmem
      exact h.2.2 key hmem key List.mem_cons_self rfl
    rw [hsplit] at h
    rw [hsplit, ← ih h, ← put_of_not_mem hkey]
    rfl

theorem putAll_nil (h : a.keys.Nodup) : putAll [] a = a := putAll_of_nodup h

theorem get?_eq_some_iff (h : a.keys.Nodup) {key : String} {value : α} :
    a.get? key = some value ↔ (key, value) ∈ a := by
  induction a with
  | nil => simp [get?]
  | cons entry a ih =>
    obtain ⟨k, v⟩ := entry
    rw [keys, List.map_cons, List.nodup_cons] at h
    rw [get?, List.lookup_cons, List.mem_cons, Prod.mk.injEq]
    by_cases hk : key = k
    · have hnone : (k, value) ∉ a := fun hmem => h.1 (List.mem_map.mpr ⟨_, hmem, rfl⟩)
      simp [hk, hnone, eq_comm]
    · have hne : (key == k) = false := by simp [hk]
      have ih := ih h.2
      rw [get?] at ih
      simpa [hne, hk] using ih

theorem get?_perm (h : a.keys.Nodup) (hp : a.Perm b) (key : String) : a.get? key = b.get? key := by
  refine Option.ext fun value => ?_
  have hb : b.keys.Nodup := (hp.map Prod.fst).nodup_iff.mp h
  rw [get?_eq_some_iff h, get?_eq_some_iff hb, hp.mem_iff]

theorem putAll_append (first more : List (String × α)) :
    a.putAll (first ++ more) = (a.putAll first).putAll more := List.foldl_append

/-- A value stays as long as its key is not set to another one. -/
theorem get?_putAll_of_get? {pairs : List (String × α)} {key : String} {value : α}
    (h : a.get? key = some value) (hpairs : ∀ v, (key, v) ∈ pairs → v = value) :
    (a.putAll pairs).get? key = some value := by
  induction pairs generalizing a with
  | nil => exact h
  | cons pair pairs ih =>
    obtain ⟨k, v⟩ := pair
    show (putAll (put k v a) pairs).get? key = some value
    refine ih ?_ fun w hw => hpairs w (List.mem_cons_of_mem _ hw)
    rw [get?_put]
    split
    · rename_i hk
      rw [hpairs v (hk ▸ List.mem_cons_self)]
    · exact h

theorem get?_putAll_congr {key : String} (h : a.get? key = b.get? key)
    (pairs : List (String × α)) : (a.putAll pairs).get? key = (b.putAll pairs).get? key := by
  induction pairs generalizing a b with
  | nil => exact h
  | cons pair pairs ih =>
    obtain ⟨k, v⟩ := pair
    show (putAll (put k v a) pairs).get? key = (putAll (put k v b) pairs).get? key
    refine ih ?_
    rw [get?_put, get?_put, h]

/-- A key that is not set keeps what it had. -/
theorem get?_putAll_of_not_mem {pairs : List (String × α)} {key : String}
    (h : ∀ v, (key, v) ∉ pairs) : (a.putAll pairs).get? key = a.get? key := by
  induction pairs generalizing a with
  | nil => rfl
  | cons pair pairs ih =>
    obtain ⟨k, v⟩ := pair
    have hkey : key ≠ k := fun hk => h v (hk ▸ List.mem_cons_self)
    show (putAll (put k v a) pairs).get? key = a.get? key
    rw [ih fun w hw => h w (List.mem_cons_of_mem _ hw), get?_put, if_neg hkey]

/-- What a key had does not count if it is set. -/
theorem get?_putAll_of_mem {pairs : List (String × α)} {key : String} {value : α}
    (h : (key, value) ∈ pairs) : (a.putAll pairs).get? key = (b.putAll pairs).get? key := by
  induction pairs generalizing a b with
  | nil => cases h
  | cons pair pairs ih =>
    obtain ⟨k, v⟩ := pair
    show (putAll (put k v a) pairs).get? key = (putAll (put k v b) pairs).get? key
    rcases List.mem_cons.mp h with hpair | h
    · obtain ⟨rfl, rfl⟩ := Prod.mk.inj hpair
      exact get?_putAll_congr (by rw [get?_put, get?_put, if_pos rfl, if_pos rfl]) pairs
    · exact ih h

/-- The last setting of a key counts. -/
theorem get?_putAll_of_last {before after : List (String × α)} {key : String} {value : α}
    (h : ∀ v, (key, v) ∈ after → v = value) :
    (a.putAll (before ++ (key, value) :: after)).get? key = some value := by
  rw [putAll_append]
  show (putAll (put key value (a.putAll before)) after).get? key = some value
  refine get?_putAll_of_get? ?_ h
  rw [get?_put, if_pos rfl]

end ClassDiagram.Dictionary
