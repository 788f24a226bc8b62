/-!
Texts in the order of their code points. Sorting is stable (`filter_sortBy`), and where no two items
have the same key, each has a smaller one than those behind it (`pairwise_lt_sortBy`).
`alphabetical` sorts and keeps one of each text; `mem_alphabetical` says that it loses none,
`nodup_alphabetical` that it repeats none.
-/

namespace ClassDiagram.Text

/-- Sorts by a key, and keeps the order of what has the same key. -/
def sortBy {α : Type} (key : α → String) (items : List α) : List α :=
  items.mergeSort fun a b => decide (key a ≤ key b)

def alphabetical (texts : List String) : List String := sortBy id texts.eraseDups

theorem sortBy_perm {α : Type} (key : α → String) (items : List α) :
    (sortBy key items).Perm items :=
  List.mergeSort_perm ..

theorem mem_sortBy {α : Type} {key : α → String} {items : List α} {a : α} :
    a ∈ sortBy key items ↔ a ∈ items :=
  (sortBy_perm key items).mem_iff

theorem atMost_trans {α : Type} (key : α → String) (a b c : α)
    (hab : decide (key a ≤ key b) = true) (hbc : decide (key b ≤ key c) = true) :
    decide (key a ≤ key c) = true :=
  decide_eq_true (String.le_trans (of_decide_eq_true hab) (of_decide_eq_true hbc))

theorem atMost_total {α : Type} (key : α → String) (a b : α) :
    (decide (key a ≤ key b) || decide (key b ≤ key a)) = true := by
  simpa using String.le_total (key a) (key b)

/-- It does not matter whether items are changed before sorting or behind it. -/
theorem sortBy_map {α β : Type} (key : β → String) (f : α → β) (items : List α) :
    sortBy key (items.map f) = (sortBy (fun a => key (f a)) items).map f :=
  (List.map_mergeSort (f := f) fun _ _ _ _ => rfl).symm

theorem pairwise_sortBy {α : Type} (key : α → String) (items : List α) :
    (sortBy key items).Pairwise fun a b => key a ≤ key b := by
  have hsorted := List.pairwise_mergeSort (atMost_trans key) (atMost_total key) items
  exact hsorted.imp of_decide_eq_true

theorem pairwise_lt_sortBy {α : Type} {key : α → String} {items : List α}
    (h : (items.map key).Nodup) : (sortBy key items).Pairwise fun a b => key a < key b := by
  have hnodup : ((sortBy key items).map key).Nodup :=
    ((sortBy_perm key items).map key).nodup_iff.mpr h
  have hdiffer := List.pairwise_map.mp hnodup
  apply ((pairwise_sortBy key items).and hdiffer).imp
  intro a b hab
  exact Std.lt_of_le_of_ne hab.1 hab.2

/-- Items of one key keep their order. -/
theorem filter_sortBy {α : Type} (key : α → String) (items : List α) (k : String) :
    (sortBy key items).filter (key · = k) = items.filter (key · = k) := by
  have hsame : (items.filter (key · = k)).Pairwise fun a b => decide (key a ≤ key b) = true := by
    refine List.pairwise_iff_forall_sublist.mpr fun {a b} hpair => ?_
    have hkey : ∀ c ∈ [a, b], key c = k := fun c hc =>
      of_decide_eq_true (List.mem_filter.mp (hpair.subset hc)).2
    rw [hkey a (by simp), hkey b (by simp)]
    exact decide_eq_true (String.le_refl k)
  have hsub : (items.filter (key · = k)).Sublist (sortBy key items) :=
    List.sublist_mergeSort (atMost_trans key) (atMost_total key) hsame List.filter_sublist
  have hfilter := hsub.filter (key · = k)
  rw [List.filter_filter] at hfilter
  simp only [Bool.and_self] at hfilter
  exact (hfilter.eq_of_length ((sortBy_perm key items).filter _).length_eq.symm).symm

theorem mem_alphabetical {texts : List String} {t : String} :
    t ∈ alphabetical texts ↔ t ∈ texts := by
  simp [alphabetical, mem_sortBy, List.mem_eraseDups]

theorem nodup_eraseDups {α : Type} [BEq α] [LawfulBEq α] (items : List α) :
    items.eraseDups.Nodup := by
  match items with
  | [] => simp
  | a :: items =>
    have : (items.filter fun b => !b == a).length < items.length + 1 :=
      Nat.lt_succ_of_le (List.length_filter_le _ _)
    rw [List.eraseDups_cons, List.nodup_cons]
    refine ⟨?_, nodup_eraseDups _⟩
    simp [List.mem_eraseDups]
termination_by items.length

theorem eraseDups_concat {α : Type} [BEq α] [LawfulBEq α] (items : List α) (a : α) :
    (items ++ [a]).eraseDups = if a ∈ items then items.eraseDups else items.eraseDups ++ [a] := by
  rw [List.eraseDups_append]
  by_cases h : a ∈ items <;> simp [List.removeAll, List.eraseDups_cons, h]

theorem nodup_alphabetical (texts : List String) : (alphabetical texts).Nodup :=
  (sortBy_perm id _).nodup_iff.mpr (nodup_eraseDups texts)

theorem pairwise_alphabetical (texts : List String) : (alphabetical texts).Pairwise (· < ·) := by
  have hnodup : (texts.eraseDups.map id).Nodup := by simpa using nodup_eraseDups texts
  exact pairwise_lt_sortBy hnodup

end ClassDiagram.Text
