import ClassDiagram.Text.Parts

/-!
The segments of dotted names. They hold no points (`point_not_mem_segments`), so joining names with
a point appends their segments (`segments_append`), segments without points come back from their
join (`segments_join`), and so do both sides from parting off a last segment (`splitLast_append`).
-/

namespace ClassDiagram.Text.Dotted

theorem separator_not_mem_splitOn {α : Type} [BEq α] [LawfulBEq α] {separator : α}
    {xs part : List α} (h : part ∈ xs.splitOn separator) : separator ∉ part := by
  induction xs generalizing part with
  | nil =>
    rw [List.splitOn_nil, List.mem_singleton] at h
    rw [h]
    exact List.not_mem_nil
  | cons x xs ih =>
    rw [List.splitOn_cons_eq_if_modifyHead] at h
    split at h
    · rcases List.mem_cons.mp h with rfl | h
      · exact List.not_mem_nil
      · exact ih h
    · rename_i hx
      obtain ⟨first, rest, hsplit⟩ :=
        List.exists_cons_of_ne_nil (List.splitOn_ne_nil separator xs)
      rw [hsplit, List.modifyHead_cons, List.mem_cons] at h
      rcases h with rfl | h
      · rw [List.mem_cons, not_or]
        refine ⟨fun he => hx (beq_iff_eq.mpr he.symm), ih ?_⟩
        rw [hsplit]
        exact List.mem_cons_self
      · refine ih ?_
        rw [hsplit]
        exact List.mem_cons_of_mem _ h

/-- Joined with a separator that none of them holds, parts come apart again. -/
theorem splitOn_toList_intercalate {separator : Char} {text : String}
    (htext : text.toList = [separator]) {parts : List String} (hne : parts ≠ [])
    (h : ∀ p ∈ parts, separator ∉ p.toList) :
    ((text.intercalate parts).toList.splitOn separator).map String.ofList = parts := by
  have hlists : ∀ cs ∈ parts.map String.toList, separator ∉ cs := by
    intro cs hcs
    obtain ⟨p, hp, rfl⟩ := List.mem_map.mp hcs
    exact h p hp
  have hback : String.ofList ∘ String.toList = id := funext fun _ => String.ofList_toList
  rw [String.toList_intercalate, htext,
    List.splitOn_intercalate separator hlists (mt List.map_eq_nil_iff.mp hne), List.map_map, hback,
    List.map_id]

theorem point_not_mem_segments {name s : String} (h : s ∈ segments name) : '.' ∉ s.toList := by
  obtain ⟨part, hpart, rfl⟩ := List.mem_map.mp h
  rw [String.toList_ofList]
  exact separator_not_mem_splitOn hpart

theorem segments_ne_nil (name : String) : segments name ≠ [] := by
  simp [segments]

theorem segments_of_not_mem {name : String} (h : '.' ∉ name.toList) : segments name = [name] := by
  rw [segments, List.splitOn_eq_singleton h, List.map_singleton, String.ofList_toList]

theorem segments_append (scope name : String) :
    segments (scope ++ "." ++ name) = segments scope ++ segments name := by
  have hpoint : (scope ++ "." ++ name).toList = scope.toList ++ '.' :: name.toList := by
    rw [String.toList_append, String.toList_append, List.append_assoc]
    rfl
  rw [segments, hpoint, List.splitOn_append_cons_self, List.map_append]
  rfl

theorem segments_join {parts : List String} (hne : parts ≠ [])
    (h : ∀ p ∈ parts, '.' ∉ p.toList) : segments (join parts) = parts :=
  splitOn_toList_intercalate rfl hne h

theorem join_singleton (s : String) : join [s] = s := String.intercalate_singleton ..

theorem join_append {first rest : List String} (hfirst : first ≠ []) (hrest : rest ≠ []) :
    join (first ++ rest) = join first ++ "." ++ join rest := by
  simp only [join]
  induction first with
  | nil => exact absurd rfl hfirst
  | cons s first ih =>
    rw [List.cons_append]
    by_cases hnil : first = []
    · rw [hnil, List.nil_append, String.intercalate_cons_of_ne_nil hrest,
        String.intercalate_singleton]
    · rw [String.intercalate_cons_of_ne_nil (List.append_ne_nil_of_left_ne_nil hnil rest), ih hnil,
        String.intercalate_cons_of_ne_nil hnil]
      simp only [String.append_assoc]

/-- It does not matter whether segments are joined one by one or with others. -/
theorem join_concat_join (first : List String) {rest : List String} (hrest : rest ≠ []) :
    join (first ++ [join rest]) = join (first ++ rest) := by
  by_cases hfirst : first = []
  · rw [hfirst]
    rfl
  · rw [join_append hfirst hrest, join_append hfirst (List.cons_ne_nil _ [])]
    rfl

theorem join_ne_empty {parts : List String} (hne : parts ≠ []) (h : "" ∉ parts) :
    join parts ≠ "" := by
  obtain ⟨s, rest, rfl⟩ := List.exists_cons_of_ne_nil hne
  have hs : s ≠ "" := fun hs => h (hs ▸ List.mem_cons_self)
  by_cases hrest : rest = []
  · rw [hrest]
    simpa [join] using hs
  · rw [join, String.intercalate_cons_of_ne_nil hrest]
    simp

/-- More segments behind a name leave none that is empty. -/
theorem join_append_ne_empty {first : List String} (hne : first ≠ []) (h : join first ≠ "")
    (rest : List String) : join (first ++ rest) ≠ "" := by
  by_cases hrest : rest = []
  · rwa [hrest, List.append_nil]
  · rw [join_append hne hrest]
    simp

theorem segments_eq_cons (name : String) : ∃ rest, segments name = head name :: rest := by
  obtain ⟨first, rest, h⟩ := List.exists_cons_of_ne_nil (segments_ne_nil name)
  exact ⟨rest, by rw [head, h, List.headD_cons]⟩

theorem segments_head (name : String) : segments (head name) = [head name] := by
  obtain ⟨rest, h⟩ := segments_eq_cons name
  have hhead : head name ∈ segments name := h ▸ List.mem_cons_self
  exact segments_of_not_mem (point_not_mem_segments hhead)

theorem splitLast_append {name : String} (h : '.' ∉ name.toList) (scope : String) :
    splitLast (scope ++ "." ++ name) = (scope, name) := by
  rw [splitLast, segments_append, segments_of_not_mem h, List.dropLast_concat, join_segments]
  simp

end ClassDiagram.Text.Dotted
