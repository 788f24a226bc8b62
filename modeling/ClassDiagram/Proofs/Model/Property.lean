import Mathlib.Data.List.Induction
import Mathlib.Data.List.Nodup
import ClassDiagram.Model.Element
import ClassDiagram.Text.Alphabetical

/-!
Properties put one after the other into a list that holds one of each name. The list has their names
in the order in which they first came (`names_insertAll`), and the property of a name combines all
that came under it (`combines_of_mem_insertAll`): the header of the first, the accessors of any, and
the first type.
-/

namespace ClassDiagram

namespace Property

variable {ρ : Type} {p q : Property ρ} {ps : List (Property ρ)}

/-- A merged property keeps the header of the first one. -/
theorem header_of_mem_insert (h : q ∈ p.insert ps) :
    q.header = p.header ∨ ∃ r ∈ ps, q.header = r.header := by
  induction ps with
  | nil =>
    rw [insert, List.mem_singleton] at h
    exact .inl (congrArg Property.header h)
  | cons r ps ih =>
    rw [insert] at h
    split at h
    · rcases List.mem_cons.mp h with rfl | h
      · exact .inr ⟨r, List.mem_cons_self, rfl⟩
      · exact .inr ⟨q, List.mem_cons_of_mem _ h, rfl⟩
    · rcases List.mem_cons.mp h with rfl | h
      · exact .inr ⟨q, List.mem_cons_self, rfl⟩
      · rcases ih h with hp | ⟨r', hr', hq⟩
        · exact .inl hp
        · exact .inr ⟨r', List.mem_cons_of_mem _ hr', hq⟩

theorem names_insert (p : Property ρ) (ps : List (Property ρ)) :
    (p.insert ps).map name
      = if p.name ∈ ps.map name then ps.map name else ps.map name ++ [p.name] := by
  induction ps with
  | nil => simp [insert]
  | cons q ps ih =>
    by_cases hq : q.name = p.name
    · have hmerge : (q.merge p).name = q.name := rfl
      simp [insert, hq, hmerge]
    · have hp : p.name ≠ q.name := fun h => hq h.symm
      by_cases hmem : p.name ∈ ps.map name <;> simp_all [insert]

theorem insert_of_not_mem (h : p.name ∉ ps.map name) : p.insert ps = ps ++ [p] := by
  induction ps with
  | nil => rfl
  | cons q ps ih =>
    rw [List.map_cons, List.mem_cons, not_or] at h
    rw [insert, if_neg (Ne.symm h.1), ih h.2, List.cons_append]

theorem insert_append {after : List (Property ρ)} (h : p.name ∉ ps.map name)
    (hq : q.name = p.name) : p.insert (ps ++ q :: after) = ps ++ q.merge p :: after := by
  induction ps with
  | nil => rw [List.nil_append, insert, if_pos hq, List.nil_append]
  | cons r ps ih =>
    rw [List.map_cons, List.mem_cons, not_or] at h
    rw [List.cons_append, insert, if_neg (Ne.symm h.1), ih h.2, List.cons_append]

theorem nodup_names_insert (h : (ps.map name).Nodup) : ((p.insert ps).map name).Nodup := by
  rw [names_insert]
  split
  · exact h
  · rename_i hnew
    rw [List.nodup_append]
    refine ⟨h, by simp, ?_⟩
    intro a ha b hb hab
    rw [List.mem_singleton.mp hb] at hab
    exact hnew (hab ▸ ha)

/-- A property is made of others: it has the header of the first, the accessors of any, and the
first type that one has. -/
structure Combines (q : Property ρ) (ps : List (Property ρ)) : Prop where
  header : ps.head?.map Property.header = some q.header
  hasGetter : q.hasGetter = ps.any Property.hasGetter
  hasSetter : q.hasSetter = ps.any Property.hasSetter
  type : q.type = ps.findSome? Property.type

theorem combines_singleton (p : Property ρ) : p.Combines [p] where
  header := rfl
  hasGetter := (Bool.or_false _).symm
  hasSetter := (Bool.or_false _).symm
  type := by cases h : p.type <;> simp [h]

theorem Combines.merge (h : q.Combines ps) (p : Property ρ) : (q.merge p).Combines (ps ++ [p]) where
  header := by
    obtain ⟨first, hfirst, -⟩ := Option.map_eq_some_iff.mp h.header
    rw [List.head?_append_of_ne_nil _ (List.ne_nil_of_mem (List.mem_of_head? hfirst))]
    exact h.header
  hasGetter := by simp [Property.merge, h.hasGetter]
  hasSetter := by simp [Property.merge, h.hasSetter]
  type := by
    rw [List.findSome?_append, ← h.type]
    cases hq : q.type <;> cases hp : p.type <;> simp [Property.merge, hq, hp]

/-- The properties of a list that holds one of each name, behind these. -/
def insertAll (ps : List (Property ρ)) : List (Property ρ) :=
  ps.foldl (fun stored p => p.insert stored) []

theorem insertAll_concat (ps : List (Property ρ)) (p : Property ρ) :
    insertAll (ps ++ [p]) = p.insert (insertAll ps) :=
  List.foldl_concat ..

theorem names_insertAll (ps : List (Property ρ)) :
    (insertAll ps).map name = (ps.map name).eraseDups := by
  induction ps using List.reverseRecOn with
  | nil => rfl
  | append_singleton ps p ih =>
    rw [insertAll_concat, names_insert, ih, List.map_append, List.map_singleton,
      Text.eraseDups_concat]
    simp only [List.mem_eraseDups]

theorem nodup_names_insertAll (ps : List (Property ρ)) : ((insertAll ps).map name).Nodup := by
  induction ps using List.reverseRecOn with
  | nil => exact List.nodup_nil
  | append_singleton ps p ih => exact insertAll_concat ps p ▸ nodup_names_insert ih

theorem mem_insert (hps : (ps.map name).Nodup) (h : q ∈ p.insert ps) :
    q ∈ ps ∧ q.name ≠ p.name ∨ (∃ r ∈ ps, r.name = p.name ∧ q = r.merge p) ∨
      q = p ∧ p.name ∉ ps.map name := by
  induction ps with
  | nil => exact .inr (.inr ⟨List.mem_singleton.mp h, List.not_mem_nil⟩)
  | cons r ps ih =>
    obtain ⟨hr, hps⟩ := List.nodup_cons.mp hps
    rw [insert] at h
    split at h
    · rename_i hname
      rcases List.mem_cons.mp h with rfl | h
      · exact .inr (.inl ⟨r, List.mem_cons_self, hname, rfl⟩)
      · have hne : q.name ≠ p.name := fun hq =>
          hr (List.mem_map.mpr ⟨q, h, hq.trans hname.symm⟩)
        exact .inl ⟨List.mem_cons_of_mem _ h, hne⟩
    · rename_i hname
      rcases List.mem_cons.mp h with rfl | h
      · exact .inl ⟨List.mem_cons_self, hname⟩
      · rcases ih hps h with ⟨hq, hne⟩ | ⟨t, ht, hq⟩ | ⟨hq, hnew⟩
        · exact .inl ⟨List.mem_cons_of_mem _ hq, hne⟩
        · exact .inr (.inl ⟨t, List.mem_cons_of_mem _ ht, hq⟩)
        · refine .inr (.inr ⟨hq, ?_⟩)
          rw [List.map_cons, List.mem_cons, not_or]
          exact ⟨Ne.symm hname, hnew⟩

/-- **Each property of the list combines all that came under its name.** -/
theorem combines_of_mem_insertAll (h : q ∈ insertAll ps) :
    q.Combines (ps.filter (·.name = q.name)) := by
  induction ps using List.reverseRecOn generalizing q with
  | nil => exact absurd h List.not_mem_nil
  | append_singleton ps p ih =>
    rw [List.filter_append, List.filter_singleton]
    rcases mem_insert (nodup_names_insertAll ps) (insertAll_concat ps p ▸ h) with
      ⟨hq, hne⟩ | ⟨r, hr, hname, rfl⟩ | ⟨rfl, hnew⟩
    · rw [decide_eq_false (Ne.symm hne), cond_false, List.append_nil]
      exact ih hq
    · have hsame : p.name = (r.merge p).name := hname.symm
      rw [decide_eq_true hsame, cond_true]
      exact (ih hr).merge p
    · rw [names_insertAll, List.mem_eraseDups] at hnew
      have hnone : ps.filter (·.name = q.name) = [] := by
        refine List.filter_eq_nil_iff.mpr fun r hr hname => hnew ?_
        exact List.mem_map.mpr ⟨r, hr, of_decide_eq_true hname⟩
      rw [hnone, decide_eq_true rfl, cond_true, List.nil_append]
      exact combines_singleton q

end Property

end ClassDiagram
