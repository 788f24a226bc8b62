import ClassDiagram.Proofs.Arena.WellFormed
import ClassDiagram.Proofs.Closure

/-!
Which cells are alive. A cell is held if a handle leads to it, or a cell that is held has it in a
collection; in a well-formed arena just these are alive (`isAlive_iff_held`). A new cell holds
nothing and is not held, so making one changes nothing for the others (`held_allocate`).
-/

namespace ClassDiagram.Arena

variable {a b : Arena} {r s : Ref} {c : Cell}

/-- What handles lead to through collections. -/
inductive Held (a : Arena) : Ref → Prop
  | handle {r : Ref} (h : r ∈ a.handles.values) : Held a r
  | child {r s : Ref} {c : Cell} (hr : Held a r) (hc : a.read? r = some c) (hs : s ∈ c.children) :
      Held a s

theorem mem_childrenAt : s ∈ a.childrenAt r ↔ ∃ c, a.read? r = some c ∧ s ∈ c.children := by
  unfold childrenAt
  cases a.read? r <;> simp

theorem Held.lt (ha : a.WellFormed) (h : a.Held r) : r < a.cells.length := by
  cases h with
  | handle h => exact ha.handles r h
  | child hr hc hs => exact (ha.cells _ _ hc).children r hs

theorem isAlive_iff_held (ha : a.WellFormed) : a.isAlive r = true ↔ a.Held r := by
  rw [isAlive, List.contains_iff_mem, alive]
  constructor
  · intro h
    refine Closure.forall_mem_closure (p := a.Held) ?_ ?_ r h
    · intro s hs t ht
      obtain ⟨c, hc, ht⟩ := mem_childrenAt.mp ht
      exact hs.child hc ht
    · intro s hs
      exact .handle (List.mem_eraseDups.mp hs)
  · intro h
    have hitems : ∀ r, ∀ s ∈ a.childrenAt r, s ∈ List.range a.cells.length := by
      intro r s hs
      obtain ⟨c, hc, hs⟩ := mem_childrenAt.mp hs
      exact List.mem_range.mpr ((ha.cells r c hc).children s hs)
    induction h with
    | handle h => exact Closure.mem_grow _ _ (List.mem_eraseDups.mpr h)
    | child hr hc hs ih =>
      exact Closure.mem_closure_of_next hitems (Nat.le_of_eq List.length_range) ih
        (mem_childrenAt.mpr ⟨_, hc, hs⟩)

theorem held_allocate (ha : a.WellFormed) : (a.allocate c).1.Held r ↔ a.Held r := by
  constructor
  · intro h
    induction h with
    | handle h => exact .handle h
    | child hr hc hs ih =>
      obtain ⟨d, hd⟩ := exists_read? (ih.lt ha)
      obtain rfl := Option.some.inj (hc.symm.trans (read?_allocate hd))
      exact ih.child hd hs
  · intro h
    induction h with
    | handle h => exact .handle h
    | child hr hc hs ih => exact ih.child (read?_allocate hc) hs

end ClassDiagram.Arena
