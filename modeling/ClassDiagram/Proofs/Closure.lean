import Mathlib.Data.List.Basic
import ClassDiagram.Closure

/-!
What a closure holds. What steps keep holds of it if it holds of the start (`forall_mem_closure`).
If the steps lead to items of a list no longer than the number of rounds, the search comes to an end
by itself, so a step from an item of the closure stays in it (`mem_closure_of_next`).
-/

namespace ClassDiagram.Closure

variable {α : Type} [BEq α] [LawfulBEq α] {next : α → List α}

theorem mem_beyond {known fresh : List α} {b : α} :
    b ∈ beyond next known fresh ↔ (∃ a ∈ fresh, b ∈ next a) ∧ b ∉ known := by
  simp [beyond, List.mem_eraseDups]

/-- What steps keep holds of all that is reached. -/
theorem forall_mem_grow {p : α → Prop} (hnext : ∀ a, p a → ∀ b ∈ next a, p b) {fuel : Nat}
    {known fresh : List α} (hknown : ∀ a ∈ known, p a) (hfresh : ∀ a ∈ fresh, p a) :
    ∀ a ∈ grow next fuel known fresh, p a := by
  induction fuel generalizing known fresh with
  | zero => exact hknown
  | succ fuel ih =>
    have hmore : ∀ b ∈ beyond next known fresh, p b := by
      intro b hb
      obtain ⟨⟨a, ha, hstep⟩, -⟩ := mem_beyond.mp hb
      exact hnext a (hfresh a ha) b hstep
    unfold grow
    split
    · exact hknown
    · exact ih (List.forall_mem_append.mpr ⟨hknown, hmore⟩) hmore

theorem forall_mem_closure {p : α → Prop} (hnext : ∀ a, p a → ∀ b ∈ next a, p b) {fuel : Nat}
    {start : List α} (hstart : ∀ a ∈ start, p a) : ∀ a ∈ closure next fuel start, p a :=
  forall_mem_grow hnext hstart hstart

/-- A round that finds more leaves fewer items to be found. -/
theorem length_unknown_lt {items known more : List α} {b : α} (hb : b ∈ more) (hitem : b ∈ items)
    (hknown : b ∉ known) :
    (items.filter (!(known ++ more).contains ·)).length
      < (items.filter (!known.contains ·)).length := by
  have hsplit : items.filter (!(known ++ more).contains ·)
      = (items.filter (!known.contains ·)).filter (!more.contains ·) := by
    rw [List.filter_filter]
    exact List.filter_congr fun x _ => by simp [Bool.and_comm]
  rw [hsplit, List.length_filter_lt_length_iff_exists]
  exact ⟨b, List.mem_filter.mpr ⟨hitem, by simpa using hknown⟩, by simpa using hb⟩

/-- The invariant of the rounds: what is known and not fresh has been followed, and there are no
more rounds to come than items to be found. -/
theorem mem_grow_of_next {items : List α} (hitems : ∀ a, ∀ b ∈ next a, b ∈ items) {fuel : Nat}
    {known fresh : List α} (hfollowed : ∀ a ∈ known, a ∉ fresh → ∀ b ∈ next a, b ∈ known)
    (hfuel : (items.filter (!known.contains ·)).length ≤ fuel) {a b : α}
    (ha : a ∈ grow next fuel known fresh) (hb : b ∈ next a) : b ∈ grow next fuel known fresh := by
  induction fuel generalizing known fresh with
  | zero =>
    have hnone : items.filter (!known.contains ·) = [] := List.length_eq_zero_iff.mp (by omega)
    have hknown := List.filter_eq_nil_iff.mp hnone b (hitems a b hb)
    show b ∈ known
    simpa using hknown
  | succ fuel ih =>
    unfold grow at ha ⊢
    split
    · rename_i hbeyond
      rw [hbeyond] at ha
      by_contra hunknown
      by_cases hfresh : a ∈ fresh
      · have hmore : b ∈ beyond next known fresh := mem_beyond.mpr ⟨⟨a, hfresh, hb⟩, hunknown⟩
        rw [hbeyond] at hmore
        exact List.not_mem_nil hmore
      · exact hunknown (hfollowed a ha hfresh b hb)
    · rename_i hmore
      split at ha
      · rename_i hnil
        exact absurd hnil hmore
      refine ih ?_ ?_ ha
      · intro a ha hfresh b hb
        rcases List.mem_append.mp ha with ha | ha
        · by_cases hold : a ∈ fresh
          · by_cases hknown : b ∈ known
            · exact List.mem_append_left _ hknown
            · exact List.mem_append_right _ (mem_beyond.mpr ⟨⟨a, hold, hb⟩, hknown⟩)
          · exact List.mem_append_left _ (hfollowed a ha hold b hb)
        · exact absurd ha hfresh
      · obtain ⟨x, hx⟩ := List.exists_mem_of_ne_nil _ hmore
        obtain ⟨⟨y, -, hstep⟩, hunknown⟩ := mem_beyond.mp hx
        have hless := length_unknown_lt hx (hitems y x hstep) hunknown
        omega

/-- **A closure is closed.** -/
theorem mem_closure_of_next {items : List α} (hitems : ∀ a, ∀ b ∈ next a, b ∈ items) {fuel : Nat}
    (hfuel : items.length ≤ fuel) {start : List α} {a b : α} (ha : a ∈ closure next fuel start)
    (hb : b ∈ next a) : b ∈ closure next fuel start := by
  refine mem_grow_of_next hitems (fun a ha hfresh => absurd ha hfresh) ?_ ha hb
  exact Nat.le_trans (List.length_filter_le _ _) hfuel

end ClassDiagram.Closure
