/-!
What can be reached from some items in steps. Each round follows the items found in the one before,
so the number of items that there are bounds the rounds (`closure`).
-/

namespace ClassDiagram.Closure

variable {α : Type} [BEq α]

/-- The items one step from these that are not known yet, each once. -/
def beyond (next : α → List α) (known fresh : List α) : List α :=
  ((fresh.flatMap next).filter (!known.contains ·)).eraseDups

/-- The known items and what is reached from the fresh ones in at most `fuel` rounds. -/
def grow (next : α → List α) : Nat → List α → List α → List α
  | 0, known, _ => known
  | fuel + 1, known, fresh =>
    match beyond next known fresh with
    | [] => known
    | more => grow next fuel (known ++ more) more

/-- The items reached from the start in at most `fuel` rounds. -/
def closure (next : α → List α) (fuel : Nat) (start : List α) : List α :=
  grow next fuel start start

theorem mem_grow (next : α → List α) (fuel : Nat) {known fresh : List α} {a : α}
    (h : a ∈ known) : a ∈ grow next fuel known fresh := by
  induction fuel generalizing known fresh with
  | zero => exact h
  | succ fuel ih =>
    unfold grow
    split
    · exact h
    · exact ih (List.mem_append_left _ h)

end ClassDiagram.Closure
