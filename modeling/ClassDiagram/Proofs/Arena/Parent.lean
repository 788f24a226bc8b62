import ClassDiagram.Proofs.Arena.Making

/-!
Parents in the course of steps. An element reads the parent that it was made with as long as that is
held, and no step makes an element held again that was not. Containers that contain each other hold
each other no longer than a handle leads to one of them.

* `held_of_held_step`: what is held behind a step was held before it, or is new;
* `held_of_held_behind`: what is not held is never held again;
* `parent?_eq_some_iff`: a parent is read just as long as it is held;
* `dead_parent_stays_dead`: a parent that is not read any more is never read again.
-/

namespace ClassDiagram.Arena

variable {a b x : Arena} {r s : Ref} {c d : Cell}

/-! ## Holding -/

/-- An element is held, or is not there yet. -/
def HeldOrNew (a : Arena) (r : Ref) : Prop := a.Held r ∨ a.read? r = none

theorem Held.of_get? {id : String} (h : a.handles.get? id = some r) : a.Held r := by
  obtain ⟨before, after, hsplit, -⟩ := Dictionary.exists_append_of_get? h
  exact .handle (hsplit ▸ by simp)

/-- Handles and collections that lead to nothing else make nothing else held. -/
theorem heldOrNew_of_held (hhandles : ∀ r ∈ b.handles.values, a.HeldOrNew r)
    (hcells : ∀ r c, a.HeldOrNew r → b.read? r = some c → ∀ s ∈ c.children, a.HeldOrNew s)
    (h : b.Held r) : a.HeldOrNew r := by
  induction h with
  | handle h => exact hhandles _ h
  | child hr hc hs ih => exact hcells _ _ ih hc _ hs

theorem Built.heldOrNew (ha : a.WellFormed) (h : Built a x) {id : String} (hr : a.HeldOrNew r)
    (hs : (x.bind id r).Held s) : a.HeldOrNew s := by
  refine heldOrNew_of_held ?handles ?cells hs
  case handles =>
    intro t ht
    obtain ⟨entry, hentry, rfl⟩ := List.mem_map.mp ht
    rcases Dictionary.mem_put hentry with rfl | hentry
    · exact hr
    · rw [h.handles] at hentry
      exact .inl (.handle (List.mem_map.mpr ⟨entry, hentry, rfl⟩))
  case cells =>
    intro t c ht hc u hu
    rcases ht with ht | ht
    · obtain ⟨d, hd⟩ := exists_read? (ht.lt ha)
      cases (h.kept t d hd).symm.trans hc
      exact .inl (ht.child hd hu)
    · have hlt := h.children t c (le_of_read?_eq_none ht) hc u hu
      exact .inr (read?_eq_none (Nat.le_of_lt hlt))

/-- **What is held behind a step was held before it, or is new.** -/
theorem held_of_held_step (ha : a.WellFormed) (s : Step) (h : (a.step s).1.Held r) :
    a.HeldOrNew r := by
  have hperformed := performed_step a s
  generalize (a.step s).1 = b at h hperformed
  cases hperformed with
  | created hplace hx =>
    obtain ⟨hbuilt, rfl⟩ := built_of_build ha (lt_of_place ha hplace) hx
    exact hbuilt.heldOrNew ha (.inr (read?_eq_none (Nat.le_refl _))) h
  | @attached name other p q b hp hq hb =>
    obtain ⟨holder, held, new, hholder, -, hnew⟩ :=
      oneMore_of_attach ha (lt_of_get? ha hp) (lt_of_get? ha hq) hb
    exact hnew.held_of_held ha hholder (Held.of_get? hq) h
  | @merged id name other p c q hp hc hheader =>
    have hbuilt : Built a (a.allocate (.ofProperty q)).1 :=
      (Built.refl a).allocate rfl fun hlt => absurd hlt (Nat.lt_irrefl _)
    exact hbuilt.heldOrNew ha (.inr (read?_eq_none (Nat.le_refl _))) h
  | @set id field value p c d hc hkind hheader hentries hchildren =>
    refine heldOrNew_of_held (b := a.write p d) (fun t ht => .inl (.handle ht)) ?_ h
    intro t e ht he u hu
    rcases ht with ht | ht
    · by_cases hp : t = p
      · subst hp
        cases (read?_write (lt_of_read? hc)).symm.trans he
        exact .inl (ht.child hc (hchildren ▸ hu))
      · exact .inl (ht.child ((read?_write_of_ne hp).symm.trans he) hu)
    · have hp : t ≠ p := by
        rintro rfl
        cases hc.symm.trans ht
      cases ((read?_write_of_ne hp).symm.trans he).symm.trans ht
  | picked hp hc hr =>
    exact (Built.refl a).heldOrNew ha (.inl ((Held.of_get? hp).child hc hr)) h
  | @dropped id =>
    refine heldOrNew_of_held ?_ ?_ h
    · intro t ht
      obtain ⟨entry, hentry, rfl⟩ := List.mem_map.mp ht
      exact .inl (.handle (List.mem_map.mpr ⟨entry, List.mem_of_mem_filter hentry, rfl⟩))
    · intro t e ht he u hu
      rcases ht with ht | ht
      · exact .inl (ht.child he hu)
      · cases he.symm.trans ht
  | same => exact .inl h

/-- **What is not held is never held again.** -/
theorem held_of_held_behind (ha : a.WellFormed) (steps : List Step) (hr : r < a.cells.length)
    (h : (a.behind steps).Held r) : a.Held r := by
  induction steps generalizing a with
  | nil => exact h
  | cons s steps ih =>
    obtain ⟨hb, hkeeps⟩ := wellFormed_step ha s
    have hstep := ih hb (hkeeps.lt hr) h
    refine (held_of_held_step ha s hstep).resolve_right fun hnone => ?_
    exact absurd (le_of_read?_eq_none hnone) (Nat.not_le_of_lt hr)

/-! ## Reading parents -/

/-- **A parent is read as long as it is held.** -/
theorem parent?_eq_some_iff (ha : a.WellFormed) :
    a.parent? c = some s ↔ c.header.parent = some s ∧ a.Held s := by
  rw [parent?, Option.filter_eq_some_iff, isAlive_iff_held ha]

theorem parent?_eq_none_behind (ha : a.WellFormed) (steps : List Step) (hc : a.read? r = some c)
    (hheader : d.header.parent = c.header.parent) (hnone : a.parent? c = none) :
    (a.behind steps).parent? d = none := by
  have hb := (wellFormed_behind ha steps).1
  rw [Option.eq_none_iff_forall_ne_some]
  intro p hp
  obtain ⟨hparent, hheld⟩ := (parent?_eq_some_iff hb).mp hp
  rw [hheader] at hparent
  have hbefore := held_of_held_behind ha steps ((ha.cells r c hc).parent p hparent) hheld
  have hsome := (parent?_eq_some_iff ha).mpr ⟨hparent, hbefore⟩
  cases hnone.symm.trans hsome

theorem parentName?_alive (a : Arena) (c : Cell) :
    a.parentName? a.alive c = ((a.parent? c).bind a.read?).map (·.header.name) := by
  unfold parentName? parent? isAlive
  cases c.header.parent.filter a.alive.contains with
  | none => rfl
  | some p => cases h : a.read? p <;> simp [h]

theorem step_display {id : String} (hid : a.handles.get? id = some r) (hc : a.read? r = some c) :
    ∃ e, a.step (.display id) = (a, .ok (.element e)) ∧
      e.header.parent = ((a.parent? c).bind a.read?).map (·.header.name) := by
  obtain ⟨e, he, hheader⟩ := header_element? hc
  have hperform : a.perform (.display id) = .ok (a, .element e) := by
    simp [perform, reply, elementAt, lookUp, hid, he, Bind.bind, Except.bind, Pure.pure,
      Except.pure]
  refine ⟨e, by rw [step, hperform], ?_⟩
  rw [hheader, headerTree, parentName?_alive]

/-- **A parent that is not read any more is never read again.** An element is made with a parent,
reads it just as long as it is held, and so after any steps. -/
theorem dead_parent_stays_dead {steps : List Step} {a : Arena} (hrun : behind {} steps = a) :
    (∀ s r c, a.read? r = none → (a.step s).1.read? r = some c →
      MadeWith a (a.step s).1 r s c.header.parent) ∧
    ∀ r c, a.read? r = some c →
      (∀ p, a.parent? c = some p ↔ c.header.parent = some p ∧ a.Held p) ∧
      (∀ x, a.handles.get? x = some r → ∃ e, a.step (.display x) = (a, .ok (.element e)) ∧
        e.header.parent = ((a.parent? c).bind a.read?).map (·.header.name)) ∧
      ∀ more, ∃ d, (a.behind more).read? r = some d ∧ d.header.parent = c.header.parent ∧
        (a.parent? c = none → (a.behind more).parent? d = none) := by
  have ha : a.WellFormed := hrun ▸ (wellFormed_behind wellFormed_empty steps).1
  refine ⟨fun s r c => madeWith_of_step ha s, fun r c hc => ⟨?reads, ?shows, ?later⟩⟩
  case reads => exact fun p => parent?_eq_some_iff ha
  case shows => exact fun x hx => step_display hx hc
  case later =>
    intro more
    obtain ⟨d, hd, -, hheader⟩ := (wellFormed_behind ha more).2 r c hc
    exact ⟨d, hd, congrArg Header.parent hheader,
      parent?_eq_none_behind ha more hc (congrArg Header.parent hheader)⟩

/-- A property that was made as a part of a class that is gone. -/
def shelf : List Step := [
  .create "shelf" none { kind := .classKind, name := "Shelf" },
  .create "book" (some "shelf") { kind := .propertyKind, name := "book", hasGetter := true },
  .drop "shelf"]

/-- That property, with its parent. -/
def book : Cell :=
  .ofProperty { header := ⟨"book", some 0, .pub, .perInstance⟩, hasGetter := true }

/-- Another class of that name takes the property, of which there is a copy then. -/
def refill : List Step := [
  .create "shelf" none { kind := .classKind, name := "Shelf" },
  .attach "shelf" "book",
  .merge "book" "book" "book"]

theorem dead_parent_stays_dead_shelf :
    ∃ a, behind {} shelf = a ∧ a.read? 1 = some book ∧ a.parent? book = none ∧ ¬ a.Held 0 ∧
      (∃ e, a.step (.display "book") = (a, .ok (.element e)) ∧ e.header.parent = none) ∧
      MadeWith a (a.step (.merge "copy" "book" "book")).1 2 (.merge "copy" "book" "book")
        (some 0) ∧
      ∃ d, (a.behind refill).read? 1 = some d ∧ (a.behind refill).parent? d = none := by
  have hbook : (behind {} shelf).read? 1 = some book := by decide
  have hcopy : ((behind {} shelf).step (.merge "copy" "book" "book")).1.read? 2 = some book := by
    decide
  have hnone : (behind {} shelf).parent? book = none := by decide
  obtain ⟨hmade, hreads⟩ := dead_parent_stays_dead (rfl : behind {} shelf = behind {} shelf)
  obtain ⟨hparent, hshown, hlater⟩ := hreads 1 book hbook
  refine ⟨_, rfl, hbook, hnone, ?_, ?_, hmade _ 2 book (by decide) hcopy, ?_⟩
  · intro hheld
    cases hnone.symm.trans ((hparent 0).mpr ⟨rfl, hheld⟩)
  · obtain ⟨e, he, hname⟩ := hshown "book" (by decide)
    exact ⟨e, he, hname.trans (by rw [hnone]; rfl)⟩
  · obtain ⟨d, hd, -, hstays⟩ := hlater refill
    exact ⟨d, hd, hstays hnone⟩

end ClassDiagram.Arena
