import ClassDiagram.Proofs.Arena.Attach

/-!
What steps make. The elements of an outline refer to each other only, but for the parent of the
first one; a merged property has the header of a property that was there.

* `Built`: an arena with the elements of an outline;
* `MadeWith`: where the parent of a new element comes from;
* `madeWith_of_step`: the elements that are new behind a step were made with a parent so.
-/

namespace ClassDiagram

theorem Cell.header_emptied (c : Cell) : c.emptied.header = c.header := by
  cases c <;> rfl

namespace Arena

variable {a b o x : Arena} {parent child r s : Ref} {holder held new c d : Cell}

/-! ## Attaching -/

theorem oneMore_of_attach (ha : a.WellFormed) (hparent : parent < a.cells.length)
    (hchild : child < a.cells.length) (hb : a.attach parent child = .ok b) :
    ∃ holder held new, a.read? parent = some holder ∧ a.read? child = some held ∧
      OneMore a b parent child holder held new := by
  obtain ⟨holder, hholder⟩ := exists_read? hparent
  obtain ⟨held, hheld⟩ := exists_read? hchild
  rcases attach_outcome hholder hheld (ha.cells _ _ hholder).property with
    ⟨-, he⟩ | ⟨-, b', hok, hattached⟩
  · cases he.symm.trans hb
  · cases hok.symm.trans hb
    obtain ⟨new, hnew⟩ := hattached.oneMore ha hholder hheld
    exact ⟨holder, held, new, hholder, hheld, hnew⟩

theorem OneMore.header (h : OneMore a b parent child holder held new) :
    new.header = holder.header := by
  rw [← Cell.header_emptied new, h.emptied, Cell.header_emptied]

theorem OneMore.mem_children (h : OneMore a b parent child holder held new)
    (hs : s ∈ new.children) : s ∈ holder.children ∨ s = child ∨ a.read? s = none := by
  obtain ⟨k, hs⟩ := Cell.mem_children_iff.mp hs
  by_cases hk : k = held.kind
  · subst hk
    exact (h.joined.mem_new hs).imp_left fun hs => Cell.mem_children_iff.mpr ⟨_, hs⟩
  · exact .inl (Cell.mem_children_iff.mpr ⟨k, h.kept k hk ▸ hs⟩)

/-- What is behind an addition is the changed parent, an element from before, or new. -/
theorem OneMore.of_read? (h : OneMore a b parent child holder held new)
    (hc : b.read? r = some c) :
    (r = parent ∧ c = new) ∨ (r ≠ parent ∧ a.read? r = some c) ∨ a.read? r = none := by
  by_cases hr : r = parent
  · subst hr
    exact .inl ⟨rfl, Option.some.inj (hc.symm.trans h.here)⟩
  · cases hd : a.read? r with
    | none => exact .inr (.inr rfl)
    | some d =>
      have hkept := h.elsewhere r d hr hd
      exact .inr (.inl ⟨hr, hkept.symm.trans hc⟩)

/-- A new element takes the place of a property, and has its header. -/
theorem Joined.header_of_new {items more : List Ref} (h : Joined a b child held items more)
    (hitems : ∀ q ∈ items, a.read? q ≠ none) (hchild : a.read? child ≠ none) (hs : s ∈ more)
    (hnone : a.read? s = none) (hc : b.read? s = some c) :
    ∃ q ∈ items, ∃ d, a.read? q = some d ∧ c.header = d.header := by
  cases h with
  | last hnew =>
    rcases List.mem_append.mp hs with hs | hs
    · exact absurd hnone (hitems s hs)
    · exact absurd (List.mem_singleton.mp hs ▸ hnone) hchild
  | @merged before after q t first p hheld hfirst hname hnew hproduct =>
    have hold : ∀ u, u ∈ before ∨ u ∈ after → a.read? u ≠ none := by
      intro u hu
      apply hitems u
      simp only [List.mem_append, List.mem_cons]
      tauto
    simp only [List.mem_append, List.mem_cons] at hs
    rcases hs with hs | rfl | hs
    · exact absurd hnone (hold s (.inl hs))
    · cases hc.symm.trans hproduct
      exact ⟨q, by simp, _, hfirst, rfl⟩
    · exact absurd hnone (hold s (.inr hs))

theorem OneMore.header_of_new (ha : a.WellFormed) (h : OneMore a b parent child holder held new)
    (hholder : a.read? parent = some holder) (hheld : a.read? child = some held)
    (hnone : a.read? r = none) (hc : b.read? r = some c) :
    ∃ q ∈ holder.members .propertyKind, ∃ d, a.read? q = some d ∧ c.header = d.header := by
  obtain ⟨hmem, -⟩ := h.created r c hnone hc
  have hitems : ∀ q ∈ holder.members .propertyKind, a.read? q ≠ none := by
    intro q hq
    obtain ⟨p, hp, -⟩ := exists_property_of_mem (ha.cells _ _ hholder) hq
    simp [hp]
  by_cases hk : held.kind = .propertyKind
  · have hjoined := h.joined
    rw [hk] at hjoined
    exact hjoined.header_of_new hitems (by simp [hheld]) hmem hnone hc
  · rw [h.kept _ (Ne.symm hk)] at hmem
    exact absurd hnone (hitems r hmem)

/-! ## Building -/

/-- An arena with new elements. They are not attached to older ones, and all but the first were made
with a new one as their parent. -/
structure Built (o a : Arena) : Prop where
  handles : a.handles = o.handles
  kept : ∀ r c, o.read? r = some c → a.read? r = some c
  children : ∀ r c, o.cells.length ≤ r → a.read? r = some c →
    ∀ s ∈ c.children, o.cells.length < s
  parents : ∀ r c, o.cells.length < r → a.read? r = some c →
    ∃ q, c.header.parent = some q ∧ o.cells.length ≤ q

theorem read?_eq_none (h : o.cells.length ≤ r) : o.read? r = none := List.getElem?_eq_none h

theorem le_of_read?_eq_none (h : o.read? r = none) : o.cells.length ≤ r :=
  List.getElem?_eq_none_iff.mp h

theorem Built.refl (o : Arena) : Built o o where
  handles := rfl
  kept _ _ h := h
  children r c hr hc := by simp [read?_eq_none hr] at hc
  parents r c hr hc := by simp [read?_eq_none (Nat.le_of_lt hr)] at hc

theorem Built.allocate (h : Built o a) (hchildren : c.children = [])
    (hparent : o.cells.length < a.cells.length →
      ∃ q, c.header.parent = some q ∧ o.cells.length ≤ q) : Built o (a.allocate c).1 where
  handles := h.handles
  kept r d hd := read?_allocate (h.kept r d hd)
  children r d hr hd := by
    rcases of_read?_allocate hd with hd | ⟨-, rfl⟩
    · exact h.children r d hr hd
    · simp [hchildren]
  parents r d hr hd := by
    rcases of_read?_allocate hd with hd | ⟨rfl, rfl⟩
    · exact h.parents r d hr hd
    · exact hparent hr

theorem Built.attach (h : Built o a) (ha : a.WellFormed) (hparent : o.cells.length ≤ parent)
    (hchild : o.cells.length < child) (hplace : parent < a.cells.length)
    (hroom : child < a.cells.length) (hb : a.attach parent child = .ok b) : Built o b := by
  obtain ⟨holder, held, new, hholder, hheld, hnew⟩ := oneMore_of_attach ha hplace hroom hb
  refine ⟨hnew.handles.trans h.handles, ?kept, ?children, ?parents⟩
  case kept =>
    intro r c hc
    have hlt := Nat.lt_of_lt_of_le (lt_of_read? hc) hparent
    exact hnew.elsewhere r c (Nat.ne_of_lt hlt) (h.kept r c hc)
  case children =>
    intro r c hr hc s hs
    rcases hnew.of_read? hc with ⟨rfl, rfl⟩ | ⟨-, hc⟩ | hnone
    · rcases hnew.mem_children hs with hs | rfl | hnone
      · exact h.children _ _ hparent hholder s hs
      · exact hchild
      · have hlt := Nat.lt_trans hchild (lt_of_read? hheld)
        exact Nat.lt_of_lt_of_le hlt (le_of_read?_eq_none hnone)
    · exact h.children r c hr hc s hs
    · obtain ⟨-, p, rfl⟩ := hnew.created r c hnone hc
      exact absurd hs List.not_mem_nil
  case parents =>
    intro r c hr hc
    rcases hnew.of_read? hc with ⟨rfl, rfl⟩ | ⟨-, hc⟩ | hnone
    · rw [hnew.header]
      exact h.parents _ _ hr hholder
    · exact h.parents r c hr hc
    · obtain ⟨q, hq, d, hd, hheader⟩ := hnew.header_of_new ha hholder hheld hnone hc
      have hlt := h.children _ _ hparent hholder q (Cell.mem_children_iff.mpr ⟨_, hq⟩)
      rw [hheader]
      exact h.parents q d hlt hd

/-- The elements of an outline, the first of which is made in a place of its own. -/
theorem built_build {a : Arena} {parent : Option Ref} {outline : ElementOutline}
    (h : Built o a) (ha : a.WellFormed) (hhere : ∀ q, parent = some q → q < a.cells.length)
    (hparent : o.cells.length < a.cells.length → ∃ q, parent = some q ∧ o.cells.length ≤ q)
    (hle : o.cells.length ≤ a.cells.length) (hb : a.build parent outline = .ok (b, r)) :
    Built o b ∧ r = a.cells.length := by
  -- the elements inside one are attached to it, so that only places from there on change
  induction a, parent, outline using Arena.build.induct
    (motive_1 := fun a parent outlines => ∀ b, Built o a → a.WellFormed →
      o.cells.length ≤ parent → parent < a.cells.length →
      build.buildChildren a parent outlines = .ok b → Built o b) generalizing b r with
  | case1 a parent kind name visibility lifetime path base returnType argumentTypes hasGetter
      hasSetter type children ih =>
    rw [build] at hb
    obtain ⟨c, hc, hb⟩ := except_bind_eq_ok.mp hb
    obtain ⟨d, hd, hb⟩ := except_bind_eq_ok.mp hb
    cases hb
    obtain ⟨hcell, hchildren, hentries⟩ := cell_ok hc
    have hallocated := ha.allocate (sound_of_empty (hcell ▸ hhere) hchildren hentries)
    have hroot := h.allocate hchildren (hcell ▸ hparent)
    exact ⟨ih _ _ b hroot hallocated hle (lt_of_read? read?_allocate_new) hd, rfl⟩
  | case2 a parent b h ha hle hlt hb =>
    cases hb
    exact h
  | case3 a parent outline outlines ih ihs b h ha hle hlt hb =>
    obtain ⟨⟨x, r⟩, hx, hb⟩ := except_bind_eq_ok.mp hb
    obtain ⟨y, hy, hb⟩ := except_bind_eq_ok.mp hb
    have hhere : ∀ q, some parent = some q → q < a.cells.length :=
      fun q hq => Option.some.inj hq ▸ hlt
    have hroom := Nat.lt_of_le_of_lt hle hlt
    obtain ⟨hxs, hax, hr⟩ := wellFormed_build ha hhere hx
    obtain ⟨hbuilt, hplace⟩ :=
      ih h ha hhere (fun _ => ⟨parent, rfl, hle⟩) (Nat.le_of_lt hroom) hx
    obtain ⟨hys, hxy⟩ := wellFormed_attach hxs hy
    have hmore := hbuilt.attach hxs hle (hplace ▸ hroom) (hax.lt hlt) hr hy
    exact ihs y b hmore hys hle (hxy.lt (hax.lt hlt)) hb

theorem built_of_build {place : Option Ref} {outline : ElementOutline} (ha : a.WellFormed)
    (hhere : ∀ q, place = some q → q < a.cells.length)
    (h : a.build place outline = .ok (x, r)) : Built a x ∧ r = a.cells.length :=
  built_build (Built.refl a) ha hhere (fun hlt => absurd hlt (Nat.lt_irrefl _)) (Nat.le_refl _) h

theorem keeps_buildChildren {a b : Arena} {outlines : List ElementOutline} (ha : a.WellFormed)
    (hparent : parent < a.cells.length)
    (h : build.buildChildren a parent outlines = .ok b) : a.Keeps b := by
  induction outlines generalizing a with
  | nil =>
    cases h
    exact Keeps.refl _
  | cons outline outlines ih =>
    rw [build.buildChildren] at h
    obtain ⟨⟨x, r⟩, hx, h⟩ := except_bind_eq_ok.mp h
    obtain ⟨y, hy, h⟩ := except_bind_eq_ok.mp h
    obtain ⟨hxs, hax, -⟩ := wellFormed_build ha (fun q hq => Option.some.inj hq ▸ hparent) hx
    obtain ⟨hys, hxy⟩ := wellFormed_attach hxs hy
    exact (hax.trans hxy).trans (ih hys (hxy.lt (hax.lt hparent)) h)

/-- The first element of an outline has the parent that it was made with. -/
theorem parent_of_build {place : Option Ref} {outline : ElementOutline} (ha : a.WellFormed)
    (hhere : ∀ q, place = some q → q < a.cells.length) (h : a.build place outline = .ok (b, r)) :
    ∃ c, b.read? r = some c ∧ c.header.parent = place := by
  cases outline with
  | mk kind name visibility lifetime path base returnType argumentTypes hasGetter hasSetter type
      children =>
    rw [build] at h
    obtain ⟨c, hc, h⟩ := except_bind_eq_ok.mp h
    obtain ⟨d, hd, h⟩ := except_bind_eq_ok.mp h
    cases h
    obtain ⟨hcell, hchildren, hentries⟩ := cell_ok hc
    have hallocated := ha.allocate (sound_of_empty (hcell ▸ hhere) hchildren hentries)
    have hkeeps := keeps_buildChildren hallocated (lt_of_read? read?_allocate_new) hd
    obtain ⟨e, he, -, hheader⟩ := hkeeps _ c read?_allocate_new
    exact ⟨e, he, hheader ▸ hcell⟩

/-! ## New elements -/

/-- The parent that a step makes an element with. -/
inductive MadeWith (a b : Arena) (r : Ref) : Step → Option Ref → Prop
  /-- The parent that is named, for the first element of an outline. -/
  | first {id : String} {name : Option String} {outline : ElementOutline} {parent : Option Ref}
      (hparent : name.map a.handles.get? = parent.map some) (h : b.handles.get? id = some r) :
      MadeWith a b r (.create id name outline) parent
  /-- A new element, for those inside the first one. -/
  | inside {id : String} {name : Option String} {outline : ElementOutline} {parent : Ref}
      (hparent : a.read? parent = none) (h : b.handles.get? id ≠ some r) :
      MadeWith a b r (.create id name outline) (some parent)
  /-- The parent of the first of two elements that are merged. -/
  | merged {id name other : String} {p : Ref} {c : Cell} (hp : a.handles.get? name = some p)
      (hc : a.read? p = some c) (h : b.handles.get? id = some r) :
      MadeWith a b r (.merge id name other) c.header.parent
  /-- The parent of a property that an attached one is merged into. -/
  | joined {name other : String} {p q : Ref} {holder c : Cell}
      (hp : a.handles.get? name = some p) (hholder : a.read? p = some holder)
      (hq : q ∈ holder.members .propertyKind) (hc : a.read? q = some c) :
      MadeWith a b r (.attach name other) c.header.parent

theorem get?_bind_self (x : Arena) (id : String) (r : Ref) :
    (x.bind id r).handles.get? id = some r := by
  rw [bind, Dictionary.get?_put, if_pos rfl]

theorem madeWith_of_build {name : Option String} {place : Option Ref} {id : String}
    {outline : ElementOutline} (ha : a.WellFormed)
    (hplace : name.map a.handles.get? = place.map some) (hx : a.build place outline = .ok (x, s))
    (hnone : a.read? r = none) (hc : x.read? r = some c) :
    MadeWith a (x.bind id s) r (.create id name outline) c.header.parent := by
  have hhere := lt_of_place ha hplace
  obtain ⟨hbuilt, hs⟩ := built_of_build ha hhere hx
  by_cases hr : r = s
  · subst hr
    obtain ⟨d, hd, hparent⟩ := parent_of_build ha hhere hx
    cases hd.symm.trans hc
    exact hparent ▸ .first hplace (get?_bind_self x id r)
  · have hne : a.cells.length ≠ r := fun h => hr (h.symm.trans hs.symm)
    have hlt := Nat.lt_of_le_of_ne (le_of_read?_eq_none hnone) hne
    obtain ⟨q, hq, hqle⟩ := hbuilt.parents r c hlt hc
    rw [hq]
    refine .inside (read?_eq_none hqle) fun h => hr ?_
    exact (Option.some.inj ((get?_bind_self x id s).symm.trans h)).symm

/-- **A new element is made with a parent that is named, that is new as well, or that a property
had.** -/
theorem madeWith_of_step (ha : a.WellFormed) (s : Step) (hnone : a.read? r = none)
    (hc : (a.step s).1.read? r = some c) : MadeWith a (a.step s).1 r s c.header.parent := by
  have hperformed := performed_step a s
  generalize (a.step s).1 = b at hc hperformed ⊢
  have hold : a.read? r ≠ some c := by simp [hnone]
  cases hperformed with
  | created hplace hx => exact madeWith_of_build ha hplace hx hnone hc
  | @attached name other p q b hp hq hb =>
    obtain ⟨holder, held, new, hholder, hheld, hnew⟩ :=
      oneMore_of_attach ha (lt_of_get? ha hp) (lt_of_get? ha hq) hb
    obtain ⟨t, ht, d, hd, hheader⟩ := hnew.header_of_new ha hholder hheld hnone hc
    exact hheader ▸ .joined hp hholder ht hd
  | @merged id name other p d q hp hd hheader =>
    rcases of_read?_allocate hc with hc | ⟨rfl, rfl⟩
    · exact absurd hc hold
    · have hparent : (Cell.ofProperty q).header.parent = d.header.parent :=
        congrArg Header.parent hheader
      exact hparent ▸ .merged hp hd (get?_bind_self _ id _)
  | @set id field value p d e hd hkind hheader hentries hchildren =>
    have hr : r ≠ p := by
      rintro rfl
      cases hnone.symm.trans hd
    exact absurd ((read?_write_of_ne hr).symm.trans hc) hold
  | picked | dropped | same => exact absurd hc hold

end Arena

end ClassDiagram
