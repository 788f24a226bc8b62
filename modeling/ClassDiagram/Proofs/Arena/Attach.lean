import ClassDiagram.Proofs.Arena.Liveness

/-!
Attaching an element to another one. It is refused because of the kinds, or one collection of the
parent changes (`OneMore`): the element comes behind the others, or a property of the same name
gives way to the product of both in its place (`Joined`). No other element changes, and all read the
parents that they read before, but for a parent that is the property that gave way
(`attaching_is_atomic`).
-/

namespace ClassDiagram

namespace Cell

/-- The collection that elements of a kind are in. -/
def members : Cell → Kind → List Ref
  | ofModule _ _ modules _ _ _, .moduleKind => modules
  | ofModule _ _ _ classes _ _, .classKind => classes
  | ofModule _ _ _ _ methods _, .methodKind => methods
  | ofModule _ _ _ _ _ dependencies, .importKind => dependencies
  | ofClass _ methods _ _, .methodKind => methods
  | ofClass _ _ properties _, .propertyKind => properties.values
  | _, _ => []

/-- The element without what is in its collections. -/
def emptied : Cell → Cell
  | ofModule h path _ _ _ _ => ofModule h path [] [] [] []
  | ofClass h _ _ base => ofClass h [] [] base
  | c => c

variable {c : Cell} {k : Kind} {r : Ref}

theorem mem_children_iff : r ∈ c.children ↔ ∃ k, r ∈ c.members k := by
  constructor
  · intro h
    cases c with
    | ofModule header path modules classes methods dependencies =>
      simp only [children, List.mem_append] at h
      rcases h with ((h | h) | h) | h
      · exact ⟨.moduleKind, h⟩
      · exact ⟨.classKind, h⟩
      · exact ⟨.methodKind, h⟩
      · exact ⟨.importKind, h⟩
    | ofClass header methods properties base =>
      rcases mem_children_ofClass.mp h with h | h
      · exact ⟨.methodKind, h⟩
      · exact ⟨.propertyKind, h⟩
    | _ => exact absurd h List.not_mem_nil
  · rintro ⟨k, h⟩
    cases c <;> cases k <;> simp_all [children, members]

theorem emptied_push : (c.push k r).emptied = c.emptied := by
  cases c <;> cases k <;> rfl

theorem members_push (hk : k ≠ .propertyKind) (h : c.kind.holds k = true) :
    (c.push k r).members k = c.members k ++ [r] := by
  cases c <;> cases k <;> first | exact absurd rfl hk | rfl | cases h

theorem members_push_of_ne {k' : Kind} (h : k' ≠ k) : (c.push k r).members k' = c.members k' := by
  cases c <;> cases k <;> cases k' <;> first | rfl | exact absurd rfl h

end Cell

namespace Arena

variable {a b : Arena} {parent child r s : Ref} {holder held new c : Cell}

theorem exists_property_of_mem (hc : c.Sound a) (h : r ∈ c.members .propertyKind) :
    ∃ p, a.read? r = some (.ofProperty p) ∧ (p.name, r) ∈ c.entries := by
  have hvalues : c.members .propertyKind = c.entries.values := by cases c <;> rfl
  rw [hvalues] at h
  obtain ⟨⟨key, r⟩, hentry, rfl⟩ := List.mem_map.mp h
  obtain ⟨p, hp, rfl⟩ := hc.entries _ hentry
  exact ⟨p, hp, hentry⟩

/-- How the collection changes that an element comes into. -/
inductive Joined (a b : Arena) (child : Ref) (held : Cell) : List Ref → List Ref → Prop
  | last {items : List Ref}
      (hnew : ∀ p, held = .ofProperty p → ∀ q ∈ items, ∀ first,
        a.read? q = some (.ofProperty first) → first.name ≠ p.name) :
      Joined a b child held items (items ++ [child])
  | merged {before after : List Ref} {q r : Ref} {first p : Property Ref}
      (hheld : held = .ofProperty p) (hfirst : a.read? q = some (.ofProperty first))
      (hname : first.name = p.name) (hnew : a.read? r = none)
      (hproduct : b.read? r = some (.ofProperty (first.merge p))) :
      Joined a b child held (before ++ q :: after) (before ++ r :: after)

theorem Joined.mem_new {items more : List Ref} (h : Joined a b child held items more)
    (hs : s ∈ more) : s ∈ items ∨ s = child ∨ a.read? s = none := by
  cases h with
  | last hnew => exact (List.mem_append.mp hs).imp_right fun hs => .inl (List.mem_singleton.mp hs)
  | merged hheld hfirst hname hnew hproduct =>
    simp only [List.mem_append, List.mem_cons] at hs ⊢
    rcases hs with hs | rfl | hs
    · exact .inl (.inl hs)
    · exact .inr (.inr hnew)
    · exact .inl (.inr (.inr hs))

theorem Joined.mem_old {items more : List Ref} (h : Joined a b child held items more)
    (hs : s ∈ items) : s ∈ more ∨ held.kind = .propertyKind := by
  cases h with
  | last hnew => exact .inl (List.mem_append_left _ hs)
  | merged hheld hfirst hname hnew hproduct => exact .inr (hheld ▸ rfl)

/-- One collection of the parent has changed, and nothing else. -/
structure OneMore (a b : Arena) (parent child : Ref) (holder held new : Cell) : Prop where
  handles : b.handles = a.handles
  here : b.read? parent = some new
  elsewhere : ∀ r c, r ≠ parent → a.read? r = some c → b.read? r = some c
  created : ∀ r c, a.read? r = none → b.read? r = some c →
    r ∈ new.members .propertyKind ∧ ∃ p, c = .ofProperty p
  emptied : new.emptied = holder.emptied
  kept : ∀ k, k ≠ held.kind → new.members k = holder.members k
  joined : Joined a b child held (holder.members held.kind) (new.members held.kind)

theorem oneMore_write (hparent : a.read? parent = some holder)
    (hemptied : new.emptied = holder.emptied)
    (hkept : ∀ k, k ≠ held.kind → new.members k = holder.members k)
    (hlast : new.members held.kind = holder.members held.kind ++ [child])
    (hnew : ∀ p, held = .ofProperty p → ∀ q ∈ holder.members held.kind, ∀ first,
      a.read? q = some (.ofProperty first) → first.name ≠ p.name) :
    OneMore a (a.write parent new) parent child holder held new where
  handles := rfl
  here := read?_write (lt_of_read? hparent)
  elsewhere r c hr hc := (read?_write_of_ne hr).trans hc
  created r c hnone hc := by
    by_cases hr : r = parent
    · rw [hr, hparent] at hnone
      cases hnone
    · rw [read?_write_of_ne hr, hnone] at hc
      cases hc
  emptied := hemptied
  kept := hkept
  joined := hlast ▸ .last hnew

theorem Attached.oneMore (ha : a.WellFormed) (h : a.Attached parent child b)
    (hholder : a.read? parent = some holder) (hheld : a.read? child = some held) :
    ∃ new, OneMore a b parent child holder held new := by
  have hsound := ha.cells _ _ hholder
  cases h with
  | pushed hholder' hheld' hkind hholds =>
    cases hholder.symm.trans hholder'
    cases hheld.symm.trans hheld'
    refine ⟨_, oneMore_write hholder Cell.emptied_push (fun k => Cell.members_push_of_ne)
      (Cell.members_push hkind hholds) ?_⟩
    rintro p rfl
    exact absurd rfl hkind
  | @stored h methods properties base p hholder' hheld' hnew =>
    cases hholder.symm.trans hholder'
    cases hheld.symm.trans hheld'
    refine ⟨_, oneMore_write hholder rfl ?_ Dictionary.values_append ?_⟩
    · intro k hk
      cases k <;> first | rfl | exact absurd rfl hk
    · intro p' hp' q hq first hfirst hname
      cases hp'
      obtain ⟨first', hfirst', hentry⟩ := exists_property_of_mem hsound hq
      cases hfirst.symm.trans hfirst'
      exact hnew (List.mem_map.mpr ⟨_, hentry, hname⟩)
  | @merged h methods before after base p first q hholder' hheld' hfirst hbefore =>
    cases hholder.symm.trans hholder'
    cases hheld.symm.trans hheld'
    have hname : first.name = p.name := hsound.name_eq (by simp [Cell.entries]) hfirst
    have hlt := lt_of_read? hholder
    have hfresh : a.cells.length ≠ parent := Nat.ne_of_gt hlt
    have hproduct : ((a.allocate (.ofProperty (first.merge p))).1.write parent (.ofClass h methods
        (before ++ (p.name, a.cells.length) :: after) base)).read? a.cells.length =
          some (.ofProperty (first.merge p)) :=
      (read?_write_of_ne hfresh).trans read?_allocate_new
    refine ⟨.ofClass h methods (before ++ (p.name, a.cells.length) :: after) base, rfl,
      read?_write (lt_of_read? (read?_allocate hholder)), ?elsewhere, ?created, rfl, ?kept,
      ?joined⟩
    case elsewhere => exact fun r c hr hc => (read?_write_of_ne hr).trans (read?_allocate hc)
    case created =>
      intro r c hnone hc
      have hr : r ≠ parent := by
        rintro rfl
        cases hholder.symm.trans hnone
      rw [read?_write_of_ne hr] at hc
      rcases of_read?_allocate hc with hc | ⟨rfl, rfl⟩
      · cases hc.symm.trans hnone
      · exact ⟨by simp [Cell.members], _, rfl⟩
    case kept =>
      intro k hk
      cases k <;> first | rfl | exact absurd rfl hk
    case joined =>
      have hnone : a.read? a.cells.length = none := List.getElem?_eq_none (Nat.le_refl _)
      simpa [Cell.members, Cell.kind] using Joined.merged rfl hfirst hname hnone hproduct

theorem OneMore.held_of_held (h : OneMore a b parent child holder held new) (ha : a.WellFormed)
    (hholder : a.read? parent = some holder) (hchild : a.Held child) (hr : b.Held r) :
    a.Held r ∨ a.read? r = none := by
  induction hr with
  | handle hr => exact .inl (.handle (h.handles ▸ hr))
  | @child r s c hr hc hs ih =>
    rcases ih with ih | hnone
    · by_cases hparent : r = parent
      · subst hparent
        obtain rfl := Option.some.inj (h.here.symm.trans hc)
        obtain ⟨k, hs⟩ := Cell.mem_children_iff.mp hs
        have hkept : s ∈ holder.members k → a.Held s :=
          fun hs => ih.child hholder (Cell.mem_children_iff.mpr ⟨k, hs⟩)
        by_cases hk : k = held.kind
        · subst hk
          rcases h.joined.mem_new hs with hs | rfl | hnone
          · exact .inl (hkept hs)
          · exact .inl hchild
          · exact .inr hnone
        · exact .inl (hkept (h.kept k hk ▸ hs))
      · obtain ⟨d, hd⟩ := exists_read? (ih.lt ha)
        obtain rfl := Option.some.inj (hc.symm.trans (h.elsewhere r d hparent hd))
        exact .inl (ih.child hd hs)
    · obtain ⟨-, p, rfl⟩ := h.created r c hnone hc
      exact absurd hs List.not_mem_nil

/-- Attaching ends the life of no element but a property that gives way to a product. -/
theorem OneMore.held_or_displaced (h : OneMore a b parent child holder held new) (ha : a.WellFormed)
    (hholder : a.read? parent = some holder) (hr : a.Held r) :
    b.Held r ∨ r ∈ holder.members .propertyKind ∧ r ∉ new.members .propertyKind := by
  induction hr with
  | handle hr => exact .inl (.handle (h.handles ▸ hr))
  | @child r s c hr hc hs ih =>
    rcases ih with ih | ⟨hlost, -⟩
    · by_cases hparent : r = parent
      · subst hparent
        obtain rfl := Option.some.inj (hholder.symm.trans hc)
        obtain ⟨k, hs⟩ := Cell.mem_children_iff.mp hs
        by_cases hnew : s ∈ new.members k
        · exact .inl (ih.child h.here (Cell.mem_children_iff.mpr ⟨k, hnew⟩))
        · have hk : k = held.kind := by
            by_contra hk
            exact hnew (h.kept k hk ▸ hs)
          subst hk
          have hkind := (h.joined.mem_old hs).resolve_left hnew
          exact .inr (hkind ▸ ⟨hs, hnew⟩)
      · exact .inl (ih.child (h.elsewhere r c hparent hc) hs)
    · obtain ⟨p, hp, -⟩ := exists_property_of_mem (ha.cells _ _ hholder) hlost
      cases hp.symm.trans hc
      exact absurd hs List.not_mem_nil

/-- Where all that was held still is, but for cells that `p` holds of, each element reads the parent
that it read before, or had one of these. -/
theorem parent?_eq_or (hb : b.WellFormed) (ha : a.WellFormed) {p : Ref → Prop}
    (hheld : ∀ s < a.cells.length, b.Held s → a.Held s)
    (hkept : ∀ s, a.Held s → b.Held s ∨ p s) (hc : c.Sound a) :
    b.parent? c = a.parent? c ∨
      ∃ q, c.header.parent = some q ∧ p q ∧ b.isAlive q = false ∧ b.parent? c = none := by
  cases hparent : c.header.parent with
  | none => exact .inl (by simp only [parent?, hparent, Option.filter_none])
  | some q =>
    have hq := hc.parent q hparent
    cases hafter : b.isAlive q with
    | true =>
      have hbefore := (isAlive_iff_held ha).mpr (hheld q hq ((isAlive_iff_held hb).mp hafter))
      exact .inl (by simp only [parent?, hparent, Option.filter_some, hafter, hbefore])
    | false =>
      have hnone : b.parent? c = none := by simp [parent?, hparent, hafter]
      cases hbefore : a.isAlive q with
      | false => exact .inl (by simp only [parent?, hparent, Option.filter_some, hafter, hbefore])
      | true =>
        have hnot : ¬ b.Held q := fun h => by
          rw [(isAlive_iff_held hb).mpr h] at hafter
          cases hafter
        have hlost := (hkept q ((isAlive_iff_held ha).mp hbefore)).resolve_left hnot
        exact .inr ⟨q, rfl, hlost, hafter, hnone⟩

theorem header_element? (h : a.read? r = some c) :
    ∃ e, a.element? r = some e ∧ e.header = a.headerTree a.alive c := by
  obtain ⟨depth, hdepth⟩ := Nat.exists_eq_succ_of_ne_zero (Nat.ne_zero_of_lt (lt_of_read? h))
  cases c <;>
    simp [element?, elementTree?, h, moduleTree?, hdepth, moduleTreeTo?, classTree?, methodTree?,
      propertyTree?, importTree?, Element.header]

section Handles

variable {x y : String}

theorem step_attach_error (hx : a.handles.get? x = some parent)
    (hy : a.handles.get? y = some child) {e : ElementError}
    (h : a.attach parent child = .error e) : a.step (.attach x y) = (a, .error e) := by
  have hperform : a.perform (.attach x y) = .error e := by
    simp [perform, lookUp, hx, hy, h, Bind.bind, Except.bind]
  rw [step, hperform]

theorem step_attach_ok (hx : a.handles.get? x = some parent)
    (hy : a.handles.get? y = some child) (h : a.attach parent child = .ok b)
    (hhandles : b.handles = a.handles) (hnew : b.read? parent = some new) :
    ∃ e, a.step (.attach x y) = (b, .ok (.element e)) := by
  obtain ⟨e, he, -⟩ := header_element? hnew
  have hreply : b.reply x = .ok (b, .element e) := by
    simp [reply, elementAt, lookUp, hhandles, hx, he, Bind.bind, Except.bind, Pure.pure,
      Except.pure]
  have hperform : a.perform (.attach x y) = .ok (b, .element e) := by
    simp [perform, lookUp, hx, hy, h, Bind.bind, Except.bind, hreply]
  exact ⟨e, by rw [step, hperform]⟩

end Handles

/-- **Attaching is refused because of the kinds, or changes one collection.** -/
theorem attaching_is_atomic {steps : List Step} {a : Arena} (hrun : behind {} steps = a) :
    (∀ parent child holder held,
      a.read? parent = some holder → a.read? child = some held →
      (holder.kind.holds held.kind = false ∧
        a.attach parent child = .error (.unsupported held.kind holder.kind) ∧
        ∀ x y, a.handles.get? x = some parent → a.handles.get? y = some child →
          a.step (.attach x y) = (a, .error (.unsupported held.kind holder.kind))) ∨
      (holder.kind.holds held.kind = true ∧ ∃ b new, a.attach parent child = .ok b ∧
        OneMore a b parent child holder held new ∧
        (a.isAlive child = true → ∀ r c, a.read? r = some c →
          b.parent? c = a.parent? c ∨ ∃ q, c.header.parent = some q ∧
            (q ∈ holder.members .propertyKind ∧ q ∉ new.members .propertyKind) ∧
            b.isAlive q = false ∧ b.parent? c = none) ∧
        ∀ x y, a.handles.get? x = some parent → a.handles.get? y = some child →
          ∃ e, a.step (.attach x y) = (b, .ok (.element e)))) ∧
    ∀ first second b r, (∃ s, a.read? s = some first) → a.mergeCells first second = .ok (b, r) →
      b.handles = a.handles ∧ a.read? r = none ∧
        ∀ s c, a.read? s = some c → b.read? s = some c ∧ b.parent? c = a.parent? c := by
  have ha : a.WellFormed := hrun ▸ (wellFormed_behind wellFormed_empty steps).1
  refine ⟨?attach, ?merge⟩
  case attach =>
    intro parent child holder held hholder hheld
    rcases attach_outcome hholder hheld (ha.cells _ _ hholder).property with
      ⟨hholds, he⟩ | ⟨hholds, b, hb, hattached⟩
    · exact .inl ⟨hholds, he, fun x y hx hy => step_attach_error hx hy he⟩
    · obtain ⟨new, hnew⟩ := hattached.oneMore ha hholder hheld
      have hbs := hattached.wellFormed ha
      refine .inr ⟨hholds, b, new, hb, hnew, ?_, ?_⟩
      · intro halive r c hc
        have hchild := (isAlive_iff_held ha).mp halive
        refine parent?_eq_or hbs ha ?_ ?_ (ha.cells r c hc)
        · intro s hs hheld
          refine (hnew.held_of_held ha hholder hchild hheld).resolve_right fun hnone => ?_
          obtain ⟨c, hc⟩ := exists_read? hs
          cases hnone.symm.trans hc
        · exact fun s hs => hnew.held_or_displaced ha hholder hs
      · exact fun x y hx hy => step_attach_ok hx hy hb hnew.handles hnew.here
  case merge =>
    rintro first second b r ⟨s, hs⟩ hmerge
    have hbs := (wellFormed_mergeCells ha (ha.cells s first hs) hmerge).1
    obtain ⟨p, -, hallocate⟩ := mergeCells_ok hmerge
    cases hallocate
    refine ⟨rfl, List.getElem?_eq_none (Nat.le_refl _), ?_⟩
    intro t c hc
    have hparent := parent?_eq_or (p := fun _ => False) hbs ha
      (fun _ _ h => (held_allocate ha).mp h) (fun _ h => .inl ((held_allocate ha).mpr h))
      (ha.cells t c hc)
    refine ⟨read?_allocate hc, hparent.resolve_right ?_⟩
    rintro ⟨-, -, hfalse, -⟩
    exact hfalse

/-- A class with a property that only the class holds, and a method made as a part of that. -/
def lamp : List Step := [
  .create "lamp" none { kind := .classKind, name := "Lamp" },
  .create "getter" (some "lamp") { kind := .propertyKind, name := "on", hasGetter := true },
  .create "setter" (some "lamp") { kind := .propertyKind, name := "on", hasSetter := true },
  .create "flip" (some "getter") { kind := .methodKind, name := "flip" },
  .attach "lamp" "getter",
  .drop "getter"]

theorem attaching_is_atomic_lamp :
    ∃ a holder getter setter flip, behind {} lamp = a ∧
      (a.read? 0 = some holder ∧ a.read? 1 = some getter ∧ a.read? 2 = some setter ∧
        a.read? 3 = some flip) ∧
      a.isAlive 2 = true ∧ a.parent? flip = some 1 ∧
      (∃ b new, a.attach 0 2 = .ok b ∧ OneMore a b 0 2 holder setter new ∧
        (b.parent? flip = a.parent? flip ∨ b.isAlive 1 = false ∧ b.parent? flip = none)) ∧
      ∃ b, a.mergeCells getter setter = .ok (b, 4) ∧ b.parent? flip = a.parent? flip := by
  have hholder : (behind {} lamp).read? 0 =
      some (.ofClass { name := "Lamp" } [] [("on", 1)] none) := by decide
  have hgetter : (behind {} lamp).read? 1 =
      some (.ofProperty { header := ⟨"on", some 0, .pub, .perInstance⟩, hasGetter := true }) := by
    decide
  have hsetter : (behind {} lamp).read? 2 =
      some (.ofProperty { header := ⟨"on", some 0, .pub, .perInstance⟩, hasSetter := true }) := by
    decide
  have hflip : (behind {} lamp).read? 3 =
      some (.ofMethod { header := ⟨"flip", some 1, .pub, .perInstance⟩ }) := by decide
  have halive : (behind {} lamp).isAlive 2 = true := by decide
  obtain ⟨hattach, hmerge⟩ := attaching_is_atomic (rfl : behind {} lamp = behind {} lamp)
  refine ⟨_, _, _, _, _, rfl, ⟨hholder, hgetter, hsetter, hflip⟩, halive, by decide, ?_, ?_⟩
  · rcases hattach 0 2 _ _ hholder hsetter with ⟨hholds, -⟩ | ⟨-, b, new, hb, hone, hparent, -⟩
    · cases hholds
    · refine ⟨b, new, hb, hone, (hparent halive 3 _ hflip).imp_right ?_⟩
      rintro ⟨q, hq, -, hdead, hnone⟩
      cases hq
      exact ⟨hdead, hnone⟩
  · obtain ⟨-, -, hkept⟩ := hmerge _
      (.ofProperty { header := ⟨"on", some 0, .pub, .perInstance⟩, hasSetter := true }) _ _
      ⟨1, hgetter⟩ rfl
    exact ⟨_, rfl, (hkept 3 _ hflip).2⟩

end Arena

end ClassDiagram
