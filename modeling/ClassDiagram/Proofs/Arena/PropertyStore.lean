import ClassDiagram.Proofs.Arena.WellFormed
import ClassDiagram.Proofs.Model.Property

/-!
The properties that a class stores. An arena keeps them in cells, under their names; read from there
they are a list, and attaching a property inserts it into this list (`stores_of_attached`). So what
a new class stores behind a run of additions is what the list laws say
(`property_store_merges`): the names in the order of their first additions, and under each
name the combination of all that was added under it.
-/

namespace ClassDiagram

/-- The property that an element is, if it is one. -/
def Cell.property? : Cell → Option (Property Ref)
  | .ofProperty p => some p
  | _ => none

namespace Arena

variable {a b : Arena} {place child r s : Ref} {held d : Cell}

/-- The entries are those of these properties. -/
def Stores (a : Arena) (entries : Dictionary Ref) (ps : List (Property Ref)) : Prop :=
  entries.map (fun entry => (entry.1, a.read? entry.2))
    = ps.map fun p => (p.name, some (.ofProperty p))

/-- Elements attached to a class one by one, each as it was then. In between anything can happen
that leaves the class and all properties as they are. -/
inductive Additions (place : Ref) : Arena → List Cell → Arena → Prop
  | nil (a : Arena) : Additions place a [] a
  | between {a b x : Arena} {held : List Cell} (hclass : b.read? place = a.read? place)
      (hkept : ∀ s p, a.read? s = some (.ofProperty p) → b.read? s = some (.ofProperty p))
      (hmore : Additions place b held x) : Additions place a held x
  | cons {a b x : Arena} {r : Ref} {held : Cell} {more : List Cell}
      (hheld : a.read? r = some held) (h : a.attach place r = .ok b)
      (hmore : Additions place b more x) : Additions place a (held :: more) x

variable {entries : Dictionary Ref} {ps qs : List (Property Ref)}

theorem Stores.keys (h : a.Stores entries ps) : entries.keys = ps.map Property.name := by
  have hkeys := congrArg (List.map Prod.fst) h
  rwa [List.map_map, List.map_map] at hkeys

theorem Stores.property (h : a.Stores entries ps) :
    ∀ entry ∈ entries, ∃ p, a.read? entry.2 = some (.ofProperty p) := by
  intro entry hentry
  have hmem : (entry.1, a.read? entry.2) ∈ entries.map fun entry => (entry.1, a.read? entry.2) :=
    List.mem_map.mpr ⟨entry, hentry, rfl⟩
  rw [h] at hmem
  obtain ⟨p, -, hp⟩ := List.mem_map.mp hmem
  exact ⟨p, (Prod.mk.inj hp).2.symm⟩

/-- What is stored stays as long as no cell of a property is written. -/
theorem Stores.frame (h : a.Stores entries ps)
    (hkept : ∀ s p, a.read? s = some (.ofProperty p) → b.read? s = some (.ofProperty p)) :
    b.Stores entries ps := by
  rw [Stores, ← h]
  refine List.map_congr_left fun entry hentry => ?_
  obtain ⟨p, hp⟩ := h.property entry hentry
  rw [hp, hkept _ p hp]

section Class

variable {h : Header Ref} {methods : List Ref} {base : Option QualifiedName}

theorem read?_write_class (hclass : a.read? place = some (.ofClass h methods entries base))
    (p : Property Ref) (hp : a.read? s = some (.ofProperty p)) :
    (a.write place d).read? s = some (.ofProperty p) := by
  refine (read?_write_of_ne ?_).trans hp
  rintro rfl
  cases hclass.symm.trans hp

/-- Attaching an element to a class inserts it into what is stored, if it is a property. -/
theorem stores_of_attached (hclass : a.read? place = some (.ofClass h methods entries base))
    (hstores : a.Stores entries ps) (hheld : a.read? child = some held)
    (hb : a.Attached place child b) :
    ∃ methods entries, b.read? place = some (.ofClass h methods entries base) ∧
      b.Stores entries (held.property?.toList.foldl (fun stored p => p.insert stored) ps) := by
  cases hb with
  | pushed hholder hheld' hkind hholds =>
    cases hclass.symm.trans hholder
    cases hheld.symm.trans hheld'
    cases held with
    | ofMethod m =>
      refine ⟨_, entries, read?_write (lt_of_read? hclass), ?_⟩
      exact hstores.frame fun s => read?_write_class hclass
    | ofProperty p => exact absurd rfl hkind
    | _ => cases hholds
  | @stored _ _ _ _ p hholder hheld' hnew =>
    cases hclass.symm.trans hholder
    cases hheld.symm.trans hheld'
    refine ⟨_, _, read?_write (lt_of_read? hclass), ?_⟩
    show Stores _ _ (p.insert ps)
    rw [Property.insert_of_not_mem (hstores.keys ▸ hnew), Stores, List.map_append, List.map_append]
    have hkept := hstores.frame (b := a.write place (.ofClass h methods
      (entries ++ [(p.name, child)]) base)) fun s => read?_write_class hclass
    rw [hkept, List.map_singleton, List.map_singleton, read?_write_class hclass p hheld]
  | @merged _ _ before after _ p first q hholder hheld' hfirst hbefore =>
    cases hclass.symm.trans hholder
    cases hheld.symm.trans hheld'
    have hclass' := read?_allocate (d := .ofProperty (first.merge p)) hclass
    refine ⟨_, _, read?_write (lt_of_read? hclass'), ?_⟩
    show Stores _ _ (p.insert ps)
    -- the list is made of what the entries before, at and behind the name stand for
    rw [Stores, List.map_append, List.map_cons, eq_comm, List.map_eq_append_iff] at hstores
    obtain ⟨front, rest, rfl, hfront, hrest⟩ := hstores
    obtain ⟨first', back, rfl, hentry, hback⟩ := List.map_eq_cons_iff.mp hrest
    obtain ⟨hname, hread⟩ := Prod.mk.inj hentry
    obtain rfl : first = first' := by
      cases hfirst.symm.trans hread.symm
      rfl
    replace hfront : a.Stores before front := hfront.symm
    replace hback : a.Stores after back := hback.symm
    have hkept : ∀ s p', a.read? s = some (.ofProperty p') →
        ((a.allocate (.ofProperty (first.merge p))).1.write place (.ofClass h methods
          (before ++ (p.name, a.cells.length) :: after) base)).read? s = some (.ofProperty p') :=
      fun s p' hp' => read?_write_class hclass' p' (read?_allocate hp')
    rw [Property.insert_append (hfront.keys ▸ hbefore) hname, Stores, List.map_append,
      List.map_append, List.map_cons, List.map_cons, hfront.frame hkept, hback.frame hkept,
      read?_write_class hclass' _ read?_allocate_new]
    have hsame : (first.merge p).name = p.name := hname
    rw [hsame]

/-- The additions that were successful, inserted one after the other. -/
theorem Additions.stores {held : List Cell} (hrun : Additions place a held b)
    (hclass : a.read? place = some (.ofClass h methods entries base))
    (hstores : a.Stores entries ps) :
    ∃ methods entries, b.read? place = some (.ofClass h methods entries base) ∧
      b.Stores entries
        ((held.filterMap Cell.property?).foldl (fun stored p => p.insert stored) ps) := by
  induction hrun generalizing methods entries ps with
  | nil a => exact ⟨methods, entries, hclass, hstores⟩
  | between hsame hkept hmore ih => exact ih (hsame.trans hclass) (hstores.frame hkept)
  | @cons a b x r held more hheld hattach hmore ih =>
    rcases attach_outcome hclass hheld hstores.property with ⟨-, herror⟩ | ⟨-, b', hok, hattached⟩
    · cases hattach.symm.trans herror
    · obtain rfl : b = b' := Except.ok.inj (hattach.symm.trans hok)
      obtain ⟨methods', entries', hclass', hstores'⟩ :=
        stores_of_attached hclass hstores hheld hattached
      obtain ⟨methods'', entries'', hclass'', hstores''⟩ := ih hclass' hstores'
      refine ⟨methods'', entries'', hclass'', ?_⟩
      have hsplit : (held :: more).filterMap Cell.property? =
          held.property?.toList ++ more.filterMap Cell.property? := by cases held <;> rfl
      rw [hsplit, List.foldl_append]
      exact hstores''

end Class

/-- A new class stores the combinations of what is added to it. -/
theorem Additions.stores_insertAll {h : Header Ref} {base : Option QualifiedName}
    {held : List Cell} (hrun : Additions place a held b)
    (hnew : a.read? place = some (.ofClass h [] [] base)) :
    ∃ methods entries, b.read? place = some (.ofClass h methods entries base) ∧
      b.Stores entries (Property.insertAll (held.filterMap Cell.property?)) :=
  hrun.stores hnew rfl

/-- **The properties of a class are those added to it, combined by name.** -/
theorem property_store_merges {h : Header Ref} {base : Option QualifiedName} {held : List Cell}
    (hnew : a.read? place = some (.ofClass h [] [] base)) (hrun : Additions place a held b) :
    ∃ methods entries stored, b.read? place = some (.ofClass h methods entries base) ∧
      b.Stores entries stored ∧
      stored.map Property.name =
        ((held.filterMap Cell.property?).map Property.name).eraseDups ∧
      (∀ q ∈ stored, q.Combines ((held.filterMap Cell.property?).filter (·.name = q.name)) ∧
        ((∀ s, q.header.parent = some s → b.isAlive s = true) →
          b.parent? (.ofProperty q) = q.header.parent)) ∧
      ∀ x y place' h' base' held', x.read? place' = some (.ofClass h' [] [] base') →
        Additions place' x held' y → held'.Perm held →
        ∃ methods' entries' stored', y.read? place' = some (.ofClass h' methods' entries' base') ∧
          y.Stores entries' stored' ∧
          (∀ n, n ∈ stored'.map Property.name ↔ n ∈ stored.map Property.name) ∧
          ∀ q ∈ stored, ∀ q' ∈ stored', q'.name = q.name →
            q'.hasGetter = q.hasGetter ∧ q'.hasSetter = q.hasSetter := by
  obtain ⟨methods, entries, hclass, hstores⟩ := hrun.stores_insertAll hnew
  refine ⟨methods, entries, _, hclass, hstores, Property.names_insertAll _, ?combined, ?reordered⟩
  case combined =>
    intro q hq
    refine ⟨Property.combines_of_mem_insertAll hq, fun halive => ?_⟩
    cases hparent : q.header.parent with
    | none => simp [parent?, Cell.header, hparent]
    | some s => simp [parent?, Cell.header, hparent, halive s hparent]
  case reordered =>
    intro x y place' h' base' held' hnew' hrun' hperm
    obtain ⟨methods', entries', hclass', hstores'⟩ := hrun'.stores_insertAll hnew'
    have hperm := hperm.filterMap Cell.property?
    refine ⟨methods', entries', _, hclass', hstores', ?_, ?_⟩
    · intro n
      rw [Property.names_insertAll, Property.names_insertAll, List.mem_eraseDups,
        List.mem_eraseDups]
      exact (hperm.map Property.name).mem_iff
    · intro q hq q' hq' hname
      have hcombined := Property.combines_of_mem_insertAll hq
      have hcombined' := Property.combines_of_mem_insertAll hq'
      rw [hname] at hcombined'
      have hsame := hperm.filter (·.name = q.name)
      exact ⟨by rw [hcombined.hasGetter, hcombined'.hasGetter, hsame.any_eq],
        by rw [hcombined.hasSetter, hcombined'.hasSetter, hsame.any_eq]⟩

/-- A class, and two accessors and a method made for it. -/
def kettle : Arena where
  cells := [
    .ofClass { name := "Kettle" } [] [] none,
    .ofProperty { header := { name := "heat", parent := some 0 }, hasGetter := true },
    .ofMethod { header := { name := "boil", parent := some 0 } },
    .ofProperty {
      header := { name := "heat", parent := some 0, visibility := .prot }, hasSetter := true
      type := some (.single "Degrees") }]
  handles := [("kettle", 0)]

theorem property_store_merges_kettle :
    kettle.read? 0 = some (.ofClass { name := "Kettle" } [] [] none) ∧
    ∃ b, Additions 0 kettle kettle.cells.tail b ∧
      ∃ methods entries stored,
        b.read? 0 = some (.ofClass { name := "Kettle" } methods entries none) ∧
        b.Stores entries stored ∧ stored.map Property.name = ["heat"] ∧
        ∀ q ∈ stored, q.header.visibility = .pub ∧ q.hasGetter = true ∧ q.hasSetter = true ∧
          q.type = some (.single "Degrees") := by
  have hnew : kettle.read? 0 = some (.ofClass { name := "Kettle" } [] [] none) := rfl
  have hrun : ∃ b, Additions 0 kettle kettle.cells.tail b :=
    ⟨_, .cons (r := 1) rfl rfl (.cons (r := 2) rfl rfl (.cons (r := 3) rfl rfl (.nil _)))⟩
  obtain ⟨b, hrun⟩ := hrun
  obtain ⟨methods, entries, stored, hclass, hstores, hnames, hcombined, -⟩ :=
    property_store_merges hnew hrun
  refine ⟨hnew, b, hrun, methods, entries, stored, hclass, hstores, hnames, fun q hq => ?_⟩
  have hname : q.name = "heat" := by
    have hmem : q.name ∈ stored.map Property.name := List.mem_map.mpr ⟨q, hq, rfl⟩
    rw [hnames] at hmem
    exact List.mem_singleton.mp hmem
  obtain ⟨hcombined, -⟩ := hcombined q hq
  rw [hname] at hcombined
  have hheader := Option.some.inj hcombined.header
  exact ⟨hheader ▸ rfl, hcombined.hasGetter, hcombined.hasSetter, hcombined.type⟩

end Arena

end ClassDiagram
