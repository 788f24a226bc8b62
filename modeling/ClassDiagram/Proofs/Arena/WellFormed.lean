import ClassDiagram.Arena.Session
import ClassDiagram.Proofs.Dictionary
import ClassDiagram.Proofs.Log

/-!
Arenas that runs of steps lead to. Parents and children are cells of the arena, and a class stores
each property under its name (`WellFormed`). `Attached` lists what attaching an element can do;
`attach_outcome` says that it does one of these, or fails because of the kinds. `Performed` lists
what a step can do, for all proofs about steps. Every step keeps the kinds and headers of all
elements (`Keeps`), and the arena well-formed (`wellFormed_step`); so the arena behind a run is
well-formed (`wellFormed_behind`).
-/

namespace ClassDiagram

namespace Cell

/-- The properties that a class stores, by name. -/
def entries : Cell → Dictionary Ref
  | ofClass _ _ properties _ => properties
  | _ => []

/-- A container with an element of a kind behind the others of that kind. -/
def push (c : Cell) (k : Kind) (r : Ref) : Cell :=
  match c, k with
  | ofModule h path modules classes methods dependencies, .moduleKind =>
    ofModule h path (modules ++ [r]) classes methods dependencies
  | ofModule h path modules classes methods dependencies, .classKind =>
    ofModule h path modules (classes ++ [r]) methods dependencies
  | ofModule h path modules classes methods dependencies, .methodKind =>
    ofModule h path modules classes (methods ++ [r]) dependencies
  | ofModule h path modules classes methods dependencies, .importKind =>
    ofModule h path modules classes methods (dependencies ++ [r])
  | ofClass h methods properties base, .methodKind => ofClass h (methods ++ [r]) properties base
  | c, _ => c

variable {c : Cell} {k : Kind} {r s : Ref}

@[simp] theorem kind_push : (c.push k r).kind = c.kind := by
  cases c <;> cases k <;> rfl

@[simp] theorem header_push : (c.push k r).header = c.header := by
  cases c <;> cases k <;> rfl

@[simp] theorem entries_push : (c.push k r).entries = c.entries := by
  cases c <;> cases k <;> rfl

theorem mem_children_ofClass {h : Header Ref} {methods : List Ref} {properties : Dictionary Ref}
    {base : Option QualifiedName} :
    s ∈ (ofClass h methods properties base).children ↔ s ∈ methods ∨ s ∈ properties.values :=
  List.mem_append

theorem mem_children_push (hk : k ≠ .propertyKind) (h : c.kind.holds k = true) :
    s ∈ (c.push k r).children ↔ s ∈ c.children ∨ s = r := by
  cases c <;> cases k <;> simp_all [push, children, Kind.holds, kind] <;> tauto

end Cell

namespace Arena

variable {a b : Arena} {parent child r s : Ref} {holder held c d : Cell}

/-! ## Reading -/

theorem lt_of_read? (h : a.read? r = some c) : r < a.cells.length :=
  (List.getElem?_eq_some_iff.mp h).1

theorem exists_read? (h : r < a.cells.length) : ∃ c, a.read? r = some c :=
  ⟨_, List.getElem?_eq_getElem h⟩

theorem read?_allocate (h : a.read? r = some c) : (a.allocate d).1.read? r = some c :=
  (List.getElem?_append_left (lt_of_read? h)).trans h

theorem read?_allocate_new : (a.allocate c).1.read? a.cells.length = some c :=
  List.getElem?_concat_length

theorem of_read?_allocate (h : (a.allocate d).1.read? r = some c) :
    a.read? r = some c ∨ r = a.cells.length ∧ c = d := by
  by_cases hr : r < a.cells.length
  · exact .inl ((List.getElem?_append_left hr).symm.trans h)
  · have hlength : (a.cells ++ [d]).length = a.cells.length + 1 := List.length_append
    have hlt : r < a.cells.length + 1 := hlength ▸ lt_of_read? h
    have hr : r = a.cells.length := Nat.le_antisymm (Nat.lt_succ_iff.mp hlt) (Nat.not_lt.mp hr)
    rw [hr, read?_allocate_new] at h
    exact .inr ⟨hr, (Option.some.inj h).symm⟩

theorem read?_write (h : r < a.cells.length) : (a.write r d).read? r = some d :=
  List.getElem?_set_self h

theorem read?_write_of_ne (h : s ≠ r) : (a.write r d).read? s = a.read? s :=
  List.getElem?_set_ne h.symm

/-- Each element of an arena is in another one, of the same kind and with the same header. -/
def Keeps (a b : Arena) : Prop :=
  ∀ r c, a.read? r = some c → ∃ d, b.read? r = some d ∧ d.kind = c.kind ∧ d.header = c.header

theorem Keeps.refl (a : Arena) : a.Keeps a := fun _ c h => ⟨c, h, rfl, rfl⟩

theorem Keeps.trans {x : Arena} (hab : a.Keeps b) (hbx : b.Keeps x) : a.Keeps x := by
  intro r c hr
  obtain ⟨d, hd, hkind, hheader⟩ := hab r c hr
  obtain ⟨e, he, hkind', hheader'⟩ := hbx r d hd
  exact ⟨e, he, hkind'.trans hkind, hheader'.trans hheader⟩

theorem Keeps.lt (h : a.Keeps b) (hr : r < a.cells.length) : r < b.cells.length := by
  obtain ⟨c, hc⟩ := exists_read? hr
  obtain ⟨d, hd, -, -⟩ := h r c hc
  exact lt_of_read? hd

theorem keeps_allocate (a : Arena) (c : Cell) : a.Keeps (a.allocate c).1 :=
  fun _ d hd => ⟨d, read?_allocate hd, rfl, rfl⟩

theorem keeps_write (hc : a.read? r = some c) (hkind : d.kind = c.kind)
    (hheader : d.header = c.header) : a.Keeps (a.write r d) := by
  intro s e he
  by_cases hs : s = r
  · subst hs
    obtain rfl : c = e := Option.some.inj (hc.symm.trans he)
    exact ⟨d, read?_write (lt_of_read? hc), hkind, hheader⟩
  · exact ⟨e, (read?_write_of_ne hs).trans he, rfl, rfl⟩

theorem keeps_bind {id : String} : a.Keeps (a.bind id r) := fun _ c hc => ⟨c, hc, rfl, rfl⟩

theorem keeps_drop {id : String} : a.Keeps (a.drop id) := fun _ c hc => ⟨c, hc, rfl, rfl⟩

end Arena

/-! ## Well-formed arenas -/

/-- What an element refers to is in the arena, and a class stores properties under their names. -/
structure Cell.Sound (a : Arena) (c : Cell) : Prop where
  parent : ∀ s, c.header.parent = some s → s < a.cells.length
  children : ∀ s ∈ c.children, s < a.cells.length
  entries : ∀ entry ∈ c.entries, ∃ p, a.read? entry.2 = some (.ofProperty p) ∧ p.name = entry.1
  distinct : c.entries.keys.Nodup

namespace Cell.Sound

variable {a : Arena} {c : Cell}

theorem property (hc : c.Sound a) :
    ∀ entry ∈ c.entries, ∃ p, a.read? entry.2 = some (.ofProperty p) := by
  intro entry hentry
  obtain ⟨p, hp, -⟩ := hc.entries entry hentry
  exact ⟨p, hp⟩

theorem name_eq (hc : c.Sound a) {key : String} {r : Ref} {p : Property Ref}
    (hentry : (key, r) ∈ c.entries) (hp : a.read? r = some (.ofProperty p)) : p.name = key := by
  obtain ⟨q, hq, hname⟩ := hc.entries _ hentry
  cases hp.symm.trans hq
  exact hname

end Cell.Sound

structure Arena.WellFormed (a : Arena) : Prop where
  cells : ∀ r c, a.read? r = some c → c.Sound a
  handles : ∀ r ∈ a.handles.values, r < a.cells.length

namespace Arena

variable {a b : Arena} {parent child r s : Ref} {holder held c d : Cell}

theorem Keeps.property (h : a.Keeps b) {p : Property Ref} (hp : a.read? r = some (.ofProperty p)) :
    ∃ q, b.read? r = some (.ofProperty q) ∧ q.name = p.name := by
  obtain ⟨d, hd, hkind, hheader⟩ := h r _ hp
  cases d with
  | ofProperty q => exact ⟨q, hd, congrArg Header.name hheader⟩
  | _ => cases hkind

theorem Keeps.sound (h : a.Keeps b) (hc : c.Sound a) : c.Sound b where
  parent s hs := h.lt (hc.parent s hs)
  children s hs := h.lt (hc.children s hs)
  entries entry hentry := by
    obtain ⟨p, hp, hname⟩ := hc.entries entry hentry
    obtain ⟨q, hq, hkept⟩ := h.property hp
    exact ⟨q, hq, hkept.trans hname⟩
  distinct := hc.distinct

theorem sound_congr (hc : c.Sound a) (hheader : d.header = c.header)
    (hentries : d.entries = c.entries) (hchildren : ∀ s ∈ d.children, s < a.cells.length) :
    d.Sound a where
  parent := hheader ▸ hc.parent
  children := hchildren
  entries := hentries ▸ hc.entries
  distinct := hentries ▸ hc.distinct

/-- An element without children is sound if its parent is there. -/
theorem sound_of_empty (hparent : ∀ s, c.header.parent = some s → s < a.cells.length)
    (hchildren : c.children = []) (hentries : c.entries = []) : c.Sound a where
  parent := hparent
  children := hchildren ▸ List.forall_mem_nil _
  entries := hentries ▸ List.forall_mem_nil _
  distinct := hentries ▸ List.nodup_nil

theorem WellFormed.allocate (ha : a.WellFormed) (hc : c.Sound a) : (a.allocate c).1.WellFormed where
  cells r d hd := by
    refine (keeps_allocate a c).sound ?_
    rcases of_read?_allocate hd with hd | ⟨-, rfl⟩
    · exact ha.cells r d hd
    · exact hc
  handles r hr := (keeps_allocate a c).lt (ha.handles r hr)

theorem WellFormed.write (ha : a.WellFormed) (hc : a.read? r = some c) (hkind : d.kind = c.kind)
    (hheader : d.header = c.header) (hd : d.Sound a) : (a.write r d).WellFormed where
  cells s e he := by
    refine (keeps_write hc hkind hheader).sound ?_
    by_cases hs : s = r
    · subst hs
      obtain rfl : d = e := Option.some.inj ((read?_write (lt_of_read? hc)).symm.trans he)
      exact hd
    · exact ha.cells s e ((read?_write_of_ne hs).symm.trans he)
  handles s hs := (keeps_write hc hkind hheader).lt (ha.handles s hs)

theorem WellFormed.bind (ha : a.WellFormed) (hr : r < a.cells.length) (id : String) :
    (a.bind id r).WellFormed where
  cells s c hc := keeps_bind.sound (ha.cells s c hc)
  handles s hs := by
    obtain ⟨⟨key, value⟩, hentry, rfl⟩ := List.mem_map.mp hs
    rcases Dictionary.mem_put hentry with hentry | hentry
    · cases hentry
      exact hr
    · exact ha.handles _ (List.mem_map.mpr ⟨_, hentry, rfl⟩)

theorem WellFormed.drop (ha : a.WellFormed) (id : String) : (a.drop id).WellFormed where
  cells s c hc := keeps_drop.sound (ha.cells s c hc)
  handles s hs := by
    obtain ⟨entry, hentry, rfl⟩ := List.mem_map.mp hs
    exact ha.handles _ (List.mem_map.mpr ⟨entry, List.mem_of_mem_filter hentry, rfl⟩)

/-! ## Attaching -/

/-- What attaching an element can leave behind. -/
inductive Attached (a : Arena) (parent child : Ref) : Arena → Prop
  | pushed {holder held : Cell} (hholder : a.read? parent = some holder)
      (hheld : a.read? child = some held) (hkind : held.kind ≠ .propertyKind)
      (hholds : holder.kind.holds held.kind = true) :
      Attached a parent child (a.write parent (holder.push held.kind child))
  | stored {h : Header Ref} {methods : List Ref} {properties : Dictionary Ref}
      {base : Option QualifiedName} {p : Property Ref}
      (hholder : a.read? parent = some (.ofClass h methods properties base))
      (hheld : a.read? child = some (.ofProperty p)) (hnew : p.name ∉ properties.keys) :
      Attached a parent child
        (a.write parent (.ofClass h methods (properties ++ [(p.name, child)]) base))
  | merged {h : Header Ref} {methods : List Ref} {before after : Dictionary Ref}
      {base : Option QualifiedName} {p first : Property Ref} {q : Ref}
      (hholder : a.read? parent = some (.ofClass h methods (before ++ (p.name, q) :: after) base))
      (hheld : a.read? child = some (.ofProperty p)) (hfirst : a.read? q = some (.ofProperty first))
      (hbefore : p.name ∉ before.keys) :
      Attached a parent child ((a.allocate (.ofProperty (first.merge p))).1.write parent
        (.ofClass h methods (before ++ (p.name, a.cells.length) :: after) base))

theorem attach_property {h : Header Ref} {methods : List Ref} {properties : Dictionary Ref}
    {base : Option QualifiedName} {p : Property Ref}
    (hholder : a.read? parent = some (.ofClass h methods properties base))
    (hheld : a.read? child = some (.ofProperty p))
    (hentries : ∀ entry ∈ properties, ∃ q, a.read? entry.2 = some (.ofProperty q)) :
    ∃ b, a.attach parent child = .ok b ∧ a.Attached parent child b := by
  rw [attach, hholder, hheld]
  cases hentry : properties.get? p.name with
  | none =>
    have hnew := Dictionary.get?_eq_none_iff.mp hentry
    refine ⟨_, ?_, .stored hholder hheld hnew⟩
    simp only [hentry, Dictionary.put_of_not_mem hnew]
  | some q =>
    obtain ⟨before, after, rfl, hbefore⟩ := Dictionary.exists_append_of_get? hentry
    obtain ⟨first, hfirst⟩ := hentries (p.name, q) (by simp)
    refine ⟨_, ?_, .merged hholder hheld hfirst hbefore⟩
    simp only [hentry, Option.bind_some, hfirst, Dictionary.put_append hbefore, allocate]

/-- Attaching fails just because of the kinds. -/
theorem attach_outcome (hholder : a.read? parent = some holder) (hheld : a.read? child = some held)
    (hentries : ∀ entry ∈ holder.entries, ∃ p, a.read? entry.2 = some (.ofProperty p)) :
    (holder.kind.holds held.kind = false ∧
      a.attach parent child = .error (.unsupported held.kind holder.kind)) ∨
    (holder.kind.holds held.kind = true ∧
      ∃ b, a.attach parent child = .ok b ∧ a.Attached parent child b) := by
  by_cases hkind : held.kind = .propertyKind
  · cases held with
    | ofProperty p =>
      cases holder with
      | ofClass => exact .inr ⟨rfl, attach_property hholder hheld hentries⟩
      | _ =>
        left
        rw [attach, hholder, hheld]
        exact ⟨rfl, rfl⟩
    | _ => cases hkind
  · have hattach : a.attach parent child = if holder.kind.holds held.kind then
        .ok (a.write parent (holder.push held.kind child))
        else .error (.unsupported held.kind holder.kind) := by
      rw [attach, hholder, hheld]
      cases holder <;> cases held <;> first | rfl | exact absurd rfl hkind
    cases hholds : holder.kind.holds held.kind with
    | false =>
      rw [hattach, hholds]
      exact .inl ⟨rfl, rfl⟩
    | true =>
      rw [hattach, hholds]
      exact .inr ⟨rfl, _, rfl, .pushed hholder hheld hkind hholds⟩

theorem attach_of_missing (h : a.read? parent = none ∨ a.read? child = none) :
    a.attach parent child = .ok a := by
  unfold attach
  split
  · rename_i hholder hheld
    rcases h with h | h
    · rw [h] at hholder
      cases hholder
    · rw [h] at hheld
      cases hheld
  · rfl

theorem attached_of_attach (ha : a.WellFormed) (h : a.attach parent child = .ok b) :
    b = a ∨ a.Attached parent child b := by
  cases hholder : a.read? parent with
  | none => exact .inl (Except.ok.inj (h.symm.trans (attach_of_missing (.inl hholder))))
  | some holder =>
    cases hheld : a.read? child with
    | none => exact .inl (Except.ok.inj (h.symm.trans (attach_of_missing (.inr hheld))))
    | some held =>
      rcases attach_outcome hholder hheld (ha.cells _ _ hholder).property with
        ⟨-, herror⟩ | ⟨-, b', hok, hattached⟩
      · cases h.symm.trans herror
      · obtain rfl : b = b' := Except.ok.inj (h.symm.trans hok)
        exact .inr hattached

theorem Attached.keeps (h : a.Attached parent child b) : a.Keeps b := by
  cases h with
  | pushed hholder hheld hkind hholds =>
    exact keeps_write hholder Cell.kind_push Cell.header_push
  | stored hholder hheld hnew => exact keeps_write hholder rfl rfl
  | merged hholder hheld hfirst hbefore =>
    exact (keeps_allocate a _).trans (keeps_write (read?_allocate hholder) rfl rfl)

theorem Attached.wellFormed (h : a.Attached parent child b) (ha : a.WellFormed) : b.WellFormed := by
  cases h with
  | @pushed holder held hholder hheld hkind hholds =>
    have hsound := ha.cells _ _ hholder
    refine ha.write hholder Cell.kind_push Cell.header_push
      (sound_congr hsound Cell.header_push Cell.entries_push fun s hs => ?_)
    rcases (Cell.mem_children_push hkind hholds).mp hs with hs | rfl
    · exact hsound.children s hs
    · exact lt_of_read? hheld
  | @stored h methods properties base p hholder hheld hnew =>
    have hsound := ha.cells _ _ hholder
    refine ha.write hholder rfl rfl ⟨hsound.parent, ?children, ?entries, ?distinct⟩
    case children =>
      intro s hs
      rw [Cell.mem_children_ofClass, Dictionary.values_append, List.mem_append, ← or_assoc,
        ← Cell.mem_children_ofClass] at hs
      rcases hs with hs | hs
      · exact hsound.children s hs
      · exact List.mem_singleton.mp hs ▸ lt_of_read? hheld
    case entries =>
      exact List.forall_mem_append.mpr
        ⟨hsound.entries, List.forall_mem_singleton.mpr ⟨p, hheld, rfl⟩⟩
    case distinct =>
      show (Dictionary.keys (properties ++ [(p.name, child)])).Nodup
      rw [Dictionary.keys_append]
      exact List.concat_eq_append ▸ hsound.distinct.concat hnew
  | @merged h methods before after base p first q hholder hheld hfirst hbefore =>
    have hsound := ha.cells _ _ hholder
    have hname : first.name = p.name := hsound.name_eq (by simp [Cell.entries]) hfirst
    have hkeeps := keeps_allocate a (.ofProperty (first.merge p))
    have hnew : Cell.Sound a (.ofProperty (first.merge p)) :=
      sound_of_empty (ha.cells _ _ hfirst).parent rfl rfl
    have hkept := hkeeps.sound hsound
    refine (ha.allocate hnew).write (read?_allocate hholder) rfl rfl
      ⟨hkept.parent, ?children', ?entries', ?distinct'⟩
    case children' =>
      intro s hs
      have hs : s = a.cells.length ∨ s ∈ (Cell.ofClass h methods (before ++ (p.name, q) :: after)
          base).children := by
        simp only [Cell.mem_children_ofClass, Dictionary.values_append, Dictionary.values_cons,
          List.mem_append, List.mem_cons] at hs ⊢
        tauto
      rcases hs with rfl | hs
      · exact lt_of_read? read?_allocate_new
      · exact hkept.children s hs
    case entries' =>
      intro entry hentry
      rcases List.mem_append.mp hentry with hentry | hentry
      · exact hkept.entries entry (List.mem_append_left _ hentry)
      · rcases List.mem_cons.mp hentry with rfl | hentry
        · exact ⟨first.merge p, read?_allocate_new, hname⟩
        · exact hkept.entries entry (List.mem_append_right _ (List.mem_cons_of_mem _ hentry))
    case distinct' =>
      have hkeys : Dictionary.keys (before ++ (p.name, a.cells.length) :: after) =
          Dictionary.keys (before ++ (p.name, q) :: after) := by simp
      exact hkeys ▸ hkept.distinct

theorem wellFormed_attach (ha : a.WellFormed) (h : a.attach parent child = .ok b) :
    b.WellFormed ∧ a.Keeps b := by
  rcases attached_of_attach ha h with rfl | h
  · exact ⟨ha, Keeps.refl b⟩
  · exact ⟨h.wellFormed ha, h.keeps⟩

/-! ## Steps -/

theorem cell_ok {o : ElementOutline} {parent : Option Ref} (h : o.cell parent = .ok c) :
    c.header.parent = parent ∧ c.children = [] ∧ c.entries = [] := by
  obtain ⟨visibility, -, h⟩ := except_bind_eq_ok.mp h
  obtain ⟨lifetime, -, h⟩ := except_bind_eq_ok.mp h
  cases hkind : o.kind with
  | moduleKind | importKind =>
    rw [hkind] at h
    cases h
    exact ⟨rfl, rfl, rfl⟩
  | classKind | propertyKind =>
    rw [hkind] at h
    obtain ⟨q, -, h⟩ := except_bind_eq_ok.mp h
    cases h
    exact ⟨rfl, rfl, rfl⟩
  | methodKind =>
    rw [hkind] at h
    obtain ⟨returnType, -, h⟩ := except_bind_eq_ok.mp h
    obtain ⟨argumentTypes, -, h⟩ := except_bind_eq_ok.mp h
    cases h
    exact ⟨rfl, rfl, rfl⟩

theorem wellFormed_build {a : Arena} {parent : Option Ref} {o : ElementOutline}
    (ha : a.WellFormed) (hparent : ∀ s, parent = some s → s < a.cells.length)
    (h : a.build parent o = .ok (b, r)) : b.WellFormed ∧ a.Keeps b ∧ r < b.cells.length := by
  -- the elements of an outline are built and attached to a parent that is there already
  induction a, parent, o using Arena.build.induct
    (motive_1 := fun a parent os => ∀ b, a.WellFormed → parent < a.cells.length →
      build.buildChildren a parent os = .ok b → b.WellFormed ∧ a.Keeps b) generalizing b r with
  | case1 a parent kind name visibility lifetime path base returnType argumentTypes hasGetter
      hasSetter type children ih =>
    rw [build] at h
    obtain ⟨c, hc, h⟩ := except_bind_eq_ok.mp h
    obtain ⟨d, hd, h⟩ := except_bind_eq_ok.mp h
    cases h
    obtain ⟨hcell, hchildren, hentries⟩ := cell_ok hc
    have hallocated := ha.allocate (sound_of_empty (hcell ▸ hparent) hchildren hentries)
    obtain ⟨hb, hkeeps⟩ := ih _ _ b hallocated (lt_of_read? read?_allocate_new) hd
    exact ⟨hb, (keeps_allocate a c).trans hkeeps, hkeeps.lt (lt_of_read? read?_allocate_new)⟩
  | case2 a parent b ha hparent h =>
    cases h
    exact ⟨ha, Keeps.refl a⟩
  | case3 a parent o os ih ihs b ha hparent h =>
    obtain ⟨⟨x, r⟩, hx, h⟩ := except_bind_eq_ok.mp h
    obtain ⟨y, hy, h⟩ := except_bind_eq_ok.mp h
    have hhere : ∀ s, some parent = some s → s < a.cells.length :=
      fun s hs => Option.some.inj hs ▸ hparent
    obtain ⟨hxs, hax, -⟩ := ih ha hhere hx
    obtain ⟨hys, hxy⟩ := wellFormed_attach hxs hy
    obtain ⟨hb, hyb⟩ := ihs y b hys (hxy.lt (hax.lt hparent)) h
    exact ⟨hb, (hax.trans hxy).trans hyb⟩

/-- A merge makes one new property, with the header of the first element. -/
theorem mergeCells_ok (h : a.mergeCells c d = .ok (b, r)) :
    ∃ p : Property Ref, p.header = c.header ∧ (b, r) = a.allocate (.ofProperty p) := by
  unfold mergeCells at h
  split at h
  · rename_i p q
    cases h
    exact ⟨p.merge q, rfl, rfl⟩
  · split at h
    · cases h
    · split at h
      · cases h
      · split at h
        · cases h
        · cases h
          exact ⟨_, rfl, rfl⟩
  · cases h

theorem wellFormed_mergeCells (ha : a.WellFormed) (hc : c.Sound a)
    (h : a.mergeCells c d = .ok (b, r)) : b.WellFormed ∧ a.Keeps b ∧ r < b.cells.length := by
  obtain ⟨p, hp, hallocate⟩ := mergeCells_ok h
  cases hallocate
  have hparent : ∀ s, p.header.parent = some s → s < a.cells.length := hp ▸ hc.parent
  have hsound : (Cell.ofProperty p).Sound a := sound_of_empty hparent rfl rfl
  exact ⟨ha.allocate hsound, keeps_allocate a _, lt_of_read? read?_allocate_new⟩

theorem cellAt_ok {id : String} (h : a.cellAt id = .ok (r, c)) : a.read? r = some c := by
  obtain ⟨s, -, h⟩ := except_bind_eq_ok.mp h
  split at h
  · rename_i hs
    cases h
    exact hs
  · cases h

theorem reply_ok {id : String} {reply : Reply} (h : a.reply id = .ok (b, reply)) : b = a := by
  obtain ⟨e, -, h⟩ := except_bind_eq_ok.mp h
  cases h
  rfl

theorem withField_same (c : Cell) (field : String) (value : CheckedValue) :
    (c.withField field value).kind = c.kind ∧ (c.withField field value).header = c.header ∧
      (c.withField field value).entries = c.entries ∧
      (c.withField field value).children = c.children := by
  unfold Cell.withField
  split <;> exact ⟨rfl, rfl, rfl, rfl⟩

theorem mem_children_of_pick {collection : String} {index : Int}
    (h : pick c collection index = .ok r) : r ∈ c.children := by
  obtain ⟨items, hitems, h⟩ := except_bind_eq_ok.mp h
  split at h
  · rename_i s hs
    cases h
    obtain ⟨place, -, hplace⟩ := Option.bind_eq_some_iff.mp hs
    have hmem := List.mem_of_getElem? hplace
    unfold Cell.collection? at hitems
    split at hitems <;> cases hitems <;> simp [Cell.children, hmem]
  · cases h

/-! ## Steps -/

/-- What a step can do to an arena. -/
inductive Performed (a : Arena) : Step → Arena → Prop
  | created {id : String} {name : Option String} {outline : ElementOutline} {place : Option Ref}
      {x : Arena} {r : Ref} (hplace : name.map a.handles.get? = place.map some)
      (hx : a.build place outline = .ok (x, r)) :
      Performed a (.create id name outline) (x.bind id r)
  | attached {name other : String} {p q : Ref} {b : Arena} (hp : a.handles.get? name = some p)
      (hq : a.handles.get? other = some q) (hb : a.attach p q = .ok b) :
      Performed a (.attach name other) b
  | merged {id name other : String} {p : Ref} {c : Cell} {q : Property Ref}
      (hp : a.handles.get? name = some p) (hc : a.read? p = some c)
      (hheader : q.header = c.header) : Performed a (.merge id name other)
        ((a.allocate (.ofProperty q)).1.bind id a.cells.length)
  | set {id field : String} {value : FieldValue} {p : Ref} {c d : Cell}
      (hc : a.read? p = some c) (hkind : d.kind = c.kind) (hheader : d.header = c.header)
      (hentries : d.entries = c.entries) (hchildren : d.children = c.children) :
      Performed a (.set id field value) (a.write p d)
  | picked {id name collection : String} {index : Int} {p r : Ref} {c : Cell}
      (hp : a.handles.get? name = some p) (hc : a.read? p = some c) (hr : r ∈ c.children) :
      Performed a (.pick id name collection index) (a.bind id r)
  | dropped {id : String} : Performed a (.drop id) (a.drop id)
  | same {s : Step} : Performed a s a

theorem lookUp_eq_ok {id : String} (h : a.lookUp id = .ok r) : a.handles.get? id = some r := by
  unfold lookUp at h
  split at h
  · rename_i hr
    cases h
    exact hr
  · cases h

theorem get?_of_place {name : Option String} {place : Option Ref}
    (h : name.mapM a.lookUp = .ok place) : name.map a.handles.get? = place.map some := by
  cases name with
  | none =>
    cases h
    rfl
  | some name =>
    obtain ⟨p, hp, h⟩ := except_bind_eq_ok.mp h
    cases h
    exact congrArg some (lookUp_eq_ok hp)

theorem get?_of_cellAt {id : String} (h : a.cellAt id = .ok (r, c)) :
    a.handles.get? id = some r := by
  obtain ⟨s, hs, h⟩ := except_bind_eq_ok.mp h
  split at h
  · cases h
    exact lookUp_eq_ok hs
  · cases h

theorem performed_of_set {id field : String} {value : FieldValue}
    (h : a.set r field value = .ok b) : Performed a (.set id field value) b := by
  obtain ⟨checked, -, h⟩ := except_bind_eq_ok.mp h
  split at h
  · cases h
    exact .same
  · rename_i c hc
    split at h
    · cases h
    · cases h
      obtain ⟨hkind, hheader, hentries, hchildren⟩ := withField_same c field checked
      exact .set hc hkind hheader hentries hchildren

theorem performed_of_perform {s : Step} {reply : Reply} (h : a.perform s = .ok (b, reply)) :
    Performed a s b := by
  cases s with
  | create id name outline =>
    obtain ⟨place, hplace, h⟩ := except_bind_eq_ok.mp h
    obtain ⟨⟨x, r⟩, hx, h⟩ := except_bind_eq_ok.mp h
    obtain rfl := reply_ok h
    exact .created (get?_of_place hplace) hx
  | attach name other =>
    obtain ⟨q, hq, h⟩ := except_bind_eq_ok.mp h
    obtain ⟨p, hp, h⟩ := except_bind_eq_ok.mp h
    obtain ⟨x, hx, h⟩ := except_bind_eq_ok.mp h
    obtain rfl := reply_ok h
    exact .attached (lookUp_eq_ok hp) (lookUp_eq_ok hq) hx
  | merge id name other =>
    obtain ⟨⟨p, c⟩, hp, h⟩ := except_bind_eq_ok.mp h
    obtain ⟨⟨q, d⟩, -, h⟩ := except_bind_eq_ok.mp h
    obtain ⟨⟨x, r⟩, hx, h⟩ := except_bind_eq_ok.mp h
    obtain rfl := reply_ok h
    obtain ⟨product, hheader, hallocate⟩ := mergeCells_ok hx
    cases hallocate
    exact .merged (get?_of_cellAt hp) (cellAt_ok hp) hheader
  | set id field value =>
    obtain ⟨r, -, h⟩ := except_bind_eq_ok.mp h
    obtain ⟨x, hx, h⟩ := except_bind_eq_ok.mp h
    obtain rfl := reply_ok h
    exact performed_of_set hx
  | pick id name collection index =>
    obtain ⟨⟨p, c⟩, hp, h⟩ := except_bind_eq_ok.mp h
    obtain ⟨r, hr, h⟩ := except_bind_eq_ok.mp h
    obtain rfl := reply_ok h
    exact .picked (get?_of_cellAt hp) (cellAt_ok hp) (mem_children_of_pick hr)
  | drop id =>
    obtain ⟨r, -, h⟩ := except_bind_eq_ok.mp h
    cases h
    exact .dropped
  | display id =>
    obtain rfl := reply_ok h
    exact .same
  | line id =>
    obtain ⟨e, -, h⟩ := except_bind_eq_ok.mp h
    obtain ⟨text, -, h⟩ := except_bind_eq_ok.mp h
    cases h
    exact .same
  | shown id | shownName parts =>
    obtain ⟨x, -, h⟩ := except_bind_eq_ok.mp h
    cases h
    exact .same
  | draw ids dependenciesOnly =>
    obtain ⟨elements, -, h⟩ := except_bind_eq_ok.mp h
    obtain ⟨modules, -, h⟩ := except_bind_eq_ok.mp h
    cases h
    exact .same

theorem performed_step (a : Arena) (s : Step) : Performed a s (a.step s).1 := by
  unfold step
  cases h : a.perform s with
  | ok result => exact performed_of_perform h
  | error e => exact .same

theorem lt_of_get? {id : String} (ha : a.WellFormed) (h : a.handles.get? id = some r) :
    r < a.cells.length := by
  obtain ⟨before, after, hsplit, -⟩ := Dictionary.exists_append_of_get? h
  exact ha.handles r (hsplit ▸ by simp)

theorem lt_of_place {name : Option String} {place : Option Ref} (ha : a.WellFormed)
    (h : name.map a.handles.get? = place.map some) : ∀ s, place = some s → s < a.cells.length := by
  rintro s rfl
  cases name with
  | none => cases h
  | some name => exact lt_of_get? ha (Option.some.inj h)

theorem Performed.wellFormed {s : Step} (h : Performed a s b) (ha : a.WellFormed) :
    b.WellFormed ∧ a.Keeps b := by
  cases h with
  | @created id name outline place x r hplace hx =>
    obtain ⟨hxs, hax, hr⟩ := wellFormed_build ha (lt_of_place ha hplace) hx
    exact ⟨hxs.bind hr id, hax.trans keeps_bind⟩
  | attached hp hq hb => exact wellFormed_attach ha hb
  | @merged id name other p c q hp hc hheader =>
    have hparent : ∀ s, q.header.parent = some s → s < a.cells.length :=
      hheader ▸ (ha.cells p c hc).parent
    have hallocated := ha.allocate (c := .ofProperty q) (sound_of_empty hparent rfl rfl)
    exact ⟨hallocated.bind (lt_of_read? read?_allocate_new) id,
      (keeps_allocate a _).trans keeps_bind⟩
  | @set id field value p c d hc hkind hheader hentries hchildren =>
    have hsound := ha.cells p c hc
    have hset := sound_congr hsound hheader hentries (hchildren ▸ hsound.children)
    exact ⟨ha.write hc hkind hheader hset, keeps_write hc hkind hheader⟩
  | @picked id name collection index p r c hp hc hr =>
    exact ⟨ha.bind ((ha.cells p c hc).children r hr) id, keeps_bind⟩
  | @dropped id => exact ⟨ha.drop id, keeps_drop⟩
  | same => exact ⟨ha, Keeps.refl a⟩

/-- **Every step keeps the arena well-formed, and the kinds and headers of its elements.** -/
theorem wellFormed_step (ha : a.WellFormed) (s : Step) :
    (a.step s).1.WellFormed ∧ a.Keeps (a.step s).1 := (performed_step a s).wellFormed ha

/-! ## Runs -/

/-- The arena behind steps. -/
def behind (a : Arena) (steps : List Step) : Arena := steps.foldl (fun a s => (a.step s).1) a

theorem wellFormed_empty : ({} : Arena).WellFormed where
  cells _ _ h := nomatch h
  handles := List.forall_mem_nil _

/-- **The arena behind a run of steps is well-formed**, and has all elements from before the run. -/
theorem wellFormed_behind (ha : a.WellFormed) (steps : List Step) :
    (a.behind steps).WellFormed ∧ a.Keeps (a.behind steps) := by
  induction steps generalizing a with
  | nil => exact ⟨ha, Keeps.refl a⟩
  | cons s steps ih =>
    obtain ⟨hb, hab⟩ := wellFormed_step ha s
    obtain ⟨hc, hbc⟩ := ih hb
    exact ⟨hc, hab.trans hbc⟩

end Arena

end ClassDiagram
