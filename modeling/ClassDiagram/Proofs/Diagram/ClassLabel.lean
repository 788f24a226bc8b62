import ClassDiagram.Proofs.Diagram.Forest
import ClassDiagram.Proofs.Text.Dotted

/-!
What the label of a class shows. A label is a name and the lines of the members, with bars between
them; a line is a row of fields with blanks between them, some of which can be empty. No name holds
a mark of the label (`Unmarked`), so a field ends at the first mark behind it, and the fields are
read off from the front one by one (`property_ends`, `method_ends`). From this a list of lines
determines what each of its members shows (`lines_determine`), lines of properties differ from lines
of methods (`properties_ne_methods`), and a label determines the name and the members it shows
(`classLabel_eq_iff`).
-/

namespace ClassDiagram.Diagram

/-- A text that is not empty and holds no mark that a label sets apart its parts with. -/
structure Unmarked (name : String) : Prop where
  nonempty : name ≠ ""
  marks : ∀ c ∈ [' ', '\\', '/', '|', '{', '}', '(', ')'], c ∉ name.toList

theorem unmarked_iff {name : String} : Unmarked name ↔
    name ≠ "" ∧ [' ', '\\', '/', '|', '{', '}', '(', ')'].all (· ∉ name.toList) = true := by
  constructor
  · exact fun h => ⟨h.nonempty, List.all_eq_true.mpr fun c hc => decide_eq_true (h.marks c hc)⟩
  · exact fun ⟨h, m⟩ => ⟨h, fun c hc => of_decide_eq_true (List.all_eq_true.mp m c hc)⟩

instance (name : String) : Decidable (Unmarked name) := decidable_of_iff _ unmarked_iff.symm

/-- All names in a label are unmarked. -/
structure UnmarkedClass (c : Class) : Prop where
  name : Unmarked c.name
  properties : ∀ p ∈ c.properties, Unmarked p.name
  methods : ∀ m ∈ c.methods, Unmarked m.header.name

variable {ρ : Type}

/-- Two properties that a label shows alike. -/
structure SameProperty (p q : Property ρ) : Prop where
  visibility : p.header.visibility = q.header.visibility
  lifetime : p.header.lifetime = q.header.lifetime
  getter : p.hasGetter = q.hasGetter
  setter : p.hasSetter = q.hasSetter
  name : p.name = q.name

/-- Two methods that a label shows alike. -/
structure SameMethod (m n : Method ρ) : Prop where
  visibility : m.header.visibility = n.header.visibility
  lifetime : m.header.lifetime = n.header.lifetime
  name : m.header.name = n.header.name

/-! ## Fields -/

/-- A field ends at the first mark behind it. -/
theorem field_ends {d : Char} {a b r s : List Char} (ha : d ∉ a) (hb : d ∉ b)
    (h : a ++ d :: r = b ++ d :: s) : a = b ∧ r = s := by
  induction a generalizing b with
  | nil =>
    cases b with
    | nil => exact ⟨rfl, (List.cons.inj h).2⟩
    | cons y b => exact absurd (List.cons.inj h).1 (List.ne_of_not_mem_cons hb)
  | cons x a ih =>
    cases b with
    | nil => exact absurd (List.cons.inj h).1.symm (List.ne_of_not_mem_cons ha)
    | cons y b =>
      obtain ⟨rfl, hrest⟩ := List.cons.inj h
      obtain ⟨rfl, hends⟩ :=
        ih (List.not_mem_of_not_mem_cons ha) (List.not_mem_of_not_mem_cons hb) hrest
      exact ⟨rfl, hends⟩

/-- A field that ends at one mark is none that ends at another. -/
theorem fields_differ {d e : Char} {a b r s : List Char} (hde : d ≠ e) (ha : e ∉ a) (hb : d ∉ b) :
    a ++ d :: r ≠ b ++ e :: s := by
  induction a generalizing b with
  | nil =>
    cases b with
    | nil => exact fun h => hde (List.cons.inj h).1
    | cons y b => exact fun h => List.ne_of_not_mem_cons hb (List.cons.inj h).1
  | cons x a ih =>
    cases b with
    | nil => exact fun h => List.ne_of_not_mem_cons ha (List.cons.inj h).1.symm
    | cons y b =>
      exact fun h => ih (List.not_mem_of_not_mem_cons ha) (List.not_mem_of_not_mem_cons hb)
        (List.cons.inj h).2

theorem glyph_injective {v w : Visibility} (h : v.glyph.toList = w.glyph.toList) : v = w := by
  cases v <;> cases w <;> first | rfl | exact absurd h (by decide)

theorem mark_injective {l k : Lifetime} (h : l.mark.toList = k.mark.toList) : l = k := by
  cases l <;> cases k <;> first | rfl | exact absurd h (by decide)

theorem not_mem_glyph {d : Char} (hd : d ∈ [' ', '|']) (v : Visibility) : d ∉ v.glyph.toList := by
  rcases List.mem_pair.mp hd with rfl | rfl <;> cases v <;> decide

theorem not_mem_mark {d : Char} (hd : d ∈ [' ', '|']) (l : Lifetime) : d ∉ l.mark.toList := by
  rcases List.mem_pair.mp hd with rfl | rfl <;> cases l <;> decide

/-- The accessors of a property as one field. -/
def accessorField (p : Property ρ) : List Char := ("/".intercalate (Signature.accessors p)).toList

theorem accessorField_injective {p q : Property ρ} (h : accessorField p = accessorField q) :
    p.hasGetter = q.hasGetter ∧ p.hasSetter = q.hasSetter := by
  revert h
  unfold accessorField Signature.accessors
  cases p.hasGetter <;> cases p.hasSetter <;> cases q.hasGetter <;> cases q.hasSetter <;> decide

theorem not_mem_accessorField {d : Char} (hd : d ∈ [' ', '|', '(']) (p : Property ρ) :
    d ∉ accessorField p := by
  simp only [List.mem_cons, List.not_mem_nil, or_false] at hd
  unfold accessorField Signature.accessors
  rcases hd with rfl | rfl | rfl <;> cases p.hasGetter <;> cases p.hasSetter <;> decide

/-! ## Lines -/

/-- The line of a property with its end, in front of more text. -/
theorem property_line (p : Property ρ) (rest : List Char) :
    (Signature.property p ++ lineBreak).toList ++ rest = p.header.visibility.glyph.toList ++ ' ' ::
      (p.header.lifetime.mark.toList ++ ' ' ::
        (accessorField p ++ ' ' :: (p.name.toList ++ '\\' :: 'l' :: rest))) := by
  simp [Signature.property, lineBreak, accessorField]

theorem method_line (h : Header ρ) (rest : List Char) :
    (Signature.method h ++ lineBreak).toList ++ rest = h.visibility.glyph.toList ++ ' ' ::
      (h.lifetime.mark.toList ++ ' ' :: (h.name.toList ++ '(' :: ')' :: '\\' :: 'l' :: rest)) := by
  simp [Signature.method, lineBreak]

/-- At the front of a text, the line of a property ends with its own end. -/
theorem property_ends {p q : Property ρ} (hp : Unmarked p.name) (hq : Unmarked q.name)
    {r s : List Char} (h : (Signature.property p ++ lineBreak).toList ++ r =
      (Signature.property q ++ lineBreak).toList ++ s) : SameProperty p q ∧ r = s := by
  rw [property_line, property_line] at h
  obtain ⟨hglyph, h⟩ := field_ends (not_mem_glyph (by decide) _) (not_mem_glyph (by decide) _) h
  obtain ⟨hmark, h⟩ := field_ends (not_mem_mark (by decide) _) (not_mem_mark (by decide) _) h
  obtain ⟨haccessors, h⟩ :=
    field_ends (not_mem_accessorField (by decide) p) (not_mem_accessorField (by decide) q) h
  obtain ⟨hname, h⟩ := field_ends (hp.marks '\\' (by decide)) (hq.marks '\\' (by decide)) h
  obtain ⟨hgetter, hsetter⟩ := accessorField_injective haccessors
  exact ⟨⟨glyph_injective hglyph, mark_injective hmark, hgetter, hsetter,
    String.toList_injective hname⟩, (List.cons.inj h).2⟩

theorem method_ends {m n : Method ρ} (hm : Unmarked m.header.name) (hn : Unmarked n.header.name)
    {r s : List Char} (h : (Signature.method m.header ++ lineBreak).toList ++ r =
      (Signature.method n.header ++ lineBreak).toList ++ s) : SameMethod m n ∧ r = s := by
  rw [method_line, method_line] at h
  obtain ⟨hglyph, h⟩ := field_ends (not_mem_glyph (by decide) _) (not_mem_glyph (by decide) _) h
  obtain ⟨hmark, h⟩ := field_ends (not_mem_mark (by decide) _) (not_mem_mark (by decide) _) h
  obtain ⟨hname, h⟩ := field_ends (hm.marks '(' (by decide)) (hn.marks '(' (by decide)) h
  refine ⟨⟨glyph_injective hglyph, mark_injective hmark, String.toList_injective hname⟩, ?_⟩
  simpa using h

theorem SameProperty.line {p q : Property ρ} (h : SameProperty p q) :
    Signature.property p = Signature.property q := by
  rw [Signature.property, Signature.property, Signature.accessors, Signature.accessors,
    h.visibility, h.lifetime, h.getter, h.setter, h.name]

theorem SameMethod.line {m n : Method ρ} (h : SameMethod m n) :
    Signature.method m.header = Signature.method n.header := by
  rw [Signature.method, Signature.method, h.visibility, h.lifetime, h.name]

section Lines

variable {α : Type} {visibility : α → Visibility} {line : α → String} {R : α → α → Prop}

theorem toList_combine (visibility : α → Visibility) (line : α → String) (members : List α) :
    (Signature.combine visibility line members).toList =
      (Visibility.sort visibility members).flatMap fun a => (line a ++ lineBreak).toList := by
  rw [Signature.combine, String.toList_join, List.flatMap_map]

/-- Lines that end with their own end come apart one by one. -/
theorem lines_determine {as bs : List α}
    (hline : ∀ a ∈ as, ∀ b ∈ bs, ∀ r s, (line a ++ lineBreak).toList ++ r =
      (line b ++ lineBreak).toList ++ s → R a b ∧ r = s)
    (h : as.flatMap (fun a => (line a ++ lineBreak).toList) =
      bs.flatMap fun b => (line b ++ lineBreak).toList) : List.Forall₂ R as bs := by
  induction as generalizing bs with
  | nil =>
    cases bs with
    | nil => exact .nil
    | cons b bs => simp [lineBreak] at h
  | cons a as ih =>
    cases bs with
    | nil => simp [lineBreak] at h
    | cons b bs =>
      rw [List.flatMap_cons, List.flatMap_cons] at h
      obtain ⟨hab, hrest⟩ := hline a List.mem_cons_self b List.mem_cons_self _ _ h
      refine .cons hab (ih (fun a' ha' b' hb' => ?_) hrest)
      exact hline a' (List.mem_cons_of_mem a ha') b' (List.mem_cons_of_mem b hb')

theorem combine_congr {as bs : List α} (hline : ∀ a b, R a b → line a = line b)
    (h : List.Forall₂ R (Visibility.sort visibility as) (Visibility.sort visibility bs)) :
    Signature.combine visibility line as = Signature.combine visibility line bs := by
  rw [Signature.combine, Signature.combine]
  congr 1
  generalize Visibility.sort visibility as = sorted at h ⊢
  generalize Visibility.sort visibility bs = sorted' at h ⊢
  induction h with
  | nil => rfl
  | cons hab _ ih => rw [List.map_cons, List.map_cons, hline _ _ hab, ih]

end Lines

section Members

variable {ps qs : List (Property ρ)} {ms ns : List (Method ρ)}

/-- The properties of a class in the order of the label, entry by entry like those of another. -/
def SameProperties (ps qs : List (Property ρ)) : Prop :=
  List.Forall₂ SameProperty (Visibility.sort (·.header.visibility) ps)
    (Visibility.sort (·.header.visibility) qs)

def SameMethods (ms ns : List (Method ρ)) : Prop :=
  List.Forall₂ SameMethod (Visibility.sort (·.header.visibility) ms)
    (Visibility.sort (·.header.visibility) ns)

theorem properties_eq_iff (hp : ∀ p ∈ ps, Unmarked p.name) (hq : ∀ q ∈ qs, Unmarked q.name) :
    Signature.properties ps = Signature.properties qs ↔ SameProperties ps qs := by
  refine ⟨fun h => ?_, combine_congr fun _ _ => SameProperty.line⟩
  have hlines := congrArg String.toList h
  rw [Signature.properties, Signature.properties, toList_combine, toList_combine] at hlines
  refine lines_determine (fun p hps q hqs r s => ?_) hlines
  exact property_ends (hp p (Visibility.mem_sort.mp hps)) (hq q (Visibility.mem_sort.mp hqs))

theorem methods_eq_iff (hm : ∀ m ∈ ms, Unmarked m.header.name)
    (hn : ∀ n ∈ ns, Unmarked n.header.name) :
    Signature.methods ms = Signature.methods ns ↔ SameMethods ms ns := by
  refine ⟨fun h => ?_, combine_congr fun _ _ => SameMethod.line⟩
  have hlines := congrArg String.toList h
  rw [Signature.methods, Signature.methods, toList_combine, toList_combine] at hlines
  refine lines_determine (fun m hms n hns r s => ?_) hlines
  exact method_ends (hm m (Visibility.mem_sort.mp hms)) (hn n (Visibility.mem_sort.mp hns))

theorem sort_eq_nil {α : Type} {visibility : α → Visibility} {members : List α} :
    Visibility.sort visibility members = [] ↔ members = [] := by
  simp only [List.eq_nil_iff_forall_not_mem, Visibility.mem_sort]

/-- Where the line of a method has its name, that of a property has its accessors and one field
more. -/
theorem property_ne_method {p : Property ρ} {m : Method ρ} (hm : Unmarked m.header.name)
    (r s : List Char) : (Signature.property p ++ lineBreak).toList ++ r ≠
      (Signature.method m.header ++ lineBreak).toList ++ s := by
  intro h
  rw [property_line, method_line] at h
  obtain ⟨-, h⟩ := field_ends (not_mem_glyph (by decide) _) (not_mem_glyph (by decide) _) h
  obtain ⟨-, h⟩ := field_ends (not_mem_mark (by decide) _) (not_mem_mark (by decide) _) h
  exact fields_differ (by decide) (not_mem_accessorField (by decide) p)
    (hm.marks ' ' (by decide)) h

theorem properties_ne_methods (hps : ps ≠ []) (hm : ∀ m ∈ ms, Unmarked m.header.name) :
    Signature.properties ps ≠ Signature.methods ms := by
  intro h
  have hlines := congrArg String.toList h
  rw [Signature.properties, Signature.methods, toList_combine, toList_combine] at hlines
  cases hp : Visibility.sort (·.header.visibility) ps with
  | nil => exact hps (sort_eq_nil.mp hp)
  | cons p rest =>
    rw [hp, List.flatMap_cons] at hlines
    cases hm' : Visibility.sort (·.header.visibility) ms with
    | nil =>
      rw [hm'] at hlines
      simp [lineBreak] at hlines
    | cons m more =>
      rw [hm', List.flatMap_cons] at hlines
      have hmem : m ∈ ms := Visibility.mem_sort.mp (hm' ▸ List.mem_cons_self)
      exact property_ne_method (hm m hmem) _ _ hlines

theorem bar_not_mem_properties (hp : ∀ p ∈ ps, Unmarked p.name) :
    '|' ∉ (Signature.properties ps).toList := by
  rw [Signature.properties, toList_combine, List.mem_flatMap]
  rintro ⟨p, hps, hbar⟩
  have hname := (hp p (Visibility.mem_sort.mp hps)).marks '|' (by decide)
  have hglyph := not_mem_glyph (d := '|') (by decide) p.header.visibility
  have hmark := not_mem_mark (d := '|') (by decide) p.header.lifetime
  have haccessors := not_mem_accessorField (d := '|') (by decide) p
  rw [← List.append_nil (Signature.property p ++ lineBreak).toList, property_line] at hbar
  simp [hname, hglyph, hmark, haccessors] at hbar

theorem bar_not_mem_methods (hm : ∀ m ∈ ms, Unmarked m.header.name) :
    '|' ∉ (Signature.methods ms).toList := by
  rw [Signature.methods, toList_combine, List.mem_flatMap]
  rintro ⟨m, hms, hbar⟩
  have hname := (hm m (Visibility.mem_sort.mp hms)).marks '|' (by decide)
  have hglyph := not_mem_glyph (d := '|') (by decide) m.header.visibility
  have hmark := not_mem_mark (d := '|') (by decide) m.header.lifetime
  rw [← List.append_nil (Signature.method m.header ++ lineBreak).toList, method_line] at hbar
  simp [hname, hglyph, hmark] at hbar

end Members

/-! ## Labels -/

/-- The parts of a label: the name, then the lines of the properties and those of the methods, where
there are any. -/
def compartments (c : Class) : List String :=
  c.name :: ((if c.properties = [] then [] else [Signature.properties c.properties]) ++
    if c.methods = [] then [] else [Signature.methods c.methods])

/-- A compartment with these lines, if there are any. -/
def box (lines : String) : List String := if lines = "" then [] else [lines]

theorem box_of_ne_empty {lines : String} (h : lines ≠ "") : box lines = [lines] := if_neg h

theorem box_injective {lines more : String} (h : box lines = box more) : lines = more := by
  unfold box at h
  split at h <;> split at h <;> simp_all

variable {c d : Class}

theorem compartments_eq (c : Class) : compartments c =
    c.name :: (box (Signature.properties c.properties) ++ box (Signature.methods c.methods)) := by
  have hproperties : Signature.properties c.properties = "" ↔ c.properties = [] :=
    combine_eq_empty _ _ _
  simp only [compartments, box, hproperties, methods_eq_empty]

theorem classLabel_eq (h : c.name ≠ "") :
    classLabel c = "\x7b" ++ "|".intercalate (compartments c) ++ "\x7d" := by
  have hfilter : [c.name, Signature.properties c.properties, Signature.methods c.methods].filter
      (· ≠ "") = compartments c := by
    rw [compartments_eq, box, box]
    by_cases hp : Signature.properties c.properties = "" <;>
      by_cases hm : Signature.methods c.methods = "" <;> simp [h, hp, hm]
  rw [classLabel, hfilter]

theorem bar_not_mem_compartments (h : UnmarkedClass c) :
    ∀ part ∈ compartments c, '|' ∉ part.toList := by
  intro part hpart
  rcases List.mem_cons.mp hpart with rfl | hpart
  · exact h.name.marks '|' (by decide)
  · rcases List.mem_append.mp hpart with hpart | hpart
    · split at hpart
      · cases hpart
      · rw [List.mem_singleton.mp hpart]
        exact bar_not_mem_properties h.properties
    · split at hpart
      · cases hpart
      · rw [List.mem_singleton.mp hpart]
        exact bar_not_mem_methods h.methods

theorem splitOn_compartments (h : UnmarkedClass c) :
    (("|".intercalate (compartments c)).toList.splitOn '|').map String.ofList = compartments c :=
  Text.Dotted.splitOn_toList_intercalate (by decide) (List.cons_ne_nil _ _)
    (bar_not_mem_compartments h)

theorem compartments_of_classLabel (hc : UnmarkedClass c) (hd : UnmarkedClass d)
    (h : classLabel c = classLabel d) : compartments c = compartments d := by
  rw [classLabel_eq hc.name.nonempty, classLabel_eq hd.name.nonempty] at h
  have hinner : "|".intercalate (compartments c) = "|".intercalate (compartments d) := by
    simpa using h
  rw [← splitOn_compartments hc, ← splitOn_compartments hd, hinner]

/-- Lines of properties are never taken for lines of methods. -/
theorem box_methods_ne {ps : List (Property String)} {ms : List (Method String)}
    (hps : Signature.properties ps ≠ "") (hms : ∀ m ∈ ms, Unmarked m.header.name)
    (more : List String) : box (Signature.methods ms) ≠ Signature.properties ps :: more := by
  intro h
  have hne : ps ≠ [] := mt (combine_eq_empty _ _ _).mpr hps
  unfold box at h
  split at h
  · cases h
  · exact properties_ne_methods hne hms (List.cons.inj h).1.symm

theorem members_of_compartments (hc : UnmarkedClass c) (hd : UnmarkedClass d)
    (h : compartments c = compartments d) : c.name = d.name ∧
      Signature.properties c.properties = Signature.properties d.properties ∧
      Signature.methods c.methods = Signature.methods d.methods := by
  rw [compartments_eq, compartments_eq, List.cons.injEq] at h
  obtain ⟨hname, h⟩ := h
  refine ⟨hname, ?_⟩
  by_cases hcp : Signature.properties c.properties = "" <;>
    by_cases hdp : Signature.properties d.properties = ""
  · rw [hcp, hdp] at h
    exact ⟨hcp.trans hdp.symm, box_injective h⟩
  · rw [hcp, box_of_ne_empty hdp] at h
    exact absurd h (box_methods_ne hdp hc.methods _)
  · rw [hdp, box_of_ne_empty hcp] at h
    exact absurd h.symm (box_methods_ne hcp hd.methods _)
  · rw [box_of_ne_empty hcp, box_of_ne_empty hdp] at h
    obtain ⟨hproperties, hmethods⟩ := List.cons.inj h
    exact ⟨hproperties, box_injective hmethods⟩

/-- **A label determines what it shows.** Two classes have one label just if they have one name and
their properties and methods, in the order of the label, are alike entry by entry: in visibility,
lifetime, accessors and name, or in visibility, lifetime and name. Split at the bars, the text
between the braces is the name with a part for the properties and one for the methods, where there
are any. -/
theorem classLabel_eq_iff (hc : UnmarkedClass c) (hd : UnmarkedClass d) :
    (classLabel c = classLabel d ↔ c.name = d.name ∧
      SameProperties c.properties d.properties ∧ SameMethods c.methods d.methods) ∧
    ∃ inner, classLabel c = "\x7b" ++ inner ++ "\x7d" ∧
      (inner.toList.splitOn '|').map String.ofList = compartments c := by
  have hproperties := properties_eq_iff hc.properties hd.properties
  have hmethods := methods_eq_iff hc.methods hd.methods
  refine ⟨⟨fun h => ?_, ?_⟩, _, classLabel_eq hc.name.nonempty, splitOn_compartments hc⟩
  · obtain ⟨hname, hps, hms⟩ := members_of_compartments hc hd (compartments_of_classLabel hc hd h)
    exact ⟨hname, hproperties.mp hps, hmethods.mp hms⟩
  · rintro ⟨hname, hps, hms⟩
    rw [classLabel, classLabel, hname, hproperties.mpr hps, hmethods.mpr hms]

/-- A class with a read-only property and a method of one name, and a hidden counter. -/
def lamp : Class where
  header := { name := "Lamp" }
  properties := [
    { header := { name := "light" }, hasGetter := true },
    { header := { name := "_uses", visibility := .prot, lifetime := .static } }]
  methods := [{ header := { name := "light" } }]

/-- The same class, with the members in another order and with other types. -/
def relit : Class where
  header := { name := "Lamp", visibility := .prot }
  properties := lamp.properties.reverse
  methods := [{ header := { name := "light" }, returnType := some (.single "Ray") }]

/-- The same class without the property that is only read. -/
def unlit : Class := { lamp with properties := lamp.properties.tail }

theorem classLabel_eq_iff_lamp :
    UnmarkedClass lamp ∧ UnmarkedClass relit ∧ UnmarkedClass unlit ∧
      classLabel lamp = classLabel relit ∧ classLabel lamp ≠ classLabel unlit := by
  have hlamp : UnmarkedClass lamp := ⟨by decide, by decide, by decide⟩
  have hrelit : UnmarkedClass relit := ⟨by decide, by decide, by decide⟩
  have hunlit : UnmarkedClass unlit := ⟨by decide, by decide, by decide⟩
  refine ⟨hlamp, hrelit, hunlit, ?_, fun h => ?_⟩
  · refine (classLabel_eq_iff hlamp hrelit).1.mpr ⟨rfl, ?_, ?_⟩
    · exact .cons ⟨rfl, rfl, rfl, rfl, rfl⟩ (.cons ⟨rfl, rfl, rfl, rfl, rfl⟩ .nil)
    · exact .cons ⟨rfl, rfl, rfl⟩ .nil
  · obtain ⟨-, hproperties, -⟩ := (classLabel_eq_iff hlamp hunlit).1.mp h
    cases hproperties.length_eq

end ClassDiagram.Diagram
