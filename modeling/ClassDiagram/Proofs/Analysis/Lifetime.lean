import ClassDiagram.Proofs.Analysis.ClassMembers
import ClassDiagram.Proofs.Analysis.TypePosition

/-!
Lifetimes of annotated attributes. The mark of a class variable is looked for in an annotation as it
is written, so it does not count in quotes, while the type of the attribute is the same with and
without them. The analysis of a class says so as a whole: quotes around an annotation leave the
class as it is, or take the mark from one property of it (`ModuleAnalysis.quoted_annotation`).
-/

namespace ClassDiagram

open Source (Expr Stmt)
open Text (CodePoint)
open Annotation (Spells)

/-! ## A property without a mark -/

namespace Property

variable {x : String} {p : Property String} {ps : List (Property String)}

/-- The property, which is one of each instance if it has the name `x`. -/
def unmark (x : String) (p : Property String) : Property String :=
  if p.name = x then { p with header := { p.header with lifetime := .perInstance } } else p

@[simp] theorem name_unmark (p : Property String) : (p.unmark x).name = p.name := by
  unfold unmark
  split <;> rfl

theorem unmark_of_ne (h : p.name ≠ x) : p.unmark x = p := if_neg h

theorem merge_unmark (q : Property String) : (p.unmark x).merge q = (p.merge q).unmark x := by
  by_cases h : p.name = x
  · have hmerge : (p.merge q).name = x := h
    rw [unmark, if_pos h, unmark, if_pos hmerge]
    rfl
  · have hmerge : (p.merge q).name ≠ x := h
    rw [unmark_of_ne h, unmark_of_ne hmerge]

theorem unmark_merge (q : Property String) : p.merge (q.unmark x) = p.merge q := by
  unfold unmark
  split <;> rfl

/-- A property that is there already has its mark, or none, whatever the one that joins it has. -/
theorem insert_unmark_of_mem (h : p.name ∈ ps.map name) : (p.unmark x).insert ps = p.insert ps := by
  induction ps with
  | nil => simp at h
  | cons q ps ih =>
    by_cases hq : q.name = p.name
    · simp [insert, hq, unmark_merge]
    · have hmem : p.name ∈ ps.map name := by simpa [Ne.symm hq] using h
      simp [insert, hq, ih hmem]

/-- What is inserted behind the first property of its name does not bring the mark back. -/
theorem insert_map_unmark (h : p.name = x → x ∈ ps.map name) :
    p.insert (ps.map (unmark x)) = (p.insert ps).map (unmark x) := by
  -- `x` may be the first name, and then none of the rest, where `p` goes if its name is another
  induction ps with
  | nil =>
    have hp : p.name ≠ x := fun hp => List.not_mem_nil (h hp)
    simp [insert, unmark_of_ne hp]
  | cons q ps ih =>
    by_cases hq : q.name = p.name
    · simp [insert, hq, merge_unmark]
    · have hrest : p.name = x → x ∈ ps.map name := by
        intro hp
        have hx : x ≠ q.name := fun hx => hq (hx.symm.trans hp.symm)
        simpa [hx] using h hp
      simp [insert, hq, ih hrest]

theorem insert_unmark_of_not_mem (h : x ∉ ps.map name) (hp : p.name = x) :
    (p.unmark x).insert ps = (p.insert ps).map (unmark x) := by
  have hps : ps.map (unmark x) = ps := by
    refine (List.map_congr_left fun q hq => ?_).trans (List.map_id ps)
    exact unmark_of_ne fun hx => h (hx ▸ List.mem_map_of_mem hq)
  have hnew : p.name ∉ ps.map name := hp ▸ h
  have hnew' : (p.unmark x).name ∉ ps.map name := by rwa [name_unmark]
  rw [insert_of_not_mem hnew, insert_of_not_mem hnew', List.map_append, hps, List.map_singleton]

theorem mem_names_insert : x ∈ (p.insert ps).map name ↔ x ∈ ps.map name ∨ x = p.name := by
  rw [names_insert]
  split
  · rename_i h
    exact (or_iff_left_of_imp fun hx => hx ▸ h).symm
  · rw [List.mem_append, List.mem_singleton]

end Property

namespace Class

/-- The class with a property `x` of each instance, if it has one. -/
def unmark (x : String) (c : Class) : Class :=
  { c with properties := c.properties.map (Property.unmark x) }

variable {x : String} {c : Class} {p : Property String}

theorem addProperty_unmark_of_mem (h : p.name ∈ c.properties.map Property.name) :
    c.addProperty (p.unmark x) = c.addProperty p := by
  rw [addProperty, addProperty, Property.insert_unmark_of_mem h]

theorem addProperty_unmark_of_not_mem (h : x ∉ c.properties.map Property.name) (hp : p.name = x) :
    c.addProperty (p.unmark x) = (c.addProperty p).unmark x := by
  rw [addProperty, Property.insert_unmark_of_not_mem h hp]
  rfl

end Class

namespace Scope

variable {s : Scope} {x : String} {c : Class}

theorem names_addTo (k : Contribution) (h : x ∈ c.properties.map Property.name) :
    x ∈ (k.addTo c).properties.map Property.name := by
  cases k with
  | method => exact h
  | property p => exact Property.mem_names_insert.mpr (.inl h)

theorem addTo_unmark (k : Contribution) (h : x ∈ c.properties.map Property.name) :
    k.addTo (c.unmark x) = (k.addTo c).unmark x := by
  cases k with
  | method => rfl
  | property p =>
    have hinsert := Property.insert_map_unmark (p := p) (x := x) fun _ => h
    simp [Contribution.addTo, Class.addProperty, Class.unmark, hinsert]

theorem foldl_addTo_unmark (new : List Contribution) (h : x ∈ c.properties.map Property.name) :
    new.foldl Contribution.addTo (c.unmark x) = (new.foldl Contribution.addTo c).unmark x ∧
      x ∈ (new.foldl Contribution.addTo c).properties.map Property.name := by
  induction new generalizing c with
  | nil => exact ⟨rfl, h⟩
  | cons k new ih =>
    rw [List.foldl_cons, List.foldl_cons, addTo_unmark k h]
    exact ih (names_addTo k h)

/-- What comes behind the first property of a name is added in the same way without its mark. -/
theorem addBody_unmark (body : List Stmt) (h : x ∈ c.properties.map Property.name) :
    s.addBody (c.unmark x) body = Class.unmark x <$> s.addBody c body := by
  induction body generalizing c with
  | nil => rfl
  | cons stmt body ih =>
    have hname : (c.unmark x).name = c.name := rfl
    rw [addBody, addBody, hname, map_bind]
    refine bind_congr fun new => ?_
    obtain ⟨hnew, hx⟩ := foldl_addTo_unmark new h
    rw [hnew, ih hx]

theorem addBody_append (c : Class) (before after : List Stmt) :
    s.addBody c (before ++ after) = s.addBody c before >>= fun d => s.addBody d after := by
  induction before generalizing c with
  | nil => rfl
  | cons stmt before ih =>
    rw [List.cons_append, addBody, addBody, bind_assoc]
    exact bind_congr fun new => ih _

/-- The lifetime that an annotation in a class says. -/
def hintLifetime (hint : Expr) : Lifetime :=
  if isClassVariable hint then .static else .perInstance

theorem addBody_annotated (c : Class) (x : String) (hint : Expr) (after : List Stmt) :
    s.addBody c (.annotated (.name x) hint :: after) = s.resolve hint >>= fun type =>
      s.addBody (c.addProperty (newProperty c.name x (hintLifetime hint) type)) after := by
  rw [addBody, contributions, bind_assoc]
  rfl

/-- In quotes, an annotation says nothing of the lifetime, and the same of the type. -/
theorem addBody_quoted {hint : Expr} {value : List CodePoint} (hspells : Spells value hint)
    (c : Class) (x : String) (after : List Stmt) :
    s.addBody c (.annotated (.name x) (.text value) :: after) =
      if isClassVariable hint = true ∧ x ∉ c.properties.map Property.name then
        Class.unmark x <$> s.addBody c (.annotated (.name x) hint :: after)
      else s.addBody c (.annotated (.name x) hint :: after) := by
  rw [addBody_annotated, addBody_annotated, s.resolve_spelled hspells]
  have hquoted : ∀ type, newProperty c.name x (hintLifetime (.text value)) type
      = (newProperty c.name x (hintLifetime hint) type).unmark x := fun _ => (if_pos rfl).symm
  simp only [hquoted]
  split
  · rename_i h
    rw [map_bind]
    refine bind_congr fun type => ?_
    have hx : x ∈ (c.addProperty (newProperty c.name x (hintLifetime hint) type)).properties.map
        Property.name := Property.mem_names_insert.mpr (.inr rfl)
    rw [Class.addProperty_unmark_of_not_mem h.2 rfl, addBody_unmark after hx]
  · rename_i h
    refine bind_congr fun type => congrArg (s.addBody · after) ?_
    by_cases hmarked : isClassVariable hint = true
    · have hx : x ∈ c.properties.map Property.name := by
        by_contra hx
        exact h ⟨hmarked, hx⟩
      exact Class.addProperty_unmark_of_mem hx
    · rw [hintLifetime, if_neg hmarked]
      exact congrArg c.addProperty (if_pos rfl)

/-- The annotation makes `x` static: it has the mark, and no statement before it says that there is
such a property. -/
def Marks (before : List Stmt) (x : String) (hint : Expr) : Prop :=
  isClassVariable hint = true ∧ firstOrigin? before x = none

instance (before : List Stmt) (x : String) (hint : Expr) : Decidable (Marks before x hint) :=
  inferInstanceAs (Decidable (isClassVariable hint = true ∧ firstOrigin? before x = none))

/-- There is a property behind a body just if a statement says so. -/
theorem not_mem_names_addBody {c d : Class} {before : List Stmt} (hc : c.properties = [])
    (h : s.addBody c before = .ok d) :
    x ∉ d.properties.map Property.name ↔ firstOrigin? before x = none := by
  obtain ⟨-, -, -, hproperties⟩ := addBody_members h
  rw [hc] at hproperties
  have hnames : x ∈ d.properties.map Property.name ↔ ∃ o ∈ before.flatMap origins, o.name = x :=
    hproperties ▸ mem_names_iff
  rw [hnames, firstOrigin?, List.find?_eq_none]
  simp

theorem firstOrigin?_annotated {before : List Stmt} (h : firstOrigin? before x = none) (hint : Expr)
    (after : List Stmt) :
    firstOrigin? (before ++ .annotated (.name x) hint :: after) x = some (.annotated x hint) := by
  rw [firstOrigin?, List.flatMap_append, List.find?_append, ← firstOrigin?, h, Option.none_or]
  exact List.find?_cons_of_pos (decide_eq_true rfl)

/-- Quotes take the mark from the property just if it has the mark from this annotation. -/
theorem addBody_quoted_between {hint : Expr} {value : List CodePoint} (hspells : Spells value hint)
    {c : Class} (hc : c.properties = []) (before after : List Stmt) (x : String) :
    s.addBody c (before ++ .annotated (.name x) (.text value) :: after) =
      if Marks before x hint then
        Class.unmark x <$> s.addBody c (before ++ .annotated (.name x) hint :: after)
      else s.addBody c (before ++ .annotated (.name x) hint :: after) := by
  rw [addBody_append, addBody_append]
  cases h : s.addBody c before with
  | error fault => split <;> rfl
  | ok d =>
    have hmarks : Marks before x hint ↔
        isClassVariable hint = true ∧ x ∉ d.properties.map Property.name :=
      and_congr_right fun _ => (not_mem_names_addBody hc h).symm
    rw [if_congr hmarks rfl rfl]
    exact addBody_quoted hspells d x after

end Scope

namespace ModuleAnalysis

open Scope (Marks)

variable {s : Scope} {name x : String} {bases : List Expr} {before after : List Stmt} {hint : Expr}

theorem newClass_quoted {value : List CodePoint} (hspells : Spells value hint) (s : Scope)
    (name : String) (bases : List Expr) (before after : List Stmt) (x : String) :
    newClass s name bases (before ++ .annotated (.name x) (.text value) :: after) =
      if Marks before x hint then
        Class.unmark x <$> newClass s name bases (before ++ .annotated (.name x) hint :: after)
      else newClass s name bases (before ++ .annotated (.name x) hint :: after) := by
  unfold newClass
  split
  · rename_i hmarks
    rw [map_bind]
    refine bind_congr fun base => ?_
    rw [map_bind]
    refine bind_congr fun _ => ?_
    rw [Scope.addBody_quoted_between hspells rfl, if_pos hmarks, Logged.ofExcept_map]
  · rename_i hmarks
    refine bind_congr fun base => bind_congr fun _ => ?_
    rw [Scope.addBody_quoted_between hspells rfl, if_neg hmarks]

/-- The attribute is static where the annotation makes it so. -/
theorem static_of_marks (hmarks : Marks before x hint) {c : Class}
    (h : (newClass s name bases (before ++ .annotated (.name x) hint :: after)).result = .ok c) :
    ∃ p ∈ c.properties, p.name = x ∧ p.header.lifetime = .static := by
  obtain ⟨-, hproperties⟩ := members_by_role h
  have hfirst := Scope.firstOrigin?_annotated hmarks.2 hint after
  have hx : x ∈ c.properties.map Property.name :=
    hproperties ▸ Scope.mem_names_iff.mpr ⟨_, List.mem_of_find?_eq_some hfirst, rfl⟩
  obtain ⟨p, hp, hname⟩ := List.mem_map.mp hx
  refine ⟨p, hp, hname, (Scope.static_iff (Scope.combines_origins (hproperties ▸ hp))).mpr ?_⟩
  rw [hname]
  exact ⟨_, hfirst, hmarks.1⟩

/-- **Quotes around an annotation.** The annotation `hint` of an attribute in a class is put in
quotes. If it makes the attribute static, being marked and the first that is said of it, then with
the quotes the class is the same but for the attribute, which is one of each instance; else the
quotes change nothing. The entries of the log are the same, and so is a fault. -/
theorem quoted_annotation {value : List CodePoint} (hspells : Spells value hint) (s : Scope)
    (name : String) (bases : List Expr) (before after : List Stmt) (x : String) :
    let plain := newClass s name bases (before ++ .annotated (.name x) hint :: after)
    let quoted := newClass s name bases (before ++ .annotated (.name x) (.text value) :: after)
    if Marks before x hint then
      quoted = Class.unmark x <$> plain ∧ ∀ c, plain.result = .ok c →
        ∃ p ∈ c.properties, p.name = x ∧ p.header.lifetime = .static
    else quoted = plain := by
  intro plain quoted
  have hquoted : quoted = if Marks before x hint then Class.unmark x <$> plain else plain :=
    newClass_quoted hspells s name bases before after x
  split
  · rename_i hmarks
    rw [if_pos hmarks] at hquoted
    exact ⟨hquoted, fun c hc => static_of_marks hmarks hc⟩
  · rename_i hmarks
    rwa [if_neg hmarks] at hquoted

theorem spells_mark : Spells ("ClassVar".toList.map Char.toNat) (.name "ClassVar") :=
  ⟨by decide, by cbv⟩

/-- A bare mark, with and without quotes. -/
theorem quoted_annotation_mark :
    Spells ("ClassVar".toList.map Char.toNat) (.name "ClassVar") ∧
    newClass { moduleName := "inn" } "Room" []
        [.annotated (.name "rate") (.text ("ClassVar".toList.map Char.toNat))]
      = Class.unmark "rate" <$> newClass { moduleName := "inn" } "Room" []
        [.annotated (.name "rate") (.name "ClassVar")] := by
  have hmarks : Marks [] "rate" (.name "ClassVar") := by decide
  have hquoted := quoted_annotation spells_mark { moduleName := "inn" } "Room" [] [] [] "rate"
  rw [if_pos hmarks] at hquoted
  exact ⟨spells_mark, hquoted.1⟩

/-- An attribute that is static as long as its annotation has no quotes. -/
theorem quotes_change_lifetime :
    Spells ("ClassVar".toList.map Char.toNat) (.name "ClassVar") ∧
    ∃ c d p q,
      (newClass { moduleName := "inn" } "Room" []
        [.annotated (.name "rate") (.name "ClassVar")]).result = .ok c ∧
      (newClass { moduleName := "inn" } "Room" []
        [.annotated (.name "rate") (.text ("ClassVar".toList.map Char.toNat))]).result = .ok d ∧
      p ∈ c.properties ∧ p.name = "rate" ∧ p.header.lifetime = .static ∧
      q ∈ d.properties ∧ q.name = "rate" ∧ q.header.lifetime = .perInstance := by
  have hmarks : Marks [] "rate" (.name "ClassVar") := by decide
  have hquoted := newClass_quoted spells_mark { moduleName := "inn" } "Room" [] [] [] "rate"
  rw [if_pos hmarks] at hquoted
  obtain ⟨c, hc⟩ : Succeeds (newClass { moduleName := "inn" } "Room" []
      [.annotated (.name "rate") (.name "ClassVar")]).result := by
    refine succeeds_newClass.mpr fun e he value hreads => ?_
    have he : e = .name "ClassVar" := List.mem_singleton.mp he
    cases he ▸ hreads
  obtain ⟨p, hp, hname, hstatic⟩ := static_of_marks hmarks hc
  refine ⟨spells_mark, c, c.unmark "rate", p, p.unmark "rate", hc, ?_, hp, hname, hstatic,
    List.mem_map_of_mem hp, p.name_unmark.trans hname, ?_⟩
  · have hresult := congrArg Logged.result hquoted
    rw [Logged.result_map] at hresult
    exact hresult.trans (congrArg (Class.unmark "rate" <$> ·) hc)
  · rw [Property.unmark, if_pos hname]

end ModuleAnalysis

end ClassDiagram
