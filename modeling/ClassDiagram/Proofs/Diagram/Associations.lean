import Mathlib.Data.List.ReduceOption
import ClassDiagram.Proofs.Analysis.Canonical
import ClassDiagram.Proofs.Diagram.Dependencies

/-!
The associations of an analysed class. Canonical names are told apart by their full names, so none
of the types of a class is lost in its dependencies (`distinctTypes_eq_eraseDups`), and by the
identifiers of their nodes, so the edges to them have different heads (`stored_names_canonical`).
-/

namespace ClassDiagram

open Diagram (Edge association classEdges inheritance)
open NodeId (IsSegment)
open Source (Stmt)
open Text.Dotted (MadeOf)

/-! ## Dependencies -/

theorem putName_eq {q : QualifiedName} (hq : q.Canonical) {types : List QualifiedName}
    (h : ∀ r ∈ types, r.Canonical) :
    distinctTypes.putName q types = if q ∈ types then types else types ++ [q] := by
  induction types with
  | nil => rfl
  | cons r types ih =>
    obtain ⟨hr, htypes⟩ := List.forall_mem_cons.mp h
    have hsame : r.fullName = q.fullName ↔ r = q := hr.fullName_inj hq
    simp only [distinctTypes.putName, hsame, ih htypes]
    by_cases hrq : r = q
    · rw [if_pos hrq, hrq, if_pos List.mem_cons_self]
    · have hmem : q ∈ r :: types ↔ q ∈ types := List.mem_cons.trans (or_iff_right (Ne.symm hrq))
      simp only [if_neg hrq, hmem]
      split <;> rfl

/-- No type is lost when types with one full name count as one. -/
theorem distinctTypes_eq_eraseDups {types : List (Option QualifiedName)}
    (h : ∀ q ∈ types.reduceOption, q.Canonical) :
    distinctTypes types = types.reduceOption.eraseDups := by
  induction types using List.reverseRecOn with
  | nil => rfl
  | append_singleton types type ih =>
    rw [List.reduceOption_append, List.forall_mem_append] at h
    rw [List.reduceOption_append, distinctTypes, List.foldl_concat]
    cases type with
    | none => exact (ih h.1).trans (congrArg List.eraseDups (List.append_nil _).symm)
    | some q =>
      have hq : q.Canonical := h.2 q List.mem_cons_self
      have hseen : ∀ r ∈ types.reduceOption.eraseDups, r.Canonical :=
        fun r hr => h.1 r (List.mem_eraseDups.mp hr)
      show distinctTypes.putName q (distinctTypes types) = (types.reduceOption ++ [q]).eraseDups
      rw [ih h.1, putName_eq hq hseen, Text.eraseDups_concat]
      simp only [List.mem_eraseDups]

theorem dependencies_eq_eraseDups {c : Class} (h : ∀ q ∈ c.types, q.Canonical) :
    c.dependencies = (c.properties.filterMap Property.type).eraseDups := by
  have htypes : (c.properties.map Property.type).reduceOption
      = c.properties.filterMap Property.type := List.filterMap_map
  rw [Class.dependencies, distinctTypes_eq_eraseDups, htypes]
  intro q hq
  rw [htypes] at hq
  exact h q (List.mem_append_left _ (List.mem_append_right _ hq))

/-! ## Edges -/

/-- The edges of a class that lead to the types of its properties. -/
def associations (path : String) (c : Class) : List Edge :=
  (classEdges path c).filter (·.attributes = [("arrowhead", "vee")])

theorem heads_associations (path : String) (c : Class) :
    (associations path c).map Edge.head = c.dependencies.map NodeId.ofName := by
  have hinheritance : (c.base.toList.map (inheritance (NodeId.within path c.name))).filter
      (·.attributes = [("arrowhead", "vee")]) = [] := by
    refine List.filter_eq_nil_iff.mpr (List.forall_mem_map.mpr fun q _ => ?_)
    show ¬ decide ([("arrowhead", "onormal")] = [("arrowhead", "vee")]) = true
    decide
  have hassociation : (c.dependencies.map (association (NodeId.within path c.name))).filter
      (·.attributes = [("arrowhead", "vee")])
        = c.dependencies.map (association (NodeId.within path c.name)) := by
    refine List.filter_eq_self.mpr (List.forall_mem_map.mpr fun q _ => ?_)
    rfl
  rw [associations, classEdges, List.filter_append, hinheritance, hassociation, List.nil_append,
    List.map_map]
  rfl

/-! ## Analysed modules -/

theorem admitsNames_any : AdmitsNames fun _ => True := ⟨fun _ _ => trivial, trivial⟩

/-- Words and points hold no separator of identifiers. -/
theorem admitsNames_plain : AdmitsNames fun c => c ≠ '/' ∧ c ≠ '|' where
  word c h := by
    constructor <;>
    · rintro rfl
      cases h
  point := by decide

theorem isSegment_of_madeOf {name : String} (hne : name ≠ "")
    (h : MadeOf (fun c => c ≠ '/' ∧ c ≠ '|') name) : IsSegment name :=
  ⟨hne, fun hc => (h _ hc).1 rfl, fun hc => (h _ hc).2 rfl⟩

theorem mem_types_of_class {m : Module} {c : Class} (hc : c ∈ m.classes) {q : QualifiedName}
    (hq : q ∈ c.types) : q ∈ m.types :=
  List.mem_append_left _ (List.mem_flatMap.mpr ⟨c, hc, hq⟩)

namespace ParsedSource

variable {p : ParsedSource} {m : Module}

section Stored

variable (hname : p.name ≠ "") (h : p.Named) (hm : p.module.result = .ok m)
include hname h hm

theorem gives_types : ∀ q ∈ m.types, p.scope.Gives (fun _ => True) q :=
  gives_of_module admitsNames_any hname (fun _ _ => trivial) h hm

theorem dependencies_of_class {c : Class} (hc : c ∈ m.classes) :
    c.dependencies = (c.properties.filterMap Property.type).eraseDups :=
  dependencies_eq_eraseDups fun q hq =>
    (gives_types hname h hm q (mem_types_of_class hc hq)).canonical

/-- Identifiers tell the types of a class apart, if the name of the module holds no separator. -/
theorem nodup_heads_associations (hslash : '/' ∉ p.name.toList) (hbar : '|' ∉ p.name.toList)
    {c : Class} (hc : c ∈ m.classes) (path : String) :
    ((associations path c).map Edge.head).Nodup := by
  have hdependencies := dependencies_of_class hname h hm hc
  have hchars : MadeOf (fun c => c ≠ '/' ∧ c ≠ '|') p.name := fun x hx =>
    ⟨fun hx' => hslash (hx' ▸ hx), fun hx' => hbar (hx' ▸ hx)⟩
  have hplain := gives_of_module admitsNames_plain hname hchars h hm
  have hsegments : ∀ q ∈ c.dependencies, ∀ s ∈ q.parts, IsSegment s := by
    intro q hq s hs
    have hq : q ∈ c.types := by
      rw [hdependencies, List.mem_eraseDups] at hq
      exact List.mem_append_left _ (List.mem_append_right _ hq)
    have hq := hplain q (mem_types_of_class hc hq)
    exact isSegment_of_madeOf (hq.canonical.ne_empty s hs) (hq.chars s hs)
  rw [heads_associations]
  refine List.Nodup.map_on (fun q hq r hr hid => ?_) (hdependencies ▸ Text.nodup_eraseDups _)
  exact NodeId.ofName_injective (hsegments q hq) (hsegments r hr) hid

end Stored

/-- **The names that an analysis stores are canonical, so no dependency is lost.** The identifiers
of a module are words, as those of every text are (`exists_named_of_ofText`), and the module has a
name. Each name that is stored is one segment or two that are not empty, holds no point in the last
one and is what its full name is split into; a typing module comes before a class of itself only.
The dependencies of a class are the types of its properties, each once, and if no separator of
identifiers is in the name of the module, the edges to them have different heads. -/
theorem stored_names_canonical (hname : p.name ≠ "") (h : p.Named) (hm : p.module.result = .ok m) :
    (∀ q ∈ m.types,
      ((∃ n, q = .single n) ∨ ∃ scope n, scope ≠ "" ∧ n ≠ "" ∧ q = .pair scope n) ∧
        '.' ∉ q.name.toList ∧ QualifiedName.ofDotted q.fullName = q ∧
        ∀ scope n, q = .pair scope n → scope ∈ Scope.typingModules →
          scope = p.name ∧ p.Declares n) ∧
      ∀ c ∈ m.classes, FirstSeen (c.properties.filterMap Property.type) c.dependencies ∧
        ('/' ∉ p.name.toList → '|' ∉ p.name.toList → ∀ path,
          (associations path c).map Edge.head = c.dependencies.map NodeId.ofName ∧
            ((associations path c).map Edge.head).Nodup) := by
  have hgives := gives_types hname h hm
  refine ⟨fun q hq => ⟨?shape, ?point, ?dotted, ?typing⟩, fun c hc => ?dependencies⟩
  case shape =>
    cases (hgives q hq).canonical with
    | single => exact .inl ⟨_, rfl⟩
    | pair hscope hn => exact .inr ⟨_, _, hscope, hn.nonempty, rfl⟩
  case point => exact (hgives q hq).canonical.isWord.point
  case dotted => exact (hgives q hq).canonical.ofDotted_fullName
  case typing =>
    intro scope n hpair htyping
    exact ((hgives q hq).typing scope n hpair htyping).imp_right declares_iff.mpr
  case dependencies =>
    refine ⟨dependencies_of_class hname h hm hc ▸ firstSeen_eraseDups _, fun hslash hbar path => ?_⟩
    exact ⟨heads_associations path c, nodup_heads_associations hname h hm hslash hbar hc path⟩

/-- A class with two properties of one type, one of them in a wrapper. -/
def easel : List Stmt := [
  .annotated (.name "brush") (.name "Brush"),
  .annotated (.name "colour") (.member (.name "dye") "Red"),
  .annotated (.name "spare") (.subscript (.name "Optional") (.name "Brush"))]

/-- A module that imports the type, with the class. -/
def studio : ParsedSource where
  name := "art.studio"
  stmts := [.importFrom (some "paint") [⟨"Brush", none⟩] 1, .classDef "Easel" [] easel]

theorem easel_named : ∀ stmt ∈ easel, stmt.Named := by
  rintro stmt (_ | ⟨_, _ | ⟨_, _ | ⟨_, ⟨⟩⟩⟩⟩)
  · exact .annotated (.name (by decide)) (.name (by decide))
  · exact .annotated (.name (by decide)) (.member (.name (by decide)) (by decide))
  · exact .annotated (.name (by decide)) (.subscript (.name (by decide)) (.name (by decide)))

theorem studio_named : studio.Named := by
  rintro stmt (_ | ⟨_, _ | ⟨_, ⟨⟩⟩⟩)
  · refine .importFrom 1 ?_ (List.forall_mem_singleton.mpr ⟨.inr (by decide), fun _ h => nomatch h⟩)
    rintro name ⟨⟩
    exact List.forall_mem_singleton.mpr (by decide)
  · exact .classDef (by decide) (List.forall_mem_nil _) easel_named

/-- What names refer to in the class. -/
def atEasel : Scope := studio.scope.behind [.member (some "paint") 1 ⟨"Brush", none⟩]

theorem easel_class : ∃ c, (ModuleAnalysis.newClass atEasel "Easel" [] easel).result = .ok c ∧
    c.dependencies = [.pair "art.paint" "Brush", .pair "dye" "Red"] := by
  have hbrush : atEasel.resolve (.name "Brush") = .ok (some (.pair "art.paint" "Brush")) :=
    (Scope.resolve_name ..).trans rfl
  have hred : atEasel.resolve (.member (.name "dye") "Red") = .ok (some (.pair "dye" "Red")) :=
    (Scope.resolve_of_chain _ (by decide)).trans rfl
  have hspare : atEasel.resolve (.subscript (.name "Optional") (.name "Brush"))
      = .ok (some (.pair "art.paint" "Brush")) :=
    (Scope.resolve_argument atEasel rfl).trans hbrush
  simp only [easel, ModuleAnalysis.newClass, Scope.addBody, Scope.contributions, hbrush, hred,
    hspare]
  exact ⟨_, rfl, by decide⟩

theorem studio_module : ∃ m, studio.module.result = .ok m ∧
    ∃ c ∈ m.classes, c.dependencies = [.pair "art.paint" "Brush", .pair "dye" "Red"] := by
  obtain ⟨c, hc, hdependencies⟩ := easel_class
  have hlegible := ModuleAnalysis.succeeds_newClass.mp ⟨c, hc⟩
  obtain ⟨m, hm⟩ : Succeeds studio.module.result := by
    refine succeeds_module.mpr ?_
    rintro value ⟨before, stmt, after, hplace, e, he, hreads⟩
    match before, hplace with
    | [], hplace =>
      cases hplace
      cases he
    | [_], hplace =>
      cases hplace
      exact hlegible e he value hreads
    | _ :: _ :: later, hplace =>
      have hnil : [] = later ++ stmt :: after := (List.cons.inj (List.cons.inj hplace).2).2
      cases List.append_eq_nil_iff.mp hnil.symm |>.2
  have hplace : studio.visited = [.importFrom (some "paint") [⟨"Brush", none⟩] 1]
      ++ .classDef "Easel" [] easel :: [] := rfl
  obtain ⟨k, hk, hnew⟩ := mem_classes hm hplace
  cases hc.symm.trans hnew
  exact ⟨m, hm, c, hk, hdependencies⟩

theorem stored_names_canonical_studio :
    studio.name ≠ "" ∧ studio.Named ∧ ∃ m, studio.module.result = .ok m ∧
      (∀ q ∈ m.types, QualifiedName.ofDotted q.fullName = q) ∧
      ∃ c ∈ m.classes, c.dependencies = [.pair "art.paint" "Brush", .pair "dye" "Red"] ∧
        (associations "art.studio" c).map Edge.head = ["art.paint|Brush", "dye|Red"] ∧
        ((associations "art.studio" c).map Edge.head).Nodup := by
  obtain ⟨m, hm, c, hc, hdependencies⟩ := studio_module
  have hname : studio.name ≠ "" := by decide
  obtain ⟨hnames, hclasses⟩ := stored_names_canonical hname studio_named hm
  obtain ⟨hheads, hdistinct⟩ := (hclasses c hc).2 (by decide) (by decide) "art.studio"
  refine ⟨hname, studio_named, m, hm, fun q hq => (hnames q hq).2.2.1, c, hc, hdependencies, ?_,
    hdistinct⟩
  rw [hheads, hdependencies]
  decide

end ParsedSource

end ClassDiagram
