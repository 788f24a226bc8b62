import ClassDiagram.Proofs.Analysis.Quotation
import ClassDiagram.Proofs.Model.Property

/-!
The element tree of a parsed module. `Module.WellFormed` says what holds of it: nothing is nested,
each element names the one it is in as its parent, is as visible as its name says, and the
properties of a class have different names. A class keeps this whatever is added to it
(`wellFormed_addTo`), and a module whatever statement is visited (`Visited.rooted`). So a module is
well-formed whenever it is analysed, which it is if no string in its annotations has a fault
(`analysed_wellFormed`).
-/

namespace ClassDiagram

open Source (Expr FunctionHead Stmt)
open Text (CodePoint)

/-- An element in this parent, as visible as its name says. -/
structure Header.Proper (h : Header String) (parent : String) : Prop where
  parent : h.parent = some parent
  visibility : h.visibility = .ofName h.name

structure Class.WellFormed (c : Class) : Prop where
  methods : ∀ m ∈ c.methods, m.header.Proper c.name
  properties : ∀ p ∈ c.properties, p.header.Proper c.name
  distinct : (c.properties.map Property.name).Nodup

structure Module.WellFormed (m : Module) : Prop where
  parent : m.header.parent = none
  modules : m.modules = []
  classes : ∀ c ∈ m.classes, c.header.Proper m.name ∧ c.WellFormed
  methods : ∀ f ∈ m.methods, f.header.Proper m.name
  dependencies : ∀ i ∈ m.dependencies, i.header.parent = some m.name

/-! ## Classes -/

namespace Scope

variable {s : Scope} {parent : String}

def Contribution.header : Contribution → Header String
  | method m => m.header
  | property p => p.header

theorem proper_newProperty (name : String) (lifetime : Lifetime) (type : Option QualifiedName)
    (getter setter : Bool) :
    (newProperty parent name lifetime type getter setter).header.Proper parent :=
  ⟨rfl, rfl⟩

theorem proper_method {inClass : Bool} {f : FunctionHead} {m : Method String}
    (h : s.method parent inClass f = .ok m) : m.header.Proper parent := by
  obtain ⟨returnType, -, h⟩ := except_bind_eq_ok.mp h
  obtain ⟨argumentTypes, -, h⟩ := except_bind_eq_ok.mp h
  cases h
  exact ⟨rfl, rfl⟩

theorem proper_instanceProperties {hint : Option Expr} {targets : List Expr}
    {ps : List (Property String)} (h : s.instanceProperties parent hint targets = .ok ps) :
    ∀ p ∈ ps, p.header.Proper parent := by
  induction targets generalizing ps with
  | nil =>
    cases h
    exact List.forall_mem_nil _
  | cons target targets ih =>
    rw [instanceProperties] at h
    cases htarget : instanceAttribute? target with
    | none =>
      simp only [htarget, pure_bind] at h
      obtain ⟨more, hmore, h⟩ := except_bind_eq_ok.mp h
      cases h
      exact ih hmore
    | some attr =>
      simp only [htarget, pure_bind] at h
      obtain ⟨type, -, h⟩ := except_bind_eq_ok.mp h
      obtain ⟨more, hmore, h⟩ := except_bind_eq_ok.mp h
      cases h
      exact List.forall_mem_cons.mpr ⟨proper_newProperty .., ih hmore⟩

theorem proper_attributesOf {constructor : Bool} {stmts : List Stmt}
    {ps : List (Property String)} (h : s.attributesOf parent constructor stmts = .ok ps) :
    ∀ p ∈ ps, p.header.Proper parent := by
  induction stmts generalizing ps with
  | nil =>
    cases h
    exact List.forall_mem_nil _
  | cons stmt stmts ih =>
    obtain ⟨first, hfirst, h⟩ := except_bind_eq_ok.mp h
    obtain ⟨more, hmore, h⟩ := except_bind_eq_ok.mp h
    cases h
    exact List.forall_mem_append.mpr ⟨proper_instanceProperties hfirst, ih hmore⟩

/-- What a statement contributes to a class belongs to that class. -/
theorem proper_contributions {stmt : Stmt} {new : List Contribution}
    (h : s.contributions parent stmt = .ok new) : ∀ k ∈ new, k.header.Proper parent := by
  cases stmt with
  | functionDef f body =>
    rw [contributions, functionContributions] at h
    cases hrole : role f with
    | getter | setter =>
      rw [hrole] at h
      obtain ⟨type, -, h⟩ := except_bind_eq_ok.mp h
      cases h
      exact List.forall_mem_singleton.mpr (proper_newProperty ..)
    | deleter =>
      rw [hrole] at h
      cases h
      exact List.forall_mem_nil _
    | method =>
      rw [hrole] at h
      obtain ⟨m, hm, h⟩ := except_bind_eq_ok.mp h
      obtain ⟨attributes, hattributes, h⟩ := except_bind_eq_ok.mp h
      cases h
      refine List.forall_mem_cons.mpr ⟨proper_method hm, List.forall_mem_map.mpr ?_⟩
      exact proper_attributesOf hattributes
  | annotated target hint =>
    cases target with
    | name id =>
      obtain ⟨type, -, h⟩ := except_bind_eq_ok.mp h
      cases h
      exact List.forall_mem_singleton.mpr (proper_newProperty ..)
    | _ =>
      cases h
      exact List.forall_mem_nil _
  | assign targets =>
    cases h
    intro k hk
    obtain ⟨target, -, hk⟩ := List.mem_filterMap.mp hk
    split at hk
    · cases hk
      exact proper_newProperty ..
    · cases hk
  | _ =>
    cases h
    exact List.forall_mem_nil _

theorem wellFormed_addTo {c : Class} (hc : c.WellFormed) {k : Contribution}
    (hk : k.header.Proper c.name) : (k.addTo c).WellFormed := by
  cases k with
  | method m =>
    refine ⟨List.forall_mem_append.mpr ⟨hc.methods, ?_⟩, hc.properties, hc.distinct⟩
    exact List.forall_mem_singleton.mpr hk
  | property p =>
    refine ⟨hc.methods, fun q hq => ?_, Property.nodup_names_insert hc.distinct⟩
    have hheader := Property.header_of_mem_insert hq
    rcases hheader with hp | ⟨r, hr, hq⟩
    · rw [hp]
      exact hk
    · rw [hq]
      exact hc.properties r hr

theorem wellFormed_addBody {c d : Class} (hc : c.WellFormed) {body : List Stmt}
    (h : s.addBody c body = .ok d) : d.WellFormed := by
  have hadd : ∀ (new : List Contribution) (c : Class), c.WellFormed →
      (∀ k ∈ new, k.header.Proper c.name) → (new.foldl Contribution.addTo c).WellFormed := by
    intro new
    induction new with
    | nil => exact fun c hc _ => hc
    | cons k new ih =>
      intro c hc hnew
      obtain ⟨hk, hnew⟩ := List.forall_mem_cons.mp hnew
      have hname : (k.addTo c).name = c.name := by cases k <;> rfl
      exact ih _ (wellFormed_addTo hc hk) (hname ▸ hnew)
  induction body generalizing c with
  | nil =>
    cases h
    exact hc
  | cons stmt body ih =>
    obtain ⟨new, hnew, h⟩ := except_bind_eq_ok.mp h
    exact ih (hadd new c hc (proper_contributions hnew)) h

end Scope

/-! ## Modules -/

namespace ModuleAnalysis

theorem wellFormed_newClass {s : Scope} {name : String} {bases : List Expr} {body : List Stmt}
    {c : Class} (h : (newClass s name bases body).result = .ok c) :
    c.header.Proper s.moduleName ∧ c.WellFormed := by
  obtain ⟨base, -, h⟩ := Logged.result_bind_eq_ok.mp h
  rw [Logged.result_log_bind, Logged.result_ofExcept] at h
  refine ⟨(Scope.addBody_ok h).1 ▸ ⟨rfl, rfl⟩, Scope.wellFormed_addBody ?_ h⟩
  exact ⟨List.forall_mem_nil _, List.forall_mem_nil _, List.nodup_nil⟩

/-- A well-formed module under the name that its scope gives as the parent. -/
structure Rooted (a : ModuleAnalysis) : Prop where
  wellFormed : a.module.WellFormed
  name : a.module.name = a.scope.moduleName

variable {a b : ModuleAnalysis} {stmt : Stmt}

theorem rooted_start (name : String) (isPackage : Bool) (stmts : List Stmt) :
    (start name isPackage stmts).Rooted :=
  ⟨⟨rfl, rfl, List.forall_mem_nil _, List.forall_mem_nil _, List.forall_mem_nil _⟩, rfl⟩

theorem Rooted.addImports (h : a.Rooted) (effect : Scope.ImportEffect) :
    (a.addImports effect).Rooted := by
  have hadd : ∀ (targets : List String) (m : Module), m.WellFormed →
      (targets.foldl (fun m target => m.addDependency (newImport m.name target)) m).WellFormed := by
    intro targets
    induction targets with
    | nil => exact fun m hm => hm
    | cons target targets ih =>
      intro m hm
      refine ih _ ⟨hm.parent, hm.modules, hm.classes, hm.methods, ?_⟩
      exact List.forall_mem_append.mpr ⟨hm.dependencies, List.forall_mem_singleton.mpr rfl⟩
  refine ⟨hadd effect.dependencies a.module h.wellFormed, ?_⟩
  exact (congrArg Header.name (grown_addImports a effect).header).trans h.name

/-- **Whatever statement is visited, the module stays well-formed.** -/
theorem Visited.rooted (h : a.Visited stmt b) (ha : a.Rooted) : b.Rooted := by
  obtain ⟨hm, hname⟩ := ha
  cases h with
  | importModules | importFrom => exact Rooted.addImports ⟨hm, hname⟩ _
  | functionDef body h =>
    refine ⟨⟨hm.parent, hm.modules, hm.classes, ?_, hm.dependencies⟩, hname⟩
    refine List.forall_mem_append.mpr ⟨hm.methods, List.forall_mem_singleton.mpr ?_⟩
    have hproper := Scope.proper_method h
    rw [← hname] at hproper
    exact hproper
  | classDef h =>
    refine ⟨⟨hm.parent, hm.modules, ?_, hm.methods, hm.dependencies⟩, hname⟩
    refine List.forall_mem_append.mpr ⟨hm.classes, List.forall_mem_singleton.mpr ?_⟩
    have hclass := wellFormed_newClass h
    rw [← hname] at hclass
    exact hclass
  | skipped => exact ⟨hm, hname⟩

theorem rooted_visitAll {stmts : List Stmt} (ha : a.Rooted)
    (h : (a.visitAll stmts).result = .ok b) : b.Rooted := by
  induction stmts generalizing a with
  | nil =>
    cases h
    exact ha
  | cons stmt stmts ih =>
    obtain ⟨c, hc, h⟩ := Logged.result_bind_eq_ok.mp h
    exact ih ((visited_of_visit hc).rooted ha) h

end ModuleAnalysis

namespace ParsedSource

theorem wellFormed_module {p : ParsedSource} {m : Module} (h : p.module.result = .ok m) :
    m.WellFormed := by
  obtain ⟨a, ha, h⟩ := Logged.result_bind_eq_ok.mp h
  cases h
  exact (ModuleAnalysis.rooted_visitAll (ModuleAnalysis.rooted_start ..) ha).wellFormed

/-- **A module without faults in its annotations becomes a well-formed tree.** -/
theorem analysed_wellFormed {p : ParsedSource}
    (h : ∀ value, p.Reads value → 0 ∉ value ∧ ∀ c ∈ value, Annotation.isSurrogate c = false) :
    ∃ m, p.module.result = .ok m ∧ m.name = p.name ∧ m.WellFormed := by
  obtain ⟨m, hm⟩ := succeeds_module.mpr fun value hvalue =>
    Annotation.fault?_eq_none_iff.mpr (h value hvalue)
  exact ⟨m, hm, (module_ok hm).1, wellFormed_module hm⟩

/-- A module with a property whose accessors have strings for annotations. -/
def diary : ParsedSource where
  name := "diary"
  stmts := [.classDef "D" [] [
    .functionDef {
      name := "next", parameters := { positional := [⟨"self", none⟩] }
      returns := some (.text ['D'.toNat])
      decorators := [.name "property"] } [],
    .functionDef {
      name := "next"
      parameters := { positional := [⟨"self", none⟩, ⟨"day", some (.text ['D'.toNat])⟩] }
      returns := none, decorators := [.member (.name "next") "setter"] } []]]

theorem diary_legible (value : List CodePoint) (h : diary.Reads value) :
    0 ∉ value ∧ ∀ c ∈ value, Annotation.isSurrogate c = false := by
  obtain ⟨before, stmt, after, hplace, e, he, hreads⟩ := h
  have hstmt : stmt ∈ diary.visited := hplace ▸ List.mem_append_right _ List.mem_cons_self
  obtain rfl : e = .text ['D'.toNat] := by
    rw [List.mem_singleton.mp hstmt] at he
    rcases List.mem_pair.mp he with he | he <;> exact he
  cases hreads with
  | text => decide
  | @quoted _ _ e _ hinner =>
    -- a string within a string of one character is empty
    have hshorter := e.property
    have hlength := hinner.length_le
    obtain rfl : value = [] := by
      apply List.eq_nil_of_length_eq_zero
      simp only [List.length_singleton] at hshorter
      omega
    decide

theorem analysed_wellFormed_diary :
    (∀ value, diary.Reads value →
      0 ∉ value ∧ ∀ c ∈ value, Annotation.isSurrogate c = false) ∧
    ∃ m, diary.module.result = .ok m ∧ m.name = diary.name ∧ m.WellFormed :=
  ⟨diary_legible, analysed_wellFormed diary_legible⟩

/-- A module with an annotation that is a lone surrogate. -/
def halved : ParsedSource where
  name := "halved"
  stmts := [.classDef "Sign" [] [.annotated (.name "mark") (.text [0xD800])]]

theorem eq_of_halved_reads {value : List CodePoint} (h : halved.Reads value) :
    value = [0xD800] := by
  obtain ⟨before, stmt, after, hplace, e, he, hreads⟩ := h
  have hstmt : stmt ∈ halved.visited := hplace ▸ by simp
  rw [List.mem_singleton.mp hstmt] at he
  rw [List.mem_singleton.mp he] at hreads
  cases hreads with
  | text => rfl
  | quoted hread =>
    have hfault : Annotation.expression? [0xD800] = .error (.surrogates 0xD800 0 0) := rfl
    rw [hfault] at hread
    cases hread

/-- It is not enough that no string in an annotation holds the code point zero. -/
theorem surrogate_unanalysed :
    (∀ value, halved.Reads value → 0 ∉ value) ∧ halved.name ≠ "" ∧
      ¬ ∃ m, halved.module.result = .ok m := by
  refine ⟨fun value h => ?_, by decide, fun hok => ?_⟩
  · rw [eq_of_halved_reads h]
    decide
  · have hreads : halved.Reads [0xD800] :=
      ⟨[], _, [], rfl, _, List.mem_singleton_self _, .text [0xD800]⟩
    have hfault : Annotation.fault? [0xD800] = some (.surrogates 0xD800 0 0) := rfl
    cases hfault.symm.trans (succeeds_module.mp hok _ hreads)

end ParsedSource

end ClassDiagram
