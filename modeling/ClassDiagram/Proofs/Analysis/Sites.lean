import ClassDiagram.Proofs.Analysis.Findings

/-!
Which statements a module records. A statement of a module has a path: the positions that lead to it
through compound statements, never into a function or a class (`Stmt.Reaches`). The sites of a
module are those of its statements in document order, each once (`pairwise_sites`,
`mem_sites_iff`). The classes, the functions and the imported modules of an analysed module are the
images of its sites in this order, and there are no others (`records_module`).
-/

namespace ClassDiagram

open Source (Alias Expr Stmt)

/-! ## Paths -/

/-- Where a statement stands, and the statement. -/
structure Site where
  path : List Nat
  stmt : Stmt

/-- A site in a part of a compound statement. -/
def Site.behind (i : Nat) (site : Site) : Site := { site with path := i :: site.path }

namespace Source.Stmt

inductive IsCompound : Stmt → Prop
  | compound (parts : List Stmt) : IsCompound (.compound parts)

/-- A path leads from a statement to one that is reached through compound statements alone. -/
inductive Reaches : Stmt → List Nat → Stmt → Prop
  | self (stmt : Stmt) : Reaches stmt [] stmt
  | part {parts : List Stmt} {i : Nat} {part stmt : Stmt} {path : List Nat}
      (hpart : parts[i]? = some part) (h : Reaches part path stmt) :
    Reaches (.compound parts) (i :: path) stmt

/-- The sites that a statement has for those that are no compound statements. -/
def sites : Stmt → List Site
  | compound parts => sitesFrom 0 parts
  | stmt => [⟨[], stmt⟩]
where
  /-- The sites of the parts from this position on. -/
  sitesFrom : Nat → List Stmt → List Site
    | _, [] => []
    | i, stmt :: stmts => (sites stmt).map (Site.behind i) ++ sitesFrom (i + 1) stmts

mutual

theorem map_stmt_sites : ∀ stmt : Stmt, stmt.sites.map Site.stmt = stmt.modular
  | compound parts => map_stmt_sitesFrom 0 parts
  | classDef .. | functionDef .. | importModules .. | importFrom .. | annotated .. | assign ..
  | other => rfl

theorem map_stmt_sitesFrom : ∀ (i : Nat) (stmts : List Stmt),
    (sites.sitesFrom i stmts).map Site.stmt = modular.modularList stmts
  | _, [] => rfl
  | i, stmt :: stmts => by
    rw [sites.sitesFrom, modular.modularList, List.map_append, List.map_map,
      map_stmt_sitesFrom (i + 1) stmts, ← map_stmt_sites stmt]
    rfl

end

/-- The sites of parts begin with the position of the part. -/
theorem mem_sitesFrom_iff {i : Nat} {stmts : List Stmt} {site : Site} :
    site ∈ sites.sitesFrom i stmts ↔
      ∃ (k : Nat) (part : Stmt) (inner : Site), stmts[k]? = some part ∧ inner ∈ part.sites ∧
        site = inner.behind (i + k) := by
  induction stmts generalizing i with
  | nil => simp [sites.sitesFrom]
  | cons stmt stmts ih =>
    rw [sites.sitesFrom, List.mem_append, List.mem_map, ih]
    constructor
    · rintro (⟨inner, hinner, rfl⟩ | ⟨k, part, inner, hpart, hinner, rfl⟩)
      · exact ⟨0, stmt, inner, rfl, hinner, rfl⟩
      · exact ⟨k + 1, part, inner, hpart, hinner, by rw [Nat.add_right_comm, Nat.add_assoc]⟩
    · rintro ⟨_ | k, part, inner, hpart, hinner, rfl⟩
      · cases hpart
        exact .inl ⟨inner, hinner, rfl⟩
      · exact .inr ⟨k, part, inner, hpart, hinner, by rw [Nat.add_right_comm, Nat.add_assoc]⟩

/-- The sites are those that paths lead to. -/
theorem mem_sites_iff {stmt x : Stmt} {path : List Nat} :
    ⟨path, x⟩ ∈ stmt.sites ↔ stmt.Reaches path x ∧ ¬ x.IsCompound := by
  constructor
  · intro h
    induction path generalizing stmt with
    | nil =>
      cases stmt with
      | compound parts =>
        obtain ⟨_, _, _, _, _, hsite⟩ := mem_sitesFrom_iff.mp h
        cases congrArg Site.path hsite
      | _ =>
        cases List.mem_singleton.mp h
        exact ⟨.self _, fun hx => nomatch hx⟩
    | cons i path ih =>
      cases stmt with
      | compound parts =>
        obtain ⟨k, part, inner, hpart, hinner, hsite⟩ := mem_sitesFrom_iff.mp h
        cases hsite
        obtain ⟨hreaches, hx⟩ := ih hinner
        exact ⟨.part (by rwa [Nat.zero_add]) hreaches, hx⟩
      | _ => cases congrArg Site.path (List.mem_singleton.mp h)
  · rintro ⟨h, hx⟩
    induction h with
    | self stmt =>
      cases stmt with
      | compound parts => exact absurd (.compound parts) hx
      | _ => exact List.mem_singleton_self _
    | @part parts i part stmt path hpart h ih =>
      exact mem_sitesFrom_iff.mpr ⟨i, part, ⟨path, stmt⟩, hpart, ih hx, by rw [Nat.zero_add]; rfl⟩

mutual

/-- The sites come in document order, each once. -/
theorem pairwise_sites : ∀ stmt : Stmt, stmt.sites.Pairwise (·.path < ·.path)
  | compound parts => pairwise_sitesFrom 0 parts
  | classDef .. | functionDef .. | importModules .. | importFrom .. | annotated .. | assign ..
  | other => List.pairwise_singleton ..

theorem pairwise_sitesFrom : ∀ (i : Nat) (stmts : List Stmt),
    (sites.sitesFrom i stmts).Pairwise (·.path < ·.path)
  | _, [] => List.Pairwise.nil
  | i, stmt :: stmts => by
    refine List.pairwise_append.mpr ⟨?_, pairwise_sitesFrom (i + 1) stmts, ?_⟩
    · refine List.pairwise_map.mpr ((pairwise_sites stmt).imp fun hlt => ?_)
      exact List.cons_lt_cons_iff.mpr (.inr ⟨rfl, hlt⟩)
    · intro first hfirst later hlater
      obtain ⟨inner, -, rfl⟩ := List.mem_map.mp hfirst
      obtain ⟨k, part, inner', -, -, rfl⟩ := mem_sitesFrom_iff.mp hlater
      exact List.cons_lt_cons_iff.mpr (.inl (by omega))

end

end Source.Stmt

/-! ## Images -/

namespace Scope

variable {s : Scope}

/-- The class that a class statement defines. -/
def classOf? (s : Scope) : Stmt → Option (Except TextFault Class)
  | .classDef name bases body => some (ModuleAnalysis.newClass s name bases body).result
  | _ => none

/-- The function that a function statement defines. -/
def functionOf? (s : Scope) : Stmt → Option (Except TextFault (Method String))
  | .functionDef f _ => some (s.method s.moduleName false f)
  | _ => none

theorem images_of_found {stmt : Stmt} {f : Findings} (h : s.found stmt = .ok f) :
    (s.classOf? stmt).toList = f.classes.map .ok ∧
      (s.functionOf? stmt).toList = f.methods.map .ok := by
  cases stmt with
  | classDef name bases body =>
    obtain ⟨c, hc, h⟩ := except_bind_eq_ok.mp h
    cases h
    exact ⟨congrArg (fun x => [x]) hc, rfl⟩
  | functionDef head body =>
    obtain ⟨m, hm, h⟩ := except_bind_eq_ok.mp h
    cases h
    exact ⟨rfl, congrArg (fun x => [x]) hm⟩
  | _ =>
    cases h
    exact ⟨rfl, rfl⟩

/-- What statements add are the images of their sites, each in the scope behind the sites before
it. -/
theorem images_of_foundAll {around : Site → Scope} {sites : List Site} {f : Findings}
    (haround : ∀ before site after, sites = before ++ site :: after →
      around site = s.behind ((before.map Site.stmt).flatMap Import.ofStmt))
    (h : s.foundAll (sites.map Site.stmt) = .ok f) :
    sites.filterMap (fun site => (around site).classOf? site.stmt) = f.classes.map .ok ∧
      sites.filterMap (fun site => (around site).functionOf? site.stmt)
        = f.methods.map .ok := by
  induction sites generalizing s f with
  | nil =>
    cases h
    exact ⟨rfl, rfl⟩
  | cons site sites ih =>
    obtain ⟨first, hfirst, h⟩ := except_bind_eq_ok.mp h
    obtain ⟨more, hmore, h⟩ := except_bind_eq_ok.mp h
    cases h
    have hsite : around site = s := haround [] site sites rfl
    have hrest := ih (s := s.behind (Import.ofStmt site.stmt)) (f := more)
      (fun before later after hsites => by
        rw [haround (site :: before) later after (hsites ▸ rfl), behind_behind]
        rfl) hmore
    obtain ⟨hclasses, hmethods⟩ := images_of_found hfirst
    simp only [List.filterMap_eq_flatMap_toList] at hrest ⊢
    rw [List.flatMap_cons, List.flatMap_cons, hrest.1, hrest.2, hsite, hclasses, hmethods,
      Findings.classes_append, Findings.methods_append, List.map_append, List.map_append]
    exact ⟨rfl, rfl⟩

end Scope

namespace ParsedSource

variable {p : ParsedSource} {m : Module}

/-- The sites of a module, which is the list of its statements. -/
def sites (p : ParsedSource) : List Site := (Stmt.compound p.stmts).sites

/-- What names refer to at a site: the imports at the sites before it count. -/
def scopeAt (p : ParsedSource) (path : List Nat) : Scope :=
  p.scope.behind (((p.sites.filter (·.path < path)).map Site.stmt).flatMap Import.ofStmt)

theorem scopeAt_eq {before after : List Site} {site : Site}
    (h : p.sites = before ++ site :: after) : p.scopeAt site.path =
      p.scope.behind ((before.map Site.stmt).flatMap Import.ofStmt) := by
  have hordered : (before ++ site :: after).Pairwise (·.path < ·.path) :=
    h ▸ Stmt.pairwise_sites _
  obtain ⟨-, hlater, hearlier⟩ := List.pairwise_append.mp hordered
  have hbefore : before.filter (·.path < site.path) = before :=
    List.filter_eq_self.mpr fun q hq => decide_eq_true (hearlier q hq site List.mem_cons_self)
  have hafter : (site :: after).filter (·.path < site.path) = [] := by
    refine List.filter_eq_nil_iff.mpr fun q hq hlt => ?_
    have hlt := of_decide_eq_true hlt
    rcases List.mem_cons.mp hq with rfl | hq
    · exact List.lt_irrefl _ hlt
    · exact List.lt_asymm hlt ((List.pairwise_cons.mp hlater).1 q hq)
  rw [scopeAt, h, List.filter_append, hbefore, hafter, List.append_nil]

/-- A module holds the images of the sites, in their order, and nothing else. -/
structure Records (p : ParsedSource) (m : Module) : Prop where
  classes : p.sites.filterMap (fun site => (p.scopeAt site.path).classOf? site.stmt)
    = m.classes.map .ok
  functions : p.sites.filterMap (fun site => (p.scopeAt site.path).functionOf? site.stmt)
    = m.methods.map .ok
  dependencies : p.sites.flatMap (fun site => p.scope.importEntries site.stmt) = m.dependencies

/-- **An analysed module holds the images of its sites.** -/
theorem records_module (h : p.module.result = .ok m) : p.Records m := by
  obtain ⟨f, hf, rfl⟩ := module_eq_ok_iff.mp h
  have hstmts : p.sites.map Site.stmt = p.visited := Stmt.map_stmt_sites _
  rw [← hstmts] at hf
  obtain ⟨hclasses, hfunctions⟩ :=
    Scope.images_of_foundAll (fun _ _ _ => scopeAt_eq (p := p)) hf
  refine ⟨hclasses, hfunctions, ?_⟩
  rw [← List.flatMap_map]
  exact (Scope.dependencies_of_foundAll hf).symm

/-- A class of the module is that of a class statement at a site. -/
theorem Records.exists_classDef (h : p.Records m) {c : Class} (hc : c ∈ m.classes) :
    ∃ path name bases body, ⟨path, .classDef name bases body⟩ ∈ p.sites ∧
      (ModuleAnalysis.newClass (p.scopeAt path) name bases body).result = .ok c := by
  have himage : Except.ok c ∈ p.sites.filterMap fun site =>
      (p.scopeAt site.path).classOf? site.stmt := h.classes ▸ List.mem_map_of_mem hc
  obtain ⟨⟨path, stmt⟩, hsite, hclass⟩ := List.mem_filterMap.mp himage
  cases stmt with
  | classDef name bases body => exact ⟨path, name, bases, body, hsite, Option.some.inj hclass⟩
  | _ => cases hclass

/-- A function of the module is that of a function statement at a site. -/
theorem Records.exists_functionDef (h : p.Records m) {f : Method String} (hf : f ∈ m.methods) :
    ∃ path head body, ⟨path, .functionDef head body⟩ ∈ p.sites ∧
      (p.scopeAt path).method (p.scopeAt path).moduleName false head = .ok f := by
  have himage : Except.ok f ∈ p.sites.filterMap fun site =>
      (p.scopeAt site.path).functionOf? site.stmt := h.functions ▸ List.mem_map_of_mem hf
  obtain ⟨⟨path, stmt⟩, hsite, hfunction⟩ := List.mem_filterMap.mp himage
  cases stmt with
  | functionDef head body => exact ⟨path, head, body, hsite, Option.some.inj hfunction⟩
  | _ => cases hfunction

/-- **Exactly the statements of the module itself are recorded, in document order.** If no string in
an annotation has a fault, the module is analysed. Its sites are those that are reached through
compound statements of any nesting, each once and in document order, and it holds their images: a
class for a class statement, a function for a function statement, the entries of an import. A `from`
with a module part has one entry. -/
theorem analysed_records {p : ParsedSource}
    (h : ∀ value, p.Reads value → 0 ∉ value ∧ ∀ c ∈ value, Annotation.isSurrogate c = false) :
    p.sites.Pairwise (·.path < ·.path) ∧
      (∀ path stmt, ⟨path, stmt⟩ ∈ p.sites ↔
        (Stmt.compound p.stmts).Reaches path stmt ∧ ¬ stmt.IsCompound) ∧
      (∃ m, p.module.result = .ok m ∧ p.Records m) ∧
      ∀ source aliases level, source ≠ "" →
        (p.scope.importEntries (.importFrom (some source) aliases level)).length = 1 := by
  obtain ⟨m, hm⟩ := succeeds_module.mpr fun value hvalue =>
    Annotation.fault?_eq_none_iff.mpr (h value hvalue)
  refine ⟨Stmt.pairwise_sites _, fun path stmt => Stmt.mem_sites_iff,
    ⟨m, hm, records_module hm⟩, fun source aliases level hsource => ?_⟩
  rw [Scope.importEntries, Scope.importTargets_member _ hsource]
  rfl

/-- A module with a class in a compound statement, between imports. -/
def atlas : ParsedSource where
  name := "atlas"
  stmts := [
    .importModules [⟨"land.relief", none⟩, ⟨"sea", none⟩],
    .compound [
      .compound [.classDef "Map" [] [.annotated (.name "key") (.text ['K'.toNat])]],
      .importFrom (some "ink") [⟨"Blue", none⟩, ⟨"Brown", none⟩] 0],
    .importFrom none [⟨"*", none⟩] 0,
    .functionDef { name := "fold", parameters := {}, returns := none, decorators := [] } []]

theorem atlas_legible (value : List Text.CodePoint) (h : atlas.Reads value) :
    0 ∉ value ∧ ∀ c ∈ value, Annotation.isSurrogate c = false := by
  obtain ⟨before, stmt, after, hsite, e, he, hreads⟩ := h
  have hstmt : stmt ∈ atlas.visited := hsite ▸ List.mem_append_right _ List.mem_cons_self
  have hhint : e ∈ atlas.visited.flatMap Scope.hints := List.mem_flatMap.mpr ⟨stmt, hstmt, he⟩
  obtain rfl : e = .text ['K'.toNat] := List.mem_singleton.mp hhint
  rcases Scope.eq_or_eq_nil_of_reads_singleton hreads with rfl | rfl <;> decide

theorem analysed_records_atlas :
    (∀ value, atlas.Reads value →
      0 ∉ value ∧ ∀ c ∈ value, Annotation.isSurrogate c = false) ∧
    atlas.sites.map Site.path = [[0], [1, 0, 0], [1, 1], [2], [3]] ∧
    ∃ m, atlas.module.result = .ok m ∧ atlas.Records m ∧
      m.dependencyNames = ["land.relief", "sea", "ink"] := by
  obtain ⟨-, -, ⟨m, hm, hrecords⟩, -⟩ := analysed_records atlas_legible
  refine ⟨atlas_legible, rfl, m, hm, hrecords, ?_⟩
  rw [Module.dependencyNames, ← hrecords.dependencies]
  rfl

/-- A module with a parameter whose annotation is a lone surrogate. -/
def torn : ParsedSource where
  name := "torn"
  stmts := [
    .functionDef {
      name := "mend", parameters := { positional := [⟨"seam", some (.text [0xD800])⟩] }
      returns := none, decorators := [] } [],
    .classDef "Coat" [] []]

/-- A module with a surrogate in an annotation records nothing, though no string in it holds the
code point zero. -/
theorem surrogate_unrecorded :
    (∀ value, torn.Reads value → 0 ∉ value) ∧
      ¬ ∃ m, torn.module.result = .ok m ∧ torn.Records m := by
  have hhints : torn.visited.flatMap Scope.hints = [.text [0xD800]] := rfl
  refine ⟨?_, fun ⟨m, hm, _⟩ => ?_⟩
  · rintro value ⟨before, stmt, after, hsite, e, he, hreads⟩
    have hstmt : stmt ∈ torn.visited := hsite ▸ List.mem_append_right _ List.mem_cons_self
    have hhint : e ∈ torn.visited.flatMap Scope.hints := List.mem_flatMap.mpr ⟨stmt, hstmt, he⟩
    rw [hhints] at hhint
    rw [List.mem_singleton.mp hhint] at hreads
    rw [Scope.eq_of_reads_faulty Annotation.fault?_surrogate hreads]
    decide
  · have hreads : torn.Reads [0xD800] :=
      ⟨[], _, _, rfl, _, List.mem_singleton_self _, .text [0xD800]⟩
    cases Annotation.fault?_surrogate.symm.trans (succeeds_module.mp ⟨m, hm⟩ _ hreads)

end ParsedSource

end ClassDiagram
