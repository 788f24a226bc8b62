import ClassDiagram.Proofs.Analysis.Decorators
import ClassDiagram.Proofs.Analysis.Quotation
import ClassDiagram.Proofs.Model.Property

/-!
The members of a class. Each statement of a class says of some names that they are properties, in
one of five ways (`Origin`), whatever scope it stands in. The methods of an analysed class are its
functions that are no accessors, and its properties are the names that have an origin: each combines
all origins of its name (`members_ok`, `hasMembers_newClass`).
-/

namespace ClassDiagram

open Source (Expr FunctionHead Stmt)

/-! ## Statements below a statement -/

namespace Source.Stmt

/-- A statement is another one or stands at any depth below it. -/
inductive Holds : Stmt → Stmt → Prop
  | self (stmt : Stmt) : Holds stmt stmt
  | part {stmt part x : Stmt} (hpart : part ∈ stmt.parts) (h : Holds part x) : Holds stmt x

theorem mem_flatten_zipLevels {α : Type} {x : α} {as bs : List (List α)} :
    x ∈ (zipLevels as bs).flatten ↔ x ∈ as.flatten ∨ x ∈ bs.flatten := by
  induction as generalizing bs with
  | nil => simp [zipLevels]
  | cons a as ih =>
    cases bs with
    | nil => simp [zipLevels]
    | cons b bs =>
      simp only [zipLevels, List.flatten_cons, List.mem_append, ih]
      exact or_or_or_comm

theorem mem_flatten_levelsOf {x : Stmt} {stmts : List Stmt} :
    x ∈ (levels.levelsOf stmts).flatten ↔ ∃ stmt ∈ stmts, x ∈ stmt.walk := by
  induction stmts with
  | nil => simp [levels.levelsOf]
  | cons stmt stmts ih =>
    rw [levels.levelsOf, mem_flatten_zipLevels, ih, List.exists_mem_cons_iff]
    rfl

/-- The walk goes through the parts. -/
theorem mem_walk_iff_part {stmt x : Stmt} :
    x ∈ stmt.walk ↔ x = stmt ∨ ∃ part ∈ stmt.parts, x ∈ part.walk := by
  cases stmt with
  | classDef | functionDef | compound =>
    rw [walk, levels, List.flatten_cons, List.singleton_append, List.mem_cons,
      mem_flatten_levelsOf]
    rfl
  | _ => simp [walk, levels, parts]

theorem sizeOf_lt_of_mem_parts {stmt part : Stmt} (h : part ∈ stmt.parts) :
    sizeOf part < sizeOf stmt := by
  cases stmt with
  | classDef name bases body =>
    have hbody : sizeOf part < sizeOf body := List.sizeOf_lt_of_mem h
    rw [classDef.sizeOf_spec]
    omega
  | functionDef head body =>
    have hbody : sizeOf part < sizeOf body := List.sizeOf_lt_of_mem h
    rw [functionDef.sizeOf_spec]
    omega
  | compound body =>
    have hbody : sizeOf part < sizeOf body := List.sizeOf_lt_of_mem h
    rw [compound.sizeOf_spec]
    omega
  | _ => cases h

theorem holds_of_mem_walk {stmt x : Stmt} (h : x ∈ stmt.walk) : stmt.Holds x := by
  rcases mem_walk_iff_part.mp h with rfl | ⟨part, hpart, hx⟩
  · exact .self x
  · exact .part hpart (holds_of_mem_walk hx)
termination_by sizeOf stmt
decreasing_by exact sizeOf_lt_of_mem_parts hpart

/-- The walk reaches the statements at any depth. -/
theorem mem_walk_iff {stmt x : Stmt} : x ∈ stmt.walk ↔ stmt.Holds x := by
  refine ⟨holds_of_mem_walk, fun h => ?_⟩
  induction h with
  | self stmt => exact mem_walk_iff_part.mpr (.inl rfl)
  | part hpart h ih => exact mem_walk_iff_part.mpr (.inr ⟨_, hpart, ih⟩)

end Source.Stmt

namespace Scope

variable {s : Scope} {parent : String}

/-! ## Origins -/

/-- Where a statement of a class says that there is a property. -/
inductive Origin
  | getter (f : FunctionHead)
  | setter (f : FunctionHead)
  | annotated (id : String) (hint : Expr)
  | assigned (id : String)
  /-- An assignment to an attribute of the instance, in a method. -/
  | ofInstance (id : String) (hint : Option Expr)

namespace Origin

def name : Origin → String
  | getter f | setter f => f.name
  | annotated id _ | assigned id | ofInstance id _ => id

/-- The annotation that gives the type: what a getter returns, what a setter takes. -/
def hint : Origin → Option Expr
  | getter f => f.returns
  | setter f => f.parameters.positional[1]?.bind (·.hint)
  | annotated _ hint => some hint
  | assigned _ => none
  | ofInstance _ hint => hint

/-- A plain assignment in the class itself, or an annotation that is marked as one of the class. -/
def isStatic : Origin → Bool
  | annotated _ hint => isClassVariable hint
  | assigned _ => true
  | _ => false

def isGetter : Origin → Bool
  | getter _ => true
  | _ => false

def isSetter : Origin → Bool
  | setter _ => true
  | _ => false

/-- The type that the annotation refers to, if it refers to one of a project. -/
def type (s : Scope) (o : Origin) : Option QualifiedName := (s.resolve? o.hint).toOption.join

/-- The property of one origin. -/
def property (s : Scope) (parent : String) (o : Origin) : Property String :=
  newProperty parent o.name (if o.isStatic then .static else .perInstance) (o.type s) o.isGetter
    o.isSetter

theorem type_eq {o : Origin} {type : Option QualifiedName} (h : s.resolve? o.hint = .ok type) :
    o.type s = type := by
  rw [Origin.type, h]
  rfl

end Origin

/-- The origins in assignments to these targets in a method. -/
def targetOrigins (hint : Option Expr) (targets : List Expr) : List Origin :=
  (targets.filterMap instanceAttribute?).map (.ofInstance · hint)

/-- The origins in a statement below a method. -/
def instanceOrigins (constructor : Bool) (stmt : Stmt) : List Origin :=
  targetOrigins (instanceTargets constructor stmt).2 (instanceTargets constructor stmt).1

/-- The origins in a statement of a class, in the order of the visit. -/
def origins : Stmt → List Origin
  | stmt@(.functionDef f _) =>
    match role f with
    | .getter => [.getter f]
    | .setter => [.setter f]
    | .deleter => []
    | .method => stmt.walk.flatMap (instanceOrigins (f.name = "__init__"))
  | .annotated (.name id) hint => [.annotated id hint]
  | .assign targets => targets.filterMap fun
    | .name id => some (.assigned id)
    | _ => none
  | _ => []

/-- The ways in which a statement of a class contributes a property to it. -/
inductive Contributes : Stmt → Origin → Prop
  | getter {f : FunctionHead} (body : List Stmt) (h : IsGetter f) :
    Contributes (.functionDef f body) (.getter f)
  | setter {f : FunctionHead} (body : List Stmt) (h : IsSetter f) :
    Contributes (.functionDef f body) (.setter f)
  | annotated (id : String) (hint : Expr) :
    Contributes (.annotated (.name id) hint) (.annotated id hint)
  | assigned {targets : List Expr} {id : String} (h : .name id ∈ targets) :
    Contributes (.assign targets) (.assigned id)
  /-- An annotated attribute of the instance, at any depth in a method. -/
  | hinted {f : FunctionHead} {body : List Stmt} {attr : String} {hint : Expr}
      (hmethod : IsMethod f)
      (h : (Stmt.functionDef f body).Holds (.annotated (.member (.name "self") attr) hint)) :
    Contributes (.functionDef f body) (.ofInstance attr (some hint))
  /-- An attribute of the instance that is assigned to, at any depth in a constructor. -/
  | set {f : FunctionHead} {body : List Stmt} {targets : List Expr} {attr : String}
      (hmethod : IsMethod f) (hconstructor : f.name = "__init__")
      (h : (Stmt.functionDef f body).Holds (.assign targets))
      (htarget : .member (.name "self") attr ∈ targets) :
    Contributes (.functionDef f body) (.ofInstance attr none)

/-- The identifiers in the decorators of a function are words. -/
def PlainlyDecorated : Stmt → Prop
  | .functionDef f _ => ∀ d ∈ f.decorators, d.Named
  | _ => True

theorem instanceAttribute?_eq_some_iff {target : Expr} {attr : String} :
    instanceAttribute? target = some attr ↔ target = .member (.name "self") attr := by
  constructor
  · intro h
    unfold instanceAttribute? at h
    split at h
    · rename_i id other
      by_cases hself : id = "self"
      · rw [if_pos hself] at h
        rw [hself, Option.some.inj h]
      · rw [if_neg hself] at h
        cases h
    · cases h
  · rintro rfl
    rfl

theorem mem_targetOrigins_iff {hint : Option Expr} {targets : List Expr} {o : Origin} :
    o ∈ targetOrigins hint targets ↔
      ∃ attr, .member (.name "self") attr ∈ targets ∧ .ofInstance attr hint = o := by
  simp only [targetOrigins, List.mem_map, List.mem_filterMap, instanceAttribute?_eq_some_iff,
    exists_eq_right]

theorem mem_instanceOrigins_iff {constructor : Bool} {stmt : Stmt} {o : Origin} :
    o ∈ instanceOrigins constructor stmt ↔
      (∃ attr hint, stmt = .annotated (.member (.name "self") attr) hint ∧
        .ofInstance attr (some hint) = o) ∨
      (constructor = true ∧ ∃ targets attr, stmt = .assign targets ∧
        .member (.name "self") attr ∈ targets ∧ .ofInstance attr none = o) := by
  rw [instanceOrigins, mem_targetOrigins_iff]
  cases stmt with
  | annotated target hint =>
    simp only [instanceTargets, List.mem_singleton, Stmt.annotated.injEq, reduceCtorEq, false_and,
      exists_const, and_false, or_false]
    constructor
    · rintro ⟨attr, rfl, rfl⟩
      exact ⟨attr, hint, ⟨rfl, rfl⟩, rfl⟩
    · rintro ⟨attr, _, ⟨rfl, rfl⟩, rfl⟩
      exact ⟨attr, rfl, rfl⟩
  | assign targets =>
    cases constructor <;> simp [instanceTargets]
  | _ => simp [instanceTargets]

/-- The origins in a statement are the ways in which it contributes properties. -/
theorem mem_origins_iff {stmt : Stmt} {o : Origin} (hplain : PlainlyDecorated stmt) :
    o ∈ origins stmt ↔ Contributes stmt o := by
  cases stmt with
  | functionDef f body =>
    have hgetter := role_eq_getter_iff hplain
    have hsetter := role_eq_setter_iff hplain
    have hmethod := role_eq_method_iff hplain
    constructor
    · intro h
      rw [origins] at h
      cases hrole : role f with
      | getter =>
        rw [hrole] at h
        cases List.mem_singleton.mp h
        exact .getter body (hgetter.mp hrole)
      | setter =>
        rw [hrole] at h
        cases List.mem_singleton.mp h
        exact .setter body (hsetter.mp hrole)
      | deleter =>
        rw [hrole] at h
        cases h
      | method =>
        rw [hrole] at h
        obtain ⟨x, hx, ho⟩ := List.mem_flatMap.mp h
        have hx := Stmt.mem_walk_iff.mp hx
        rcases mem_instanceOrigins_iff.mp ho with
          ⟨attr, hint, rfl, rfl⟩ | ⟨hconstructor, targets, attr, rfl, htarget, rfl⟩
        · exact .hinted (hmethod.mp hrole) hx
        · exact .set (hmethod.mp hrole) (of_decide_eq_true hconstructor) hx htarget
    · intro h
      rw [origins]
      cases h with
      | getter _ h =>
        rw [hgetter.mpr h]
        exact List.mem_singleton_self _
      | setter _ h =>
        rw [hsetter.mpr h]
        exact List.mem_singleton_self _
      | hinted h hx =>
        rw [hmethod.mpr h]
        refine List.mem_flatMap.mpr ⟨_, Stmt.mem_walk_iff.mpr hx, ?_⟩
        exact mem_instanceOrigins_iff.mpr (.inl ⟨_, _, rfl, rfl⟩)
      | set h hconstructor hx htarget =>
        rw [hmethod.mpr h]
        refine List.mem_flatMap.mpr ⟨_, Stmt.mem_walk_iff.mpr hx, ?_⟩
        exact mem_instanceOrigins_iff.mpr
          (.inr ⟨decide_eq_true hconstructor, _, _, rfl, htarget, rfl⟩)
  | annotated target hint =>
    cases target with
    | name id =>
      constructor
      · intro h
        cases List.mem_singleton.mp h
        exact .annotated id hint
      · rintro ⟨⟩
        exact List.mem_singleton_self _
    | _ => exact iff_of_false List.not_mem_nil (nomatch ·)
  | assign targets =>
    constructor
    · intro h
      obtain ⟨target, htarget, ho⟩ := List.mem_filterMap.mp h
      cases target with
      | name id =>
        cases ho
        exact .assigned htarget
      | _ => cases ho
    · rintro ⟨⟩
      exact List.mem_filterMap.mpr ⟨_, ‹_›, rfl⟩
  | _ => exact iff_of_false List.not_mem_nil (nomatch ·)

/-- The method that a function of a class is. -/
def methodOf? (s : Scope) (parent : String) : Stmt → Option (Except TextFault (Method String))
  | .functionDef f _ => if IsMethod f then some (s.method parent true f) else none
  | _ => none

/-- The same, by the role of the function. -/
def methodByRole? (s : Scope) (parent : String) : Stmt → Option (Except TextFault (Method String))
  | .functionDef f _ => if role f = .method then some (s.method parent true f) else none
  | _ => none

theorem methodOf?_eq {stmt : Stmt} (hplain : PlainlyDecorated stmt) :
    s.methodOf? parent stmt = s.methodByRole? parent stmt := by
  cases stmt with
  | functionDef f body => exact if_congr (role_eq_method_iff hplain).symm rfl rfl
  | _ => rfl

/-! ## Contributions -/

namespace Contribution

def method? : Contribution → Option (Method String)
  | method m => some m
  | property _ => none

def property? : Contribution → Option (Property String)
  | method _ => none
  | property p => some p

theorem filterMap_method?_property (ps : List (Property String)) :
    (ps.map property).filterMap method? = [] := by
  rw [List.filterMap_map]
  exact List.filterMap_eq_nil_iff.mpr fun _ _ => rfl

theorem filterMap_property?_property (ps : List (Property String)) :
    (ps.map property).filterMap property? = ps := by
  rw [List.filterMap_map]
  exact List.filterMap_some

end Contribution

theorem properties_of_instanceProperties {hint : Option Expr} {targets : List Expr}
    {ps : List (Property String)} (h : s.instanceProperties parent hint targets = .ok ps) :
    ps = (targetOrigins hint targets).map (Origin.property s parent) := by
  induction targets generalizing ps with
  | nil =>
    cases h
    rfl
  | cons target targets ih =>
    rw [instanceProperties] at h
    cases htarget : instanceAttribute? target with
    | none =>
      simp only [htarget, pure_bind] at h
      obtain ⟨more, hmore, h⟩ := except_bind_eq_ok.mp h
      cases h
      rw [targetOrigins, List.filterMap_cons_none htarget]
      exact ih hmore
    | some attr =>
      simp only [htarget, pure_bind] at h
      obtain ⟨type, htype, h⟩ := except_bind_eq_ok.mp h
      obtain ⟨more, hmore, h⟩ := except_bind_eq_ok.mp h
      cases h
      rw [targetOrigins, List.filterMap_cons_some htarget, List.map_cons, List.map_cons,
        Origin.property, Origin.type_eq (o := .ofInstance attr hint) htype, ih hmore]
      rfl

theorem properties_of_attributesOf {constructor : Bool} {stmts : List Stmt}
    {ps : List (Property String)} (h : s.attributesOf parent constructor stmts = .ok ps) :
    ps = (stmts.flatMap (instanceOrigins constructor)).map (Origin.property s parent) := by
  induction stmts generalizing ps with
  | nil =>
    cases h
    rfl
  | cons stmt stmts ih =>
    obtain ⟨first, hfirst, h⟩ := except_bind_eq_ok.mp h
    obtain ⟨more, hmore, h⟩ := except_bind_eq_ok.mp h
    cases h
    rw [List.flatMap_cons, List.map_append, ← ih hmore]
    exact congrArg (· ++ more) (properties_of_instanceProperties hfirst)

/-- What a statement contributes to a class: the method that it is, and a property for each of its
origins. -/
theorem contributions_ok {stmt : Stmt} {new : List Contribution}
    (h : s.contributions parent stmt = .ok new) :
    (s.methodByRole? parent stmt).toList = (new.filterMap Contribution.method?).map .ok ∧
      new.filterMap Contribution.property? = (origins stmt).map (Origin.property s parent) := by
  cases stmt with
  | functionDef f body =>
    rw [contributions, functionContributions] at h
    rw [methodByRole?, origins]
    cases hrole : role f with
    | getter =>
      rw [hrole] at h
      obtain ⟨type, htype, h⟩ := except_bind_eq_ok.mp h
      cases h
      refine ⟨rfl, ?_⟩
      rw [List.map_singleton, Origin.property, Origin.type_eq (o := .getter f) htype]
      rfl
    | setter =>
      rw [hrole] at h
      obtain ⟨type, htype, h⟩ := except_bind_eq_ok.mp h
      cases h
      refine ⟨rfl, ?_⟩
      rw [List.map_singleton, Origin.property, Origin.type_eq (o := .setter f) htype]
      rfl
    | deleter =>
      rw [hrole] at h
      cases h
      exact ⟨rfl, rfl⟩
    | method =>
      rw [hrole] at h
      obtain ⟨m, hm, h⟩ := except_bind_eq_ok.mp h
      obtain ⟨attributes, hattributes, h⟩ := except_bind_eq_ok.mp h
      cases h
      rw [List.filterMap_cons, List.filterMap_cons, Contribution.filterMap_method?_property,
        Contribution.filterMap_property?_property, ← properties_of_attributesOf hattributes]
      refine ⟨?_, rfl⟩
      rw [if_pos rfl, hm]
      rfl
  | annotated target hint =>
    cases target with
    | name id =>
      obtain ⟨type, htype, h⟩ := except_bind_eq_ok.mp h
      cases h
      refine ⟨rfl, ?_⟩
      rw [origins, List.map_singleton, Origin.property,
        Origin.type_eq (o := .annotated id hint) htype]
      rfl
    | _ =>
      cases h
      exact ⟨rfl, rfl⟩
  | assign targets =>
    cases h
    rw [origins, List.filterMap_filterMap, List.filterMap_filterMap]
    constructor
    · refine (congrArg (List.map Except.ok) (List.filterMap_eq_nil_iff.mpr fun target _ => ?_)).symm
      cases target <;> rfl
    · rw [List.map_filterMap]
      refine List.filterMap_congr fun target _ => ?_
      cases target <;> rfl
  | _ =>
    cases h
    exact ⟨rfl, rfl⟩

theorem addTo_foldl (new : List Contribution) (c : Class) :
    (new.foldl Contribution.addTo c).name = c.name ∧
      (new.foldl Contribution.addTo c).methods
        = c.methods ++ new.filterMap Contribution.method? ∧
      (new.foldl Contribution.addTo c).properties
        = (new.filterMap Contribution.property?).foldl (fun ps p => p.insert ps) c.properties := by
  induction new generalizing c with
  | nil => exact ⟨rfl, (List.append_nil _).symm, rfl⟩
  | cons k new ih =>
    obtain ⟨hname, hmethods, hproperties⟩ := ih (k.addTo c)
    rw [List.foldl_cons, hname, hmethods, hproperties]
    cases k with
    | method m => exact ⟨rfl, List.append_assoc c.methods [m] _, rfl⟩
    | property p => exact ⟨rfl, rfl, rfl⟩

/-- The body of a class adds its methods, and a property for each origin. -/
theorem addBody_members {c d : Class} {body : List Stmt} (h : s.addBody c body = .ok d) :
    ∃ methods, d.methods = c.methods ++ methods ∧
      body.filterMap (s.methodByRole? c.name) = methods.map .ok ∧
      d.properties = ((body.flatMap origins).map (Origin.property s c.name)).foldl
        (fun ps p => p.insert ps) c.properties := by
  induction body generalizing c with
  | nil =>
    cases h
    exact ⟨[], (List.append_nil _).symm, rfl, rfl⟩
  | cons stmt body ih =>
    obtain ⟨new, hnew, h⟩ := except_bind_eq_ok.mp h
    obtain ⟨hname, hmethods, hproperties⟩ := addTo_foldl new c
    obtain ⟨hmethod, hproperty⟩ := contributions_ok hnew
    obtain ⟨methods, hall, himages, hadded⟩ := ih h
    rw [hname] at himages hadded
    rw [hmethods, List.append_assoc] at hall
    refine ⟨_, hall, ?_, ?_⟩
    · rw [List.filterMap_eq_flatMap_toList] at himages ⊢
      rw [List.flatMap_cons, hmethod, himages, List.map_append]
    · rw [hadded, hproperties, hproperty, List.flatMap_cons, List.map_append, List.foldl_append]

theorem exists_origin_iff {body : List Stmt} (hplain : ∀ stmt ∈ body, PlainlyDecorated stmt)
    {p : Origin → Prop} : (∃ o ∈ body.flatMap origins, p o) ↔
      ∃ stmt ∈ body, ∃ o, Contributes stmt o ∧ p o := by
  constructor
  · rintro ⟨o, ho, hp⟩
    obtain ⟨stmt, hstmt, ho⟩ := List.mem_flatMap.mp ho
    exact ⟨stmt, hstmt, o, (mem_origins_iff (hplain stmt hstmt)).mp ho, hp⟩
  · rintro ⟨stmt, hstmt, o, ho, hp⟩
    exact ⟨o, List.mem_flatMap.mpr ⟨stmt, hstmt, (mem_origins_iff (hplain stmt hstmt)).mpr ho⟩, hp⟩

/-- The first origin of a name in a body, in the order of the visit. -/
def firstOrigin? (body : List Stmt) (name : String) : Option Origin :=
  (body.flatMap origins).find? (·.name = name)

/-- A class has the members that the statements of its body contribute, and no others. -/
structure HasMembers (s : Scope) (body : List Stmt) (c : Class) : Prop where
  methods : body.filterMap (s.methodOf? c.name) = c.methods.map .ok
  distinct : (c.properties.map Property.name).Nodup
  contributed : ∀ n, (∃! p, p ∈ c.properties ∧ p.name = n) ↔
    ∃ stmt ∈ body, ∃ o, Contributes stmt o ∧ o.name = n
  getter : ∀ p ∈ c.properties, p.hasGetter = true ↔
    ∃ f inner, .functionDef f inner ∈ body ∧ f.name = p.name ∧ IsGetter f
  setter : ∀ p ∈ c.properties, p.hasSetter = true ↔
    ∃ f inner, .functionDef f inner ∈ body ∧ f.name = p.name ∧ IsSetter f
  lifetime : ∀ p ∈ c.properties, p.header.lifetime = .static ↔
    ∃ o, firstOrigin? body p.name = some o ∧ o.isStatic = true
  type : ∀ p ∈ c.properties, p.type =
    ((body.flatMap origins).filter (·.name = p.name)).findSome? (Origin.type s)

/-- A property of a class combines the origins of its name. -/
theorem combines_origins {os : List Origin} {p : Property String}
    (h : p ∈ Property.insertAll (os.map (Origin.property s parent))) :
    p.Combines ((os.filter (·.name = p.name)).map (Origin.property s parent)) := by
  have hcombines := Property.combines_of_mem_insertAll h
  rwa [List.filter_map] at hcombines

/-- There is a property for each name of an origin. -/
theorem mem_names_iff {os : List Origin} {n : String} :
    n ∈ (Property.insertAll (os.map (Origin.property s parent))).map Property.name ↔
      ∃ o ∈ os, o.name = n := by
  rw [Property.names_insertAll, List.mem_eraseDups, List.map_map, List.mem_map]
  rfl

theorem any_origin_iff {body : List Stmt} (hplain : ∀ stmt ∈ body, PlainlyDecorated stmt)
    {tells : Origin → Bool} {n : String} :
    ((body.flatMap origins).filter (·.name = n)).any tells = true ↔
      ∃ stmt ∈ body, ∃ o, Contributes stmt o ∧ o.name = n ∧ tells o = true := by
  rw [← exists_origin_iff hplain, List.any_eq_true]
  simp only [List.mem_filter, decide_eq_true_eq, and_assoc]

section Combined

variable {body : List Stmt} {p : Property String}
  (hcombines : p.Combines
    (((body.flatMap origins).filter (·.name = p.name)).map (Origin.property s parent)))
include hcombines

theorem hasGetter_iff (hplain : ∀ stmt ∈ body, PlainlyDecorated stmt) : p.hasGetter = true ↔
    ∃ f inner, .functionDef f inner ∈ body ∧ f.name = p.name ∧ IsGetter f := by
  rw [hcombines.hasGetter, List.any_map]
  refine (any_origin_iff hplain).trans ⟨?_, ?_⟩
  · rintro ⟨stmt, hstmt, o, ho, hname, hgetter⟩
    cases ho with
    | getter inner h => exact ⟨_, inner, hstmt, hname, h⟩
    | _ => cases hgetter
  · rintro ⟨f, inner, hstmt, hname, h⟩
    exact ⟨_, hstmt, .getter f, .getter inner h, hname, rfl⟩

theorem hasSetter_iff (hplain : ∀ stmt ∈ body, PlainlyDecorated stmt) : p.hasSetter = true ↔
    ∃ f inner, .functionDef f inner ∈ body ∧ f.name = p.name ∧ IsSetter f := by
  rw [hcombines.hasSetter, List.any_map]
  refine (any_origin_iff hplain).trans ⟨?_, ?_⟩
  · rintro ⟨stmt, hstmt, o, ho, hname, hsetter⟩
    cases ho with
    | setter inner h => exact ⟨_, inner, hstmt, hname, h⟩
    | _ => cases hsetter
  · rintro ⟨f, inner, hstmt, hname, h⟩
    exact ⟨_, hstmt, .setter f, .setter inner h, hname, rfl⟩

theorem static_iff : p.header.lifetime = .static ↔
    ∃ o, firstOrigin? body p.name = some o ∧ o.isStatic = true := by
  have hfirst := hcombines.header
  rw [List.head?_map, List.head?_filter, Option.map_map] at hfirst
  obtain ⟨o, ho, hheader⟩ := Option.map_eq_some_iff.mp hfirst
  have hlifetime : p.header.lifetime = if o.isStatic then .static else .perInstance :=
    congrArg Header.lifetime hheader.symm
  simp only [firstOrigin?, ho, hlifetime, Option.some.injEq, exists_eq_left']
  cases o.isStatic <;> simp

theorem type_eq_findSome? : p.type =
    ((body.flatMap origins).filter (·.name = p.name)).findSome? (Origin.type s) := by
  rw [hcombines.type, List.findSome?_map]
  rfl

end Combined

end Scope

namespace ModuleAnalysis

/-- The methods of a class are its functions with that role, in their order, and its properties
combine the origins in its body. -/
theorem members_by_role {s : Scope} {name : String} {bases : List Expr} {body : List Stmt}
    {c : Class} (h : (newClass s name bases body).result = .ok c) :
    body.filterMap (s.methodByRole? name) = c.methods.map .ok ∧
      c.properties = Property.insertAll
        ((body.flatMap Scope.origins).map (Scope.Origin.property s name)) := by
  obtain ⟨base, -, h⟩ := Logged.result_bind_eq_ok.mp h
  rw [Logged.result_log_bind, Logged.result_ofExcept] at h
  obtain ⟨methods, hmethods, himages, hproperties⟩ := Scope.addBody_members h
  exact ⟨hmethods ▸ himages, hproperties⟩

/-- The methods of a class are its functions that are no accessors, in their order, and its
properties combine the origins in its body. -/
theorem members_ok {s : Scope} {name : String} {bases : List Expr} {body : List Stmt} {c : Class}
    (hplain : ∀ stmt ∈ body, Scope.PlainlyDecorated stmt)
    (h : (newClass s name bases body).result = .ok c) :
    body.filterMap (s.methodOf? name) = c.methods.map .ok ∧
      c.properties = Property.insertAll
        ((body.flatMap Scope.origins).map (Scope.Origin.property s name)) := by
  refine (members_by_role h).imp_left fun hmethods => ?_
  have hroles : body.filterMap (s.methodOf? name) = body.filterMap (s.methodByRole? name) :=
    List.filterMap_congr fun stmt hstmt => Scope.methodOf?_eq (hplain stmt hstmt)
  exact hroles.trans hmethods

/-- **An analysed class has the members that its body contributes.** -/
theorem hasMembers_newClass {s : Scope} {name : String} {bases : List Expr} {body : List Stmt}
    {c : Class} (hplain : ∀ stmt ∈ body, Scope.PlainlyDecorated stmt)
    (h : (newClass s name bases body).result = .ok c) : s.HasMembers body c := by
  obtain ⟨hmethods, hproperties⟩ := members_ok hplain h
  have hcombines : ∀ p ∈ c.properties, p.Combines (((body.flatMap Scope.origins).filter
      (·.name = p.name)).map (Scope.Origin.property s name)) := fun p hp =>
    Scope.combines_origins (hproperties ▸ hp)
  have hdistinct : (c.properties.map Property.name).Nodup :=
    hproperties ▸ Property.nodup_names_insertAll _
  have hnames : ∀ n, n ∈ c.properties.map Property.name ↔
      ∃ o ∈ body.flatMap Scope.origins, o.name = n := fun n => hproperties ▸ Scope.mem_names_iff
  exact {
    methods := (newClass_ok h).1 ▸ hmethods
    distinct := hdistinct
    contributed := fun n => by
      rw [← Scope.exists_origin_iff hplain, ← hnames, List.mem_map]
      refine ⟨ExistsUnique.exists, fun ⟨p, hp, hn⟩ => ⟨p, ⟨hp, hn⟩, fun q ⟨hq, hqn⟩ => ?_⟩⟩
      exact List.inj_on_of_nodup_map hdistinct hq hp (hqn.trans hn.symm)
    getter := fun p hp => Scope.hasGetter_iff (hcombines p hp) hplain
    setter := fun p hp => Scope.hasSetter_iff (hcombines p hp) hplain
    lifetime := fun p hp => Scope.static_iff (hcombines p hp)
    type := fun p hp => Scope.type_eq_findSome? (hcombines p hp) }

/-- **The members of a class are exactly its contributions.** If no string in an annotation has a
fault, the class is analysed. Its methods are its functions that are no accessors, in their order.
It has one property for each name that a statement contributes, with a getter or a setter if a
function of that name is one; the property is static if its first origin is, and has the first
type. -/
theorem analysed_members {s : Scope} {name : String} {bases : List Expr} {body : List Stmt}
    (hplain : ∀ stmt ∈ body, Scope.PlainlyDecorated stmt)
    (h : ∀ value, (∃ e ∈ body.flatMap Scope.memberHints, s.Reads e value) →
      0 ∉ value ∧ ∀ c ∈ value, Annotation.isSurrogate c = false) :
    ∃ c, (newClass s name bases body).result = .ok c ∧ c.name = name ∧ s.HasMembers body c := by
  obtain ⟨c, hc⟩ : Succeeds (newClass s name bases body).result := by
    refine succeeds_newClass.mpr fun e he value hvalue => ?_
    exact Annotation.fault?_eq_none_iff.mpr (h value ⟨e, he, hvalue⟩)
  exact ⟨c, hc, (newClass_ok hc).1, hasMembers_newClass hplain hc⟩

/-- A class with an accessor, and with an attribute that is annotated before it is set. -/
def ledger : List Stmt := [
  .functionDef {
    name := "total", parameters := {}, returns := some (.text ['S'.toNat])
    decorators := [.name "property"] } [],
  .annotated (.name "owner") (.subscript (.name "ClassVar") (.name "Person")),
  .functionDef { name := "__init__", parameters := {}, returns := none, decorators := [] } [
    .compound [.assign [.member (.name "self") "owner", .member (.name "self") "total"]]]]

theorem ledger_plain : ∀ stmt ∈ ledger, Scope.PlainlyDecorated stmt := by
  rintro stmt (_ | ⟨_, _ | ⟨_, _ | ⟨_, ⟨⟩⟩⟩⟩)
  · intro d hd
    rw [List.mem_singleton.mp hd]
    exact .name (by decide)
  · trivial
  · exact fun d hd => nomatch hd

theorem ledger_legible {s : Scope} (value : List Text.CodePoint)
    (h : ∃ e ∈ ledger.flatMap Scope.memberHints, s.Reads e value) :
    0 ∉ value ∧ ∀ c ∈ value, Annotation.isSurrogate c = false := by
  obtain ⟨e, he, hreads⟩ := h
  have he : e ∈ [.text ['S'.toNat], .subscript (.name "ClassVar") (.name "Person")] := he
  rcases List.mem_pair.mp he with rfl | rfl
  · rcases Scope.eq_or_eq_nil_of_reads_singleton hreads with rfl | rfl <;> decide
  · cases hreads with
    | argument hwrapped hinner =>
      cases hwrapped
      cases hinner
    | subscripted hwrapped => cases hwrapped

theorem analysed_members_ledger :
    (∀ stmt ∈ ledger, Scope.PlainlyDecorated stmt) ∧
    ∃ c, (newClass { moduleName := "book" } "Ledger" [] ledger).result = .ok c ∧
      (∃ p ∈ c.properties, p.name = "owner" ∧ p.header.lifetime = .static) ∧
      ∃ p ∈ c.properties, p.name = "total" ∧ p.hasGetter = true ∧
        p.header.lifetime ≠ .static := by
  obtain ⟨c, hc, -, hmembers⟩ : ∃ c, (newClass { moduleName := "book" } "Ledger" []
      ledger).result = .ok c ∧ c.name = "Ledger" ∧ Scope.HasMembers _ ledger c :=
    analysed_members ledger_plain ledger_legible
  refine ⟨ledger_plain, c, hc, ?owner, ?total⟩
  case owner =>
    have hmem : .annotated (.name "owner") (.subscript (.name "ClassVar") (.name "Person"))
        ∈ ledger := List.mem_cons_of_mem _ List.mem_cons_self
    obtain ⟨p, ⟨hp, hname⟩, -⟩ :=
      (hmembers.contributed "owner").mpr ⟨_, hmem, _, .annotated .., rfl⟩
    refine ⟨p, hp, hname, (hmembers.lifetime p hp).mpr ?_⟩
    rw [hname]
    exact ⟨_, rfl, rfl⟩
  case total =>
    obtain ⟨p, ⟨hp, hname⟩, -⟩ := (hmembers.contributed "total").mpr
      ⟨_, List.mem_cons_self, _, .getter [] (by decide), rfl⟩
    refine ⟨p, hp, hname, (hmembers.getter p hp).mpr ?_, fun hstatic => ?_⟩
    · exact ⟨_, [], List.mem_cons_self, hname.symm, by decide⟩
    · obtain ⟨o, ho, hstatic⟩ := (hmembers.lifetime p hp).mp hstatic
      rw [hname] at ho
      cases ho
      cases hstatic

/-- A class with a method that has a lone surrogate for an annotation. -/
def blotted : List Stmt := [
  .assign [.name "pages"],
  .functionDef {
    name := "turn", returns := none, decorators := []
    parameters := { positional := [⟨"self", none⟩, ⟨"leaf", some (.text [0xD800])⟩] } } []]

theorem blotted_plain : ∀ stmt ∈ blotted, Scope.PlainlyDecorated stmt := by
  rintro stmt (_ | ⟨_, _ | ⟨_, ⟨⟩⟩⟩)
  · trivial
  · exact fun d hd => nomatch hd

/-- A class with a surrogate in an annotation gets no members, though no string in it holds the code
point zero. -/
theorem surrogate_memberless :
    (∀ stmt ∈ blotted, Scope.PlainlyDecorated stmt) ∧
      (∀ value, (∃ e ∈ blotted.flatMap Scope.memberHints,
        Scope.Reads { moduleName := "book" } e value) → 0 ∉ value) ∧
      ¬ ∃ c, (newClass { moduleName := "book" } "Notebook" [] blotted).result = .ok c := by
  have hhints : blotted.flatMap Scope.memberHints = [.text [0xD800]] := rfl
  refine ⟨blotted_plain, ?_, fun hok => ?_⟩
  · rintro value ⟨e, he, hreads⟩
    rw [hhints] at he
    rw [List.mem_singleton.mp he] at hreads
    rw [Scope.eq_of_reads_faulty Annotation.fault?_surrogate hreads]
    decide
  · have hlegible := succeeds_newClass.mp hok (.text [0xD800]) (List.mem_singleton_self _)
    cases Annotation.fault?_surrogate.symm.trans (hlegible _ (.text _))

end ModuleAnalysis

end ClassDiagram
