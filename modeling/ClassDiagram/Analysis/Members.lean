import ClassDiagram.Analysis.TypeResolution
import ClassDiagram.Model.Element

/-!
The members that the body of a class contributes. Functions are methods, or accessors of a
property; assignments in the body, and assignments to attributes of the instance in methods, are
properties.
-/

namespace ClassDiagram.Scope

open Source (Expr FunctionHead Parameters Stmt)

/-! ## Decorators -/

/-- What a decorator that is called is before the call. -/
def calledFunction : Expr → Expr
  | .call function => function
  | e => e

/-- The last identifier of a decorator, with the one before it if the last tells an accessor. -/
def decoratorName (e : Expr) : String :=
  match (calledFunction e).chain.reverse with
  | [] => ""
  | [id] => id
  | id :: owner :: _ =>
    if id = "setter" ∨ id = "getter" ∨ id = "deleter" then owner ++ "." ++ id else id

def decoratorNames (f : FunctionHead) : List String := f.decorators.map decoratorName

/-- What a function in a class is for. -/
inductive Role
  | getter
  | setter
  | deleter
  | method
  deriving DecidableEq, Repr

def role (f : FunctionHead) : Role :=
  let names := decoratorNames f
  if "property" ∈ names ∨ "cached_property" ∈ names then .getter
  else if f.name ++ ".setter" ∈ names then .setter
  else if f.name ++ ".deleter" ∈ names then .deleter
  else .method

/-! ## Functions -/

/-- The parameters that have a place in a signature: those that are not variadic. -/
def signatureParameters (ps : Parameters) : List Source.Parameter :=
  ps.positionalOnly ++ ps.positional ++ ps.keywordOnly

/-- The types of the parameters that resolve, in order. -/
def resolveParameters (s : Scope) :
    List Source.Parameter → Except TextFault (List QualifiedName)
  | [] => return []
  | p :: ps => do
    let type ← s.resolve? p.hint
    return type.toList ++ (← s.resolveParameters ps)

/-- A function of a module, or of a class, where a receiver leads the parameters unless the
function is static. -/
def method (s : Scope) (parent : String) (inClass : Bool) (f : FunctionHead) :
    Except TextFault (Method String) := do
  let names := decoratorNames f
  let isStatic := "staticmethod" ∈ names ∨ "classmethod" ∈ names
  let returnType ← s.resolve? f.returns
  let parameters := signatureParameters f.parameters
  let argumentTypes ← s.resolveParameters
    (if inClass ∧ "staticmethod" ∉ names then parameters.drop 1 else parameters)
  return {
    header := {
      name := f.name, parent := some parent, visibility := .ofName f.name
      lifetime := if isStatic then .static else .perInstance }
    returnType, argumentTypes }

/-! ## Properties -/

/-- A new property, with the visibility that its name says. -/
def newProperty (parent name : String) (lifetime : Lifetime := .perInstance)
    (type : Option QualifiedName := none) (getter setter : Bool := false) : Property String where
  header := { name, parent := some parent, visibility := .ofName name, lifetime }
  hasGetter := getter
  hasSetter := setter
  type

/-- The attribute that an assignment to the instance sets. -/
def instanceAttribute? : Expr → Option String
  | .member (.name id) attr => if id = "self" then some attr else none
  | _ => none

/-- The targets and the annotation of a statement that can set attributes of the instance; plain
assignments count in a constructor only. -/
def instanceTargets (constructor : Bool) : Stmt → List Expr × Option Expr
  | .annotated target hint => ([target], some hint)
  | .assign targets => if constructor then (targets, none) else ([], none)
  | _ => ([], none)

def instanceProperties (s : Scope) (parent : String) (hint : Option Expr) :
    List Expr → Except TextFault (List (Property String))
  | [] => return []
  | target :: targets => do
    let first ← match instanceAttribute? target with
      | none => pure []
      | some attr => do
        let type ← s.resolve? hint
        pure [newProperty parent attr .perInstance type]
    return first ++ (← s.instanceProperties parent hint targets)

/-- The properties of the instance that the statements of a method set. -/
def attributesOf (s : Scope) (parent : String) (constructor : Bool) :
    List Stmt → Except TextFault (List (Property String))
  | [] => return []
  | stmt :: stmts => do
    let (targets, hint) := instanceTargets constructor stmt
    let first ← s.instanceProperties parent hint targets
    return first ++ (← s.attributesOf parent constructor stmts)

/-! ## Class bodies -/

/-- What a class gets from a statement of its body. -/
inductive Contribution
  | method (m : Method String)
  | property (p : Property String)

/-- A class-level annotation that makes an attribute static. -/
def isClassVariable (hint : Expr) : Bool :=
  lastIdentifier (baseTarget hint) == some "ClassVar"

def functionContributions (s : Scope) (parent : String) (f : FunctionHead) (stmt : Stmt) :
    Except TextFault (List Contribution) := do
  match role f with
  | .getter =>
    let type ← s.resolve? f.returns
    return [.property (newProperty parent f.name .perInstance type true false)]
  | .setter =>
    let type ← s.resolve? (f.parameters.positional[1]?.bind (·.hint))
    return [.property (newProperty parent f.name .perInstance type false true)]
  | .deleter => return []
  | .method =>
    let m ← s.method parent true f
    let attributes ← s.attributesOf parent (f.name = "__init__") stmt.walk
    return .method m :: attributes.map .property

/-- What the class named `parent` gets from one statement of its body. -/
def contributions (s : Scope) (parent : String) (stmt : Stmt) :
    Except TextFault (List Contribution) :=
  match stmt with
  | .functionDef f _ => s.functionContributions parent f stmt
  | .annotated (.name id) hint => do
    let lifetime := if isClassVariable hint then Lifetime.static else .perInstance
    return [.property (newProperty parent id lifetime (← s.resolve hint))]
  | .assign targets =>
    return targets.filterMap fun
      | .name id => some (.property (newProperty parent id .static))
      | _ => none
  | _ => return []

def Contribution.addTo (c : Class) : Contribution → Class
  | method m => c.addMethod m
  | property p => c.addProperty p

/-- Adds what the statements of a body contribute. -/
def addBody (s : Scope) (c : Class) : List Stmt → Except TextFault Class
  | [] => return c
  | stmt :: stmts => do
    let new ← s.contributions c.name stmt
    s.addBody (new.foldl Contribution.addTo c) stmts

end ClassDiagram.Scope
