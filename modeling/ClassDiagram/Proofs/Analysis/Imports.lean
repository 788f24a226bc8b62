import ClassDiagram.Analysis.Scope
import ClassDiagram.Proofs.Dictionary
import ClassDiagram.Proofs.Log

/-!
What imports bind. Each name of an import statement is an import of its own, which binds at most
one name (`Import.binding?`); a statement binds what its imports bind (`bindings_importModules`,
`bindings_importFrom`), and behind imports a name stands for what the last of them bound it to
(`get?_behind_of_boundBy`).
-/

namespace ClassDiagram

open Source (Alias Stmt)

/-- One name of an import statement. -/
inductive Import
  | module (a : Alias)
  | member (source : Option String) (level : Nat) (a : Alias)

namespace Scope

variable {ε : Type} (s : Scope)

/-- The module that a `from` import names. -/
def sourceName (source : Option String) (level : Nat) : String :=
  if level = 0 then source.getD ""
  else
    match s.package level with
    | .ok package => Text.Dotted.join (package ++ source.toList)
    | .error () => Text.Dotted.join source.toList

theorem importSource_result (source : Option String) (level : Nat) :
    (s.importSource source level : Logged ε String).result = .ok (s.sourceName source level) := by
  unfold importSource sourceName
  split
  · rfl
  · cases s.package level <;> rfl

theorem sourceName_congr {s t : Scope} (hmodule : s.moduleName = t.moduleName)
    (hpackage : s.isPackage = t.isPackage) : s.sourceName = t.sourceName := by
  funext source level
  rw [sourceName, sourceName, package, package, hmodule, hpackage]

end Scope

namespace Import

/-- The imports of a statement. -/
def ofStmt : Stmt → List Import
  | .importModules aliases => aliases.map .module
  | .importFrom source aliases level => aliases.map (.member source level)
  | _ => []

/-- The name that an import binds in a scope, and what it stands for. Without a rename, a dotted
module binds its first segment. A `from` import with a star binds nothing here, and neither does one
from a module without a name. -/
def binding? (s : Scope) : Import → Option (String × String)
  | .module ⟨name, some id⟩ => some (id, name)
  | .module ⟨name, none⟩ => some (Text.Dotted.head name, Text.Dotted.head name)
  | .member source level a =>
    let package := s.sourceName source level
    if a.name = "*" ∨ (package = "" ∧ source ≠ none) then none
    else some (Scope.boundName a, Scope.within package a.name)

/-- What an import binds depends on the place of the module alone. -/
theorem binding?_congr {s t : Scope} (hmodule : s.moduleName = t.moduleName)
    (hpackage : s.isPackage = t.isPackage) (i : Import) : i.binding? s = i.binding? t := by
  obtain ⟨name, _ | id⟩ | ⟨source, level, a⟩ := i
  · rfl
  · rfl
  · simp only [binding?, Scope.sourceName_congr hmodule hpackage]

end Import

namespace Scope

variable {ε : Type} (s : Scope)

theorem bindings_importModules (aliases : List Alias) :
    (importModules aliases).bindings = (aliases.map Import.module).filterMap (·.binding? s) := by
  induction aliases with
  | nil => rfl
  | cons a aliases ih =>
    rcases a with ⟨name, _ | id⟩
    · exact congrArg ((Text.Dotted.head name, Text.Dotted.head name) :: ·) ih
    · exact congrArg ((id, name) :: ·) ih

theorem bindings_importFrom {source : Option String} {aliases : List Alias} {level : Nat}
    {effect : ImportEffect}
    (h : (s.importFrom source aliases level : Logged ε ImportEffect).result = .ok effect) :
    effect.bindings = (aliases.map (Import.member source level)).filterMap (·.binding? s) := by
  obtain ⟨package, hpackage, h⟩ := Logged.result_bind_eq_ok.mp h
  rw [importSource_result, Except.ok.injEq] at hpackage
  rw [List.filterMap_map]
  cases source with
  | none =>
    rw [← Except.ok.inj h]
    refine List.filterMap_congr fun a _ => ?_
    simp [Import.binding?, hpackage]
  | some name =>
    have h : (if package = "" then {} else importMembers package aliases) = effect :=
      Except.ok.inj h
    rw [← h]
    split
    · rename_i hempty
      refine (List.filterMap_eq_nil_iff.mpr fun a _ => ?_).symm
      simp [Import.binding?, hpackage, hempty]
    · rename_i hne
      refine List.filterMap_congr fun a _ => ?_
      simp [Import.binding?, hpackage, hne, within]

/-- A name is bound by this import: nothing behind it binds the name to anything else. -/
def BoundBy (imports : List Import) (i : Import) (name : String) : Prop :=
  ∃ earlier later, imports = earlier ++ i :: later ∧
    ∀ j ∈ later, ∀ target, j.binding? s = some (name, target) → i.binding? s = some (name, target)

/-- The scope behind imports. -/
def behind (imports : List Import) : Scope := s.bind (imports.filterMap (·.binding? s))

theorem behind_behind (first more : List Import) :
    (s.behind first).behind more = s.behind (first ++ more) := by
  have hbindings : more.filterMap (·.binding? (s.behind first)) = more.filterMap (·.binding? s) :=
    List.filterMap_congr fun i _ => i.binding?_congr (by rfl) (by rfl)
  rw [behind, hbindings]
  simp only [behind, bind, List.filterMap_append, Dictionary.putAll_append]

theorem get?_behind_of_boundBy {imports : List Import} {i : Import} {name target : String}
    (h : s.BoundBy imports i name) (hi : i.binding? s = some (name, target)) :
    (s.behind imports).bindings.get? name = some target := by
  obtain ⟨earlier, later, rfl, hlater⟩ := h
  have hsplit : (earlier ++ i :: later).filterMap (·.binding? s)
      = earlier.filterMap (·.binding? s) ++ (name, target) :: later.filterMap (·.binding? s) := by
    rw [List.filterMap_append, List.filterMap_cons_some hi]
  show (s.bindings.putAll _).get? name = some target
  rw [hsplit]
  refine Dictionary.get?_putAll_of_last fun other hother => ?_
  obtain ⟨j, hj, hbinding⟩ := List.mem_filterMap.mp hother
  have hsame := hi.symm.trans (hlater j hj other hbinding)
  exact (Prod.mk.inj (Option.some.inj hsame)).2.symm

end Scope

end ClassDiagram
