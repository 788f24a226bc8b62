import ClassDiagram.Proofs.Analysis.Accessors
import ClassDiagram.Proofs.Diagram.Associations

/-!
What holds of the module of any text. The identifiers of a text are words, so nothing has to be
asked of them: each class of its module has the members that its statement contributes
(`Module.hasMembers_of_ofText`), with the accessors apart from the methods
(`Module.accessorsApart_of_ofText`), and all names that are stored are canonical
(`Module.canonical_of_ofText`).
-/

namespace ClassDiagram

open Diagram (Edge)
open Source (Stmt)

namespace ParsedSource

variable {p : ParsedSource} {m : Module}

/-- A class of a module is that of a class statement at a site, with the members that the body of
the statement contributes in the scope there. -/
def HasClass (p : ParsedSource) (path : List Nat) (body : List Stmt) (c : Class) : Prop :=
  (∃ bases, ⟨path, .classDef c.name bases body⟩ ∈ p.sites) ∧ (p.scopeAt path).HasMembers body c

theorem Named.exists_hasClass (h : p.Named) (hm : p.module.result = .ok m) {c : Class}
    (hc : c ∈ m.classes) : ∃ path body, p.HasClass path body c := by
  obtain ⟨path, name, bases, body, hsite, hnew⟩ := (records_module hm).exists_classDef hc
  obtain rfl : c.name = name := (ModuleAnalysis.newClass_ok hnew).1
  refine ⟨path, body, ⟨bases, hsite⟩, ModuleAnalysis.hasMembers_newClass ?_ hnew⟩
  cases h.site hsite with
  | classDef _ _ hbody => exact fun stmt hstmt => Scope.plainlyDecorated_of_named (hbody stmt hstmt)

end ParsedSource

namespace Module

variable {file name text : String} {isPackage : Bool} {m : Module}
  (h : (Module.ofText file name isPackage text).result = .ok m)
include h

/-- **The classes of a text have the members that their statements contribute.** -/
theorem hasMembers_of_ofText :
    ∃ p : ParsedSource, p.name = name ∧ p.isPackage = isPackage ∧
      Source.Program.ofText? text.toList = some p.stmts ∧
      ∀ c ∈ m.classes, ∃ path body, p.HasClass path body c := by
  obtain ⟨p, hname, hpackage, hstmts, hnamed, hm⟩ := ParsedSource.exists_named_of_ofText h
  exact ⟨p, hname, hpackage, hstmts, fun c hc => hnamed.exists_hasClass hm hc⟩

/-- **The accessors of a text are kept apart from its methods**, but for the form that does not
count. -/
theorem accessorsApart_of_ofText :
    ∃ p : ParsedSource, p.name = name ∧ p.isPackage = isPackage ∧
      Source.Program.ofText? text.toList = some p.stmts ∧
      ∀ c ∈ m.classes, ∃ path bases body, ⟨path, .classDef c.name bases body⟩ ∈ p.sites ∧
        (p.scopeAt path).AccessorsApart body c := by
  obtain ⟨p, hname, hpackage, hstmts, hclasses⟩ := hasMembers_of_ofText h
  refine ⟨p, hname, hpackage, hstmts, fun c hc => ?_⟩
  obtain ⟨path, body, ⟨bases, hsite⟩, hmembers⟩ := hclasses c hc
  exact ⟨path, bases, body, hsite, hmembers.accessorsApart⟩

/-- **The names that are stored for a text are canonical, so no dependency is lost.** A typing
module comes before a class of the module itself only. -/
theorem canonical_of_ofText (hname : name ≠ "") :
    (∀ q ∈ m.types, q.Canonical ∧ ∀ scope n, q = .pair scope n → scope ∈ Scope.typingModules →
      scope = name ∧ ∃ c ∈ m.classes, c.name = n) ∧
    ∀ c ∈ m.classes, c.dependencies = (c.properties.filterMap Property.type).eraseDups ∧
      ('/' ∉ name.toList → '|' ∉ name.toList → ∀ path,
        ((associations path c).map Edge.head).Nodup) := by
  obtain ⟨p, rfl, -, -, hnamed, hm⟩ := ParsedSource.exists_named_of_ofText h
  refine ⟨fun q hq => ?names, fun c hc => ⟨?dependencies, fun hslash hbar path => ?heads⟩⟩
  case names =>
    have hgives := ParsedSource.gives_types hname hnamed hm q hq
    refine ⟨hgives.canonical, fun scope n hpair htyping => ?_⟩
    obtain ⟨hscope, hclass⟩ := hgives.typing scope n hpair htyping
    exact ⟨hscope, ParsedSource.exists_class_of_declares hm (ParsedSource.declares_iff.mpr hclass)⟩
  case dependencies => exact ParsedSource.dependencies_of_class hname hnamed hm hc
  case heads => exact ParsedSource.nodup_heads_associations hname hnamed hm hslash hbar hc path

end Module

end ClassDiagram
