import Mathlib
import ClassDiagram.Project.Project
import ClassDiagram.Proofs.Project.RelativeImport

/-!
Imports of a root that is a package. The module in its file is named as the root, while the files
beside it are named by the way from the root. So its relative imports record names behind that of
the root (`importFrom_package_siblings`, `importFrom_package_members`), which are the names of no
file beside it (`root_package_misses_siblings`); the import of a sibling is not connected to it
(`root_package_disconnected`).
-/

namespace ClassDiagram

open Source (Alias Stmt)

/-- The place of the file that makes the root of a project a package. -/
def Place.rootPackage : Place := ⟨[], packageStem, List.forall_mem_nil _, by decide⟩

/-- The name of the module in that file. -/
def ModuleName.ofRoot (fs : FileSystem) (root : String) : String :=
  (fs.absolute root).parts.getLastD ""

namespace Scope

variable {s : Scope}

/-- An import of one level in a package starts at the package itself. -/
theorem importSource_package {ε : Type} (hpackage : s.isPackage = true) (source : Option String) :
    (s.importSource source 1 : Logged ε String) =
      ⟨[], .ok (Text.Dotted.join (Text.Dotted.segments s.moduleName ++ source.toList))⟩ := by
  have hpackage' : s.package 1 = .ok (Text.Dotted.segments s.moduleName) := by
    rw [package, hpackage, if_pos rfl]
    simp
  rw [importSource, if_neg (by decide), hpackage']
  rfl

theorem importFrom_package_siblings {ε : Type} (hpackage : s.isPackage = true)
    (aliases : List Alias) : (s.importFrom none aliases 1 : Logged ε ImportEffect) =
      ⟨[], .ok (importSiblings s.moduleName aliases)⟩ := by
  rw [importFrom, importSource_package hpackage, Option.toList_none, List.append_nil,
    Text.Dotted.join_segments]
  exact Logged.mk_ok_bind_pure ..

theorem importFrom_package_members {ε : Type} (hpackage : s.isPackage = true) (source : String)
    (aliases : List Alias) : (s.importFrom (some source) aliases 1 : Logged ε ImportEffect) =
      ⟨[], .ok (importMembers (s.moduleName ++ "." ++ source) aliases)⟩ := by
  have hjoin : Text.Dotted.join (Text.Dotted.segments s.moduleName ++ [source]) =
      s.moduleName ++ "." ++ source := by
    rw [Text.Dotted.join_append (Text.Dotted.segments_ne_nil _) (List.cons_ne_nil _ []),
      Text.Dotted.join_segments]
    rfl
  have hne : s.moduleName ++ "." ++ source ≠ "" := by
    intro h
    simpa using congrArg String.toList h
  rw [importFrom, importSource_package hpackage, Option.toList_some, hjoin]
  refine (Logged.mk_ok_bind_pure ..).trans ?_
  rw [if_neg hne]

end Scope

namespace Place

theorem ofPath?_rootPackage {fs : FileSystem} {root : String} (hroot : fs.isFile root = false) :
    ModuleName.ofPath? fs root (rootPackage.path root) = some (ModuleName.ofRoot fs root) :=
  (ofPath?_eq hroot).trans (congrArg some (if_pos rfl))

/-- The file of a module beside the root package is named by its stem. -/
theorem ofPath?_beside {fs : FileSystem} {root : String} (hroot : fs.isFile root = false)
    {q : Place} (hfolders : q.folders = []) (hstem : q.stem ≠ packageStem) :
    ModuleName.ofPath? fs root (q.path root) = some q.stem := by
  have hsegments : q.segments = [q.stem] := by
    rw [segments, if_neg hstem, hfolders, List.nil_append]
  rw [ofPath?_path hroot (hsegments ▸ List.cons_ne_nil _ []), moduleName, hsegments]
  rfl

/-- A name behind that of the root is the name of no file in the root directory. -/
theorem ofPath?_ne_behind {fs : FileSystem} {root : String} (hroot : fs.isFile root = false)
    {q : Place} (hfolders : q.folders = []) (name : String) :
    ModuleName.ofPath? fs root (q.path root) ≠ some (ModuleName.ofRoot fs root ++ "." ++ name) := by
  intro h
  by_cases hstem : q.stem = packageStem
  · have hsegments : q.segments = [] := by rw [segments, if_pos hstem, hfolders]
    rw [ofPath?_eq hroot, if_pos hsegments] at h
    have hlength := congrArg String.length (Option.some.inj h)
    rw [String.length_append, String.length_append] at hlength
    have hpoint : ".".length = 1 := rfl
    change (ModuleName.ofRoot fs root).length = _ at hlength
    omega
  · rw [ofPath?_beside hroot hfolders hstem] at h
    have hpoint := q.stem_plain.point_not_mem
    rw [Option.some.inj h] at hpoint
    simp at hpoint

end Place

/-- **The imports of a root package record names behind that of the root**, while a file beside it
has its own name only. The two forms of import meet no file of the root directory, but for the first
form where the root has no name. -/
theorem root_package_misses_siblings {fs : FileSystem} {root : String}
    (hroot : fs.isFile root = false) :
    ModuleName.ofPath? fs root (Place.rootPackage.path root) =
      some (ModuleName.ofRoot fs root) ∧
    isPackageFile (Place.rootPackage.path root) = true ∧
    (∀ f : Place, f.folders = [] → ∀ name, ModuleName.ofPath? fs root (f.path root) ≠
      some (ModuleName.ofRoot fs root ++ "." ++ name)) ∧
    ∀ stmts before a,
      ((ModuleAnalysis.start (ModuleName.ofRoot fs root) true stmts).visitAll before).result =
        .ok a →
      ∀ q : Place, q.folders = [] → q.stem ≠ packageStem →
        ModuleName.ofPath? fs root (q.path root) = some q.stem ∧
        (q.stem ≠ "*" → ∀ bound, ∃ b target,
          a.visit (.importFrom none [⟨q.stem, bound⟩] 1) = ⟨[], .ok b⟩ ∧
          b.module = { a.module with dependencies := a.module.dependencies ++
            [ModuleAnalysis.newImport (ModuleName.ofRoot fs root) target] } ∧
          (target = ModuleName.ofRoot fs root ++ "." ++ q.stem ∨
            ModuleName.ofRoot fs root = "" ∧ target = q.stem)) ∧
        ∀ aliases, ∃ b, a.visit (.importFrom (some q.stem) aliases 1) = ⟨[], .ok b⟩ ∧
          b.module = { a.module with dependencies := a.module.dependencies ++
            [ModuleAnalysis.newImport (ModuleName.ofRoot fs root)
              (ModuleName.ofRoot fs root ++ "." ++ q.stem)] } := by
  refine ⟨Place.ofPath?_rootPackage hroot, (Place.isPackageFile_path root).mpr rfl,
    fun f hf name => Place.ofPath?_ne_behind hroot hf name, ?_⟩
  intro stmts before a ha q hfolders hstem
  have hpackage : a.scope.isPackage = true := by
    simp only [ModuleAnalysis.visitAll_scope ha, Scope.behind, Scope.bind, ModuleAnalysis.start]
  have hscope : a.scope.moduleName = ModuleName.ofRoot fs root := by
    simp only [ModuleAnalysis.visitAll_scope ha, Scope.behind, Scope.bind, ModuleAnalysis.start]
  have hname : a.module.name = ModuleName.ofRoot fs root := by
    show a.module.header.name = _
    rw [(ModuleAnalysis.visitAll_grown ha).header, ModuleAnalysis.start]
  refine ⟨Place.ofPath?_beside hroot hfolders hstem, ?sibling, ?member⟩
  case sibling =>
    intro hstar bound
    refine ⟨_, Scope.within (ModuleName.ofRoot fs root) q.stem, ModuleAnalysis.visit_importFrom
      (Scope.importFrom_package_siblings hpackage [⟨q.stem, bound⟩]), ?_, ?_⟩
    · simp only [Scope.importSiblings, List.filterMap_cons, List.filterMap_nil, hstar, if_false,
        hscope, ModuleAnalysis.module_addImports, hname]
    · rw [Scope.within]
      split
      · rename_i hempty
        exact .inr ⟨hempty, rfl⟩
      · exact .inl rfl
  case member =>
    intro aliases
    refine ⟨_, ModuleAnalysis.visit_importFrom
      (Scope.importFrom_package_members hpackage q.stem aliases), ?_⟩
    rw [Scope.importMembers, ModuleAnalysis.module_addImports, hname, hscope]

/-- A project that is a package, and imports a module from itself. -/
def shelf : FileSystem where
  root := .folder [("app", .folder [
    ("__init__.py", .file "from . import x\n".toUTF8), ("x.py", .file "".toUTF8)])]

/-- The module beside the package. -/
def shelfModule : Place := ⟨[], "x", List.forall_mem_nil _, by decide⟩

theorem root_package_misses_siblings_shelf :
    shelf.isFile "app" = false ∧
    ModuleName.ofPath? shelf "app" (Place.rootPackage.path "app") = some "app" ∧
    ModuleName.ofPath? shelf "app" (shelfModule.path "app") = some "x" ∧
    ∃ b, (ModuleAnalysis.start "app" true []).visit (.importFrom (some "x") [⟨"C", none⟩] 1) =
        ⟨[], .ok b⟩ ∧ b.module.dependencyNames = ["app.x"] := by
  have hroot : shelf.isFile "app" = false := by decide +kernel
  have hname : ModuleName.ofRoot shelf "app" = "app" := by decide +kernel
  obtain ⟨hpackage, -, -, hvisit⟩ := root_package_misses_siblings hroot
  rw [hname] at hpackage hvisit
  obtain ⟨hsibling, -, hmember⟩ := hvisit [] [] _ rfl shelfModule rfl (by decide)
  obtain ⟨b, hb, hmodule⟩ := hmember [⟨"C", none⟩]
  refine ⟨hroot, hpackage, hsibling, b, hb, ?_⟩
  rw [hmodule]
  rfl

/-- The import of a module beside the package records another name than that of its file. -/
theorem root_package_disconnected :
    ¬ ∀ (fs : FileSystem) (root : String) (q : Place) (text : String) (stmts : List Stmt)
        (m : Module), fs.isFolder root = true → q.folders = [] → q.stem ≠ packageStem →
      fs.isFile (q.path root) = true →
      fs.readText? (Place.rootPackage.path root) = some text →
      Source.Program.ofText? text.toList = some stmts →
      .importFrom none [⟨q.stem, none⟩] 1 ∈ stmts →
      (Module.ofFile fs root (Place.rootPackage.path root)).result = .ok m →
      ∃ target, ModuleName.ofPath? fs root (q.path root) = some target ∧
        target ∈ m.dependencyNames := by
  intro h
  have htext : shelf.readText? (Place.rootPackage.path "app") = some "from . import x\n" := by
    decide +kernel
  have hstmts : Source.Program.ofText? "from . import x\n".toList =
      some [.importFrom none [⟨"x", none⟩] 1] := by cbv
  have hname : ModuleName.ofPath? shelf "app" (Place.rootPackage.path "app") = some "app" := by
    decide +kernel
  have hpackage : isPackageFile (Place.rootPackage.path "app") = true := by decide +kernel
  obtain ⟨m, hm, hdependencies⟩ : ∃ m,
      (Module.ofFile shelf "app" (Place.rootPackage.path "app")).result = .ok m ∧
        m.dependencyNames = ["app.x"] := by
    rw [Module.ofFile, Logged.result_log_bind, if_neg (by decide +kernel), htext, hname, hpackage]
    simp only [Module.ofText, hstmts]
    rw [if_neg (by decide)]
    exact ⟨_, rfl, by decide⟩
  obtain ⟨target, htarget, hmem⟩ := h shelf "app" shelfModule _ _ m (by decide +kernel) rfl
    (by decide) (by decide +kernel) htext hstmts (List.mem_singleton_self _) hm
  have hbeside : ModuleName.ofPath? shelf "app" (shelfModule.path "app") = some "x" := by
    decide +kernel
  obtain rfl : "x" = target := Option.some.inj (hbeside.symm.trans htarget)
  rw [hdependencies] at hmem
  exact absurd hmem (by decide)

end ClassDiagram
