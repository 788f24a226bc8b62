import ClassDiagram.Files.Discovery
import ClassDiagram.Proofs.Analysis.Visit
import ClassDiagram.Proofs.Files.Path

/-!
Relative imports and the names of files. A source file has a place in its project, the way to it
from the root. An import that goes up some levels from there, and down again to another place,
records the name of the file at that place (`relative_imports_agree`). One that goes up further than
to the root starts at the root, with a warning.
-/

namespace ClassDiagram

open ClassDiagram.Path (IsName IsPlain)
open Source (Alias Stmt)
open Text.Dotted (join)

/-- Where a source file stands: the directories on the way to it from the root of its project, and
its name without the extension. -/
structure Place where
  folders : List String
  stem : String
  folders_plain : ∀ d ∈ folders, IsPlain d
  stem_plain : IsPlain stem

namespace Place

def names (p : Place) : List String := p.folders ++ [p.stem ++ ".py"]

def path (p : Place) (root : String) : String := Path.join root ("/".intercalate p.names)

/-- The segments of the name of the module at a place. -/
def segments (p : Place) : List String :=
  if p.stem = packageStem then p.folders else p.folders ++ [p.stem]

def moduleName (p : Place) : String := join p.segments

/-- The directories on the way to where a relative import of a level starts. -/
def up (p : Place) (level : Nat) : List String := p.folders.take (p.folders.length + 1 - level)

/-- What is logged for a relative import of a level. -/
def warnings (p : Place) (level : Nat) : Log :=
  if level ≤ p.folders.length + 1 then []
  else [⟨.warning, "Invalid relative import in " ++ p.moduleName ++ ": level " ++ toString level
    ++ " too high"⟩]

variable {p q : Place}

/-! ## Names of files -/

theorem isName_names : ∀ s ∈ p.names, IsName s := by
  have hlong : 3 < (p.stem ++ ".py").length := by
    have hpos : 0 < p.stem.length := by
      have hne := p.stem_plain.ne_empty
      rw [← String.length_toList]
      exact List.length_pos_iff.mpr (mt String.toList_eq_nil_iff.mp hne)
    have hextension : ".py".length = 3 := rfl
    rw [String.length_append]
    omega
  have hfile : IsName (p.stem ++ ".py") := {
    ne_empty := fun h => absurd (h ▸ hlong) (by decide : ¬ 3 < "".length)
    ne_point := fun h => absurd (h ▸ hlong) (by decide : ¬ 3 < ".".length)
    ne_points := fun h => absurd (h ▸ hlong) (by decide : ¬ 3 < "..".length)
    slash_not_mem := by
      have hslash := p.stem_plain.slash_not_mem
      simp [hslash] }
  intro s hs
  rcases List.mem_append.mp hs with hs | hs
  · exact (p.folders_plain s hs).isName
  · rw [List.mem_singleton.mp hs]
    exact hfile

theorem names_ne_nil : p.names ≠ [] := by simp [names]

theorem baseName_path (root : String) : Path.baseName (p.path root) = p.stem ++ ".py" := by
  obtain ⟨way, hway, -⟩ := Path.segments_join names_ne_nil (isName_names (p := p)) root
  rw [Path.baseName, path, hway, names, ← List.append_assoc]
  simp

theorem isPackageFile_path (root : String) :
    isPackageFile (p.path root) = true ↔ p.stem = packageStem := by
  rw [isPackageFile, baseName_path, decide_eq_true_iff]
  exact String.append_left_inj ".py"

theorem withoutExtension_stem : Path.withoutExtension (p.stem ++ ".py") = p.stem := by
  have hsplit : Text.Dotted.splitLast (p.stem ++ ".py") = (p.stem, "py") := by
    have hpoint : p.stem ++ ".py" = p.stem ++ "." ++ "py" := by
      rw [String.append_assoc]
      rfl
    rw [hpoint]
    exact Text.Dotted.splitLast_append (by decide) p.stem
  have hstem : p.stem.toList.any (· ≠ '.') = true := by
    obtain ⟨c, cs, hcs⟩ := List.exists_cons_of_ne_nil
      (mt String.toList_eq_nil_iff.mp p.stem_plain.ne_empty)
    have hpoint := p.stem_plain.point_not_mem
    rw [hcs, List.mem_cons, not_or] at hpoint
    rw [hcs, List.any_cons, decide_eq_true (Ne.symm hpoint.1), Bool.true_or]
  rw [Path.withoutExtension, hsplit, if_pos hstem]

theorem ofWay_names : ModuleName.ofWay p.names = p.segments := by
  have hlast : p.names.getLastD "" = p.stem ++ ".py" := by simp [names]
  have hrest : p.names.dropLast = p.folders := by simp [names]
  rw [ModuleName.ofWay, hlast, hrest, withoutExtension_stem, segments]
  simp

/-- The name of the file at a place: the way to it, or the name of the root. -/
theorem ofPath?_eq {fs : FileSystem} {root : String} (hroot : fs.isFile root = false) :
    ModuleName.ofPath? fs root (p.path root) = some (if p.segments = []
      then (fs.absolute root).parts.getLastD "" else p.moduleName) := by
  have hparts : (fs.absolute (p.path root)).parts = (fs.absolute root).parts ++ p.names :=
    Path.parts_absolute_join names_ne_nil isName_names fs.current root
  have hrelative : Path.relative (fs.absolute root).parts (fs.absolute (p.path root)).parts =
      p.names := by
    rw [hparts, Path.relative_append names_ne_nil]
  have hpath : p.path root ≠ "" := by
    intro hempty
    have hbase := baseName_path (p := p) root
    rw [hempty] at hbase
    exact (isName_names (p := p) _ (List.mem_append_right _ (List.mem_singleton_self _))).ne_empty
      hbase.symm
  rw [ModuleName.ofPath?, hroot, if_neg Bool.false_ne_true, if_neg hpath, ModuleName.ofFile,
    hrelative, ofWay_names, moduleName]
  cases p.segments <;> rfl

/-- A module is at each place but that of the file that would make the root a package. -/
theorem ofPath?_path {fs : FileSystem} {root : String} (hroot : fs.isFile root = false)
    (hp : p.segments ≠ []) : ModuleName.ofPath? fs root (p.path root) = some p.moduleName := by
  rw [ofPath?_eq hroot, if_neg hp]

theorem isPlain_segments : ∀ s ∈ p.segments, IsPlain s := by
  intro s hs
  rw [segments] at hs
  split at hs
  · exact p.folders_plain s hs
  · rcases List.mem_append.mp hs with hs | hs
    · exact p.folders_plain s hs
    · exact List.mem_singleton.mp hs ▸ p.stem_plain

theorem segments_moduleName (hp : p.segments ≠ []) :
    Text.Dotted.segments p.moduleName = p.segments :=
  Text.Dotted.segments_join hp fun s hs => (isPlain_segments s hs).point_not_mem

theorem join_ne_empty {parts : List String} (hne : parts ≠ []) (h : ∀ s ∈ parts, IsPlain s) :
    join parts ≠ "" :=
  Text.Dotted.join_ne_empty hne fun hempty => (h "" hempty).ne_empty rfl

/-! ## Where relative imports start -/

/-- The scope is one of the module at a place. -/
structure Holds (p : Place) (s : Scope) : Prop where
  moduleName : s.moduleName = p.moduleName
  isPackage : s.isPackage = true ↔ p.stem = packageStem

variable {s : Scope}

theorem Holds.package (h : p.Holds s) (hp : p.segments ≠ []) (level : Nat) :
    s.package level = if p.folders.length < level - 1 then .error ()
      else .ok (p.folders.take (p.folders.length - (level - 1))) := by
  have hfolders : (if s.isPackage = true then p.segments else p.segments.dropLast) = p.folders := by
    by_cases hstem : p.stem = packageStem
    · rw [if_pos (h.isPackage.mpr hstem), segments, if_pos hstem]
    · rw [if_neg (mt h.isPackage.mp hstem), segments, if_neg hstem, List.dropLast_concat]
  simp only [Scope.package, h.moduleName, segments_moduleName hp, hfolders]

/-- A relative import starts as many directories up as its level says, or at the root. -/
theorem Holds.importSource {ε : Type} (h : p.Holds s) (hp : p.segments ≠ [])
    (source : Option String) {level : Nat} (hlevel : 1 ≤ level) :
    (s.importSource source level : Logged ε String) =
      ⟨p.warnings level, .ok (join (p.up level ++ source.toList))⟩ := by
  have hrelative : level ≠ 0 := by omega
  rw [Scope.importSource, if_neg hrelative, h.package hp, warnings, up]
  by_cases hhigh : p.folders.length < level - 1
  · have hwarned : ¬ level ≤ p.folders.length + 1 := by omega
    have hroot : p.folders.length + 1 - level = 0 := by omega
    rw [if_pos hhigh, if_neg hwarned, hroot, List.take_zero, h.moduleName, List.nil_append]
    rfl
  · have hsilent : level ≤ p.folders.length + 1 := by omega
    have hlength : p.folders.length - (level - 1) = p.folders.length + 1 - level := by omega
    rw [if_neg hhigh, if_pos hsilent, hlength]
    rfl

/-- The name of a module that is no package is its stem behind the names of the directories. -/
theorem moduleName_of_stem_ne (hq : q.stem ≠ packageStem) :
    q.moduleName = join (q.folders ++ [q.stem]) := by
  rw [moduleName, segments, if_neg hq]

theorem within_eq (hq : q.stem ≠ packageStem) :
    Scope.within (join q.folders) q.stem = q.moduleName := by
  rw [moduleName_of_stem_ne hq, Scope.within]
  by_cases hnil : q.folders = []
  · rw [hnil]
    rfl
  · rw [if_neg (join_ne_empty hnil q.folders_plain),
      Text.Dotted.join_append hnil (List.cons_ne_nil _ [])]
    rfl

end Place

/-! ## What relative imports record -/

namespace ModuleAnalysis

variable {p q : Place} {a : ModuleAnalysis} {source : Option String} {aliases : List Alias}
  {level : Nat} {log : Log} {name : String}

/-- The scope behind statements is still the one of the module. -/
theorem holds_of_visitAll {root : String} {stmts before : List Stmt}
    (h : ((start p.moduleName (isPackageFile (p.path root)) stmts).visitAll before).result =
      .ok a) : p.Holds a.scope ∧ a.module.name = p.moduleName := by
  have hpackage : a.scope.isPackage = isPackageFile (p.path root) := by
    simp only [visitAll_scope h, Scope.behind, Scope.bind, start]
  have hname : a.scope.moduleName = p.moduleName := by
    simp only [visitAll_scope h, Scope.behind, Scope.bind, start]
  have hscope : p.Holds a.scope := ⟨hname, hpackage ▸ Place.isPackageFile_path root⟩
  have hheader : a.module.header.name = p.moduleName := by
    rw [(visitAll_grown h).header, start]
  exact ⟨hscope, hheader⟩

theorem visit_importFrom {effect : Scope.ImportEffect}
    (h : (a.scope.importFrom source aliases level : Logged TextFault _) = ⟨log, .ok effect⟩) :
    a.visit (.importFrom source aliases level) = ⟨log, .ok (a.addImports effect)⟩ := by
  rw [visit, h]
  exact Logged.mk_ok_bind_pure log effect a.addImports

/-- A statement that makes the module depend on another one adds just this dependency. -/
theorem module_addImports (bindings : List (String × String)) (target : String) :
    (a.addImports ⟨bindings, [target]⟩).module = { a.module with
      dependencies := a.module.dependencies ++ [newImport a.module.name target] } := rfl

/-- An import of a module in the directory where it starts records the name of its file. -/
theorem visit_sibling (hscope : p.Holds a.scope) (hp : p.segments ≠ []) (hlevel : 1 ≤ level)
    (hfolders : q.folders = p.up level) (hq : q.stem ≠ packageStem) (hstar : q.stem ≠ "*")
    (bound : Option String) :
    a.visit (.importFrom none [⟨q.stem, bound⟩] level) = ⟨p.warnings level, .ok
      (a.addImports ⟨[(bound.getD q.stem, q.moduleName)], [q.moduleName]⟩)⟩ := by
  have hsource : (a.scope.importSource none level : Logged TextFault String) =
      ⟨p.warnings level, .ok (join q.folders)⟩ := by
    rw [hscope.importSource hp none hlevel, Option.toList_none, List.append_nil, hfolders]
  refine visit_importFrom ?_
  rw [Scope.importFrom, hsource]
  refine (Logged.mk_ok_bind_pure ..).trans ?_
  simp only [Scope.importSiblings, List.filterMap_cons, List.filterMap_nil, hstar, if_false,
    Scope.boundName, Place.within_eq hq]

/-- An import of names from a module records the name of its file. -/
theorem visit_member (hscope : p.Holds a.scope) (hp : p.segments ≠ []) (hlevel : 1 ≤ level)
    {way : List String} (hfolders : q.folders = p.up level ++ way) (hq : q.stem ≠ packageStem)
    (aliases : List Alias) :
    a.visit (.importFrom (some (join (way ++ [q.stem]))) aliases level) =
      ⟨p.warnings level, .ok (a.addImports (Scope.importMembers q.moduleName aliases))⟩ := by
  have hname : join (p.up level ++ [join (way ++ [q.stem])]) = q.moduleName := by
    rw [Text.Dotted.join_concat_join _ (List.append_ne_nil_of_right_ne_nil way (by simp)),
      ← List.append_assoc, ← hfolders, Place.moduleName_of_stem_ne hq]
  have hne : q.moduleName ≠ "" := by
    rw [Place.moduleName]
    refine Place.join_ne_empty ?_ Place.isPlain_segments
    simp [Place.segments, hq]
  refine visit_importFrom ?_
  rw [Scope.importFrom, hscope.importSource hp _ hlevel, Option.toList_some, hname]
  refine (Logged.mk_ok_bind_pure ..).trans ?_
  rw [if_neg hne]

end ModuleAnalysis

/-- **A relative import records the name of the file that it leads to.** The import goes up some
levels from the place of its file and down a way to another place: by the module's own name, or by
its name in the directory where the import starts. -/
theorem relative_imports_agree {fs : FileSystem} {root : String} {p : Place}
    (hroot : fs.isFile root = false) (hp : p.folders ≠ [] ∨ p.stem ≠ packageStem) :
    ModuleName.ofPath? fs root (p.path root) = some p.moduleName ∧
    (isPackageFile (p.path root) = true ↔ p.stem = packageStem) ∧
    ∀ stmts before a,
      ((ModuleAnalysis.start p.moduleName (isPackageFile (p.path root)) stmts).visitAll
        before).result = .ok a →
      ∀ (level : Nat) (way : List String) (q : Place), 1 ≤ level →
        q.folders = p.up level ++ way → q.stem ≠ packageStem →
        ∃ target, ModuleName.ofPath? fs root (q.path root) = some target ∧
          (way = [] → q.stem ≠ "*" → ∀ bound, ∃ b,
            a.visit (.importFrom none [⟨q.stem, bound⟩] level) = ⟨p.warnings level, .ok b⟩ ∧
            b.module = { a.module with dependencies :=
              a.module.dependencies ++ [ModuleAnalysis.newImport p.moduleName target] } ∧
            ∀ id, b.scope.bindings.get? id =
              if id = bound.getD q.stem then some target else a.scope.bindings.get? id) ∧
          ∀ aliases, ∃ b,
            a.visit (.importFrom (some (join (way ++ [q.stem]))) aliases level) =
              ⟨p.warnings level, .ok b⟩ ∧
            b.module = { a.module with dependencies :=
              a.module.dependencies ++ [ModuleAnalysis.newImport p.moduleName target] } := by
  have hsegments : p.segments ≠ [] := by
    by_cases hstem : p.stem = packageStem
    · rw [Place.segments, if_pos hstem]
      exact hp.resolve_right (not_not_intro hstem)
    · rw [Place.segments, if_neg hstem]
      simp
  refine ⟨Place.ofPath?_path hroot hsegments, Place.isPackageFile_path root, ?_⟩
  intro stmts before a ha level way q hlevel hfolders hq
  obtain ⟨hscope, hname⟩ := ModuleAnalysis.holds_of_visitAll ha
  have htarget : q.segments ≠ [] := by simp [Place.segments, hq]
  refine ⟨q.moduleName, Place.ofPath?_path hroot htarget, ?sibling, ?member⟩
  case sibling =>
    intro hway hstar bound
    rw [hway, List.append_nil] at hfolders
    refine ⟨_, ModuleAnalysis.visit_sibling hscope hsegments hlevel hfolders hq hstar bound, ?_, ?_⟩
    · rw [ModuleAnalysis.module_addImports, hname]
    · exact fun id => Dictionary.get?_put a.scope.bindings (bound.getD q.stem) id q.moduleName
  case member =>
    intro aliases
    refine ⟨_, ModuleAnalysis.visit_member hscope hsegments hlevel hfolders hq aliases, ?_⟩
    rw [Scope.importMembers, ModuleAnalysis.module_addImports, hname]

/-- The file of a package in a directory of a project. -/
def basket : Place := ⟨["shop", "basket"], "__init__", by decide, by decide⟩

/-- A file in the directory above. -/
def stock : Place := ⟨["shop"], "stock", by decide, by decide⟩

theorem relative_imports_agree_basket :
    ({} : FileSystem).isFile "src" = false ∧
    (basket.folders ≠ [] ∨ basket.stem ≠ packageStem) ∧
    ModuleName.ofPath? {} "src" (stock.path "src") = some "shop.stock" ∧
    ∃ b, (ModuleAnalysis.start basket.moduleName true []).visit
        (.importFrom none [⟨"stock", some "goods"⟩] 2) = ⟨[], .ok b⟩ ∧
      b.module.dependencyNames = ["shop.stock"] ∧
      b.scope.bindings.get? "goods" = some "shop.stock" := by
  have hroot : ({} : FileSystem).isFile "src" = false := by decide
  have hplace : basket.folders ≠ [] ∨ basket.stem ≠ packageStem := .inl (by decide)
  have hstock : ModuleName.ofPath? {} "src" (stock.path "src") = some "shop.stock" :=
    Place.ofPath?_path hroot (by decide)
  obtain ⟨-, hpackage, hvisit⟩ := relative_imports_agree hroot hplace
  obtain ⟨target, htarget, hsibling, -⟩ := hvisit [] [] _ rfl 2 [] stock (by decide) rfl (by decide)
  obtain rfl : "shop.stock" = target := Option.some.inj (hstock.symm.trans htarget)
  obtain ⟨b, hb, hmodule, hbindings⟩ := hsibling rfl (by decide) (some "goods")
  rw [hpackage.mpr rfl] at hb
  refine ⟨hroot, hplace, hstock, b, hb, ?_, ?_⟩
  · rw [hmodule]
    rfl
  · exact (hbindings "goods").trans (if_pos rfl)

end ClassDiagram
