import ClassDiagram.Proofs.Project.RootPackage

/-!
Modules of one name. The name of a source file gives the way to it again, but for the file of a
module and that of a package of its name beside it (`segments_eq_iff`); the file that makes the
root a package has the name of the root, which may be that of another file too. So two files have
one name just if they are such a pair, or one of them is that of the root and the other has its
name (`same_name_iff`).
-/

namespace ClassDiagram

open ClassDiagram.Path (IsName IsPlain)
open Text.Dotted (join)

/-- The way to a source file from the root of its project: the directories on it, and what stands
before the extension in the name of the file, which may be nothing. -/
structure SourceWay where
  folders : List String
  stem : String
  folders_plain : ∀ d ∈ folders, IsPlain d
  point_not_mem : '.' ∉ stem.toList
  slash_not_mem : '/' ∉ stem.toList

namespace SourceWay

def names (w : SourceWay) : List String := w.folders ++ [w.stem ++ ".py"]

/-- A path leads to the file, however it is spelled. -/
structure Reaches (w : SourceWay) (fs : FileSystem) (root path : String) : Prop where
  ne_empty : path ≠ ""
  parts : (fs.absolute path).parts = (fs.absolute root).parts ++ w.names

/-- The way to the file that makes the root a package. -/
def rootPackage : SourceWay := ⟨[], packageStem, List.forall_mem_nil _, by decide, by decide⟩

/-- The way to the file of a module, and the way to that of a package of its name beside it. -/
structure Twins (v w : SourceWay) : Prop where
  stem_ne : v.stem ≠ packageStem
  folders : w.folders = v.folders ++ [v.stem]
  stem : w.stem = packageStem

/-- What the name of a file without its extension adds to the name of the module. A file named by
the extension alone keeps it. -/
def ending (w : SourceWay) : List String := if w.stem = "" then ["", "py"] else [w.stem]

/-- The segments of the name of the module in the file. -/
def segments (w : SourceWay) : List String :=
  if w.stem = packageStem then w.folders else w.folders ++ w.ending

variable {v w : SourceWay}

theorem ext_iff : v = w ↔ v.folders = w.folders ∧ v.stem = w.stem := by
  cases v
  cases w
  simp

/-! ## Names of files -/

theorem withoutExtension_name (w : SourceWay) :
    Path.withoutExtension (w.stem ++ ".py") = join w.ending := by
  rw [ending]
  split
  · rename_i hstem
    rw [hstem]
    rfl
  · rename_i hstem
    rw [Text.Dotted.join_singleton]
    exact Place.withoutExtension_stem (p := ⟨[], w.stem, List.forall_mem_nil _, hstem,
      w.point_not_mem, w.slash_not_mem⟩)

theorem ending_ne_nil (w : SourceWay) : w.ending ≠ [] := by
  rw [ending]
  split <;> simp

theorem join_ending_eq_packageStem_iff : join w.ending = packageStem ↔ w.stem = packageStem := by
  rw [ending]
  split
  · rename_i hstem
    rw [hstem]
    decide
  · rw [Text.Dotted.join_singleton]

theorem segments_eq_nil_iff : w.segments = [] ↔ w = rootPackage := by
  rw [ext_iff, segments]
  by_cases hstem : w.stem = packageStem
  · simp [hstem, rootPackage]
  · simp [hstem, rootPackage, ending_ne_nil]

/-- The name of a file: the way to it, or the name of the root. -/
theorem ofFile_names (root : List String) (w : SourceWay) :
    ModuleName.ofFile root (root ++ w.names) =
      if w.segments = [] then root.getLastD "" else join w.segments := by
  have hrelative : Path.relative root (root ++ w.names) = w.names :=
    Path.relative_append (by simp [names]) root
  have hway : ModuleName.ofWay w.names =
      if w.stem = packageStem then w.folders else w.folders ++ [join w.ending] := by
    simp [ModuleName.ofWay, names, withoutExtension_name, join_ending_eq_packageStem_iff]
  rw [ModuleName.ofFile, hrelative, hway, segments]
  by_cases hstem : w.stem = packageStem
  · rw [if_pos hstem, if_pos hstem]
    cases w.folders <;> rfl
  · have hne : w.folders ++ w.ending ≠ [] := by simp [ending_ne_nil]
    rw [if_neg hstem, if_neg hstem, if_neg hne,
      ← Text.Dotted.join_concat_join w.folders w.ending_ne_nil]
    cases w.folders <;> rfl

theorem ofPath?_eq {fs : FileSystem} {root path : String} (hroot : fs.isFile root = false)
    (h : w.Reaches fs root path) : ModuleName.ofPath? fs root path =
      some (if w.segments = [] then ModuleName.ofRoot fs root else join w.segments) := by
  rw [ModuleName.ofPath?, hroot, if_neg Bool.false_ne_true, if_neg h.ne_empty, h.parts,
    ofFile_names, ModuleName.ofRoot]

/-! ## Names that give the way -/

theorem point_not_mem_segments {s : String} (hs : s ∈ w.segments) : '.' ∉ s.toList := by
  have hfolders : ∀ d ∈ w.folders, '.' ∉ d.toList :=
    fun d hd => (w.folders_plain d hd).point_not_mem
  rw [segments] at hs
  split at hs
  · exact hfolders s hs
  · rcases List.mem_append.mp hs with hs | hs
    · exact hfolders s hs
    · rw [ending] at hs
      split at hs
      · have hboth : s = "" ∨ s = "py" := by simpa using hs
        rcases hboth with rfl | rfl <;> decide
      · rw [List.mem_singleton.mp hs]
        exact w.point_not_mem

theorem join_segments_inj (hv : v.segments ≠ []) (hw : w.segments ≠ []) :
    join v.segments = join w.segments ↔ v.segments = w.segments := by
  constructor
  · intro h
    rw [← Text.Dotted.segments_join hv fun s hs => point_not_mem_segments hs, h,
      Text.Dotted.segments_join hw fun s hs => point_not_mem_segments hs]
  · exact congrArg join

theorem ne_empty_of_folders {before after : List String} {d : String}
    (h : w.folders = before ++ d :: after) : d ≠ "" := by
  have hmem : d ∈ w.folders := by simp [h]
  exact (w.folders_plain d hmem).ne_empty

theorem ending_of_stem_ne (h : w.stem ≠ "") : w.ending = [w.stem] := if_neg h

theorem append_ending_of_stem_empty (h : w.stem = "") :
    w.folders ++ w.ending = w.folders ++ [""] ++ ["py"] := by
  rw [ending, if_pos h, List.append_assoc]
  rfl

/-- A name that ends as that of a file without a stem has an empty segment before its last. -/
theorem append_ending_ne (hv : v.stem = "") (hw : w.stem ≠ "") :
    v.folders ++ v.ending ≠ w.folders ++ w.ending := by
  intro h
  rw [append_ending_of_stem_empty hv, ending_of_stem_ne hw] at h
  have hfolders := (List.append_inj' h rfl).1
  exact ne_empty_of_folders hfolders.symm rfl

theorem eq_of_append_ending (h : v.folders ++ v.ending = w.folders ++ w.ending) : v = w := by
  rw [ext_iff]
  by_cases hv : v.stem = "" <;> by_cases hw : w.stem = ""
  · rw [append_ending_of_stem_empty hv, append_ending_of_stem_empty hw] at h
    simpa [hv, hw] using h
  · exact absurd h (append_ending_ne hv hw)
  · exact absurd h.symm (append_ending_ne hw hv)
  · rw [ending_of_stem_ne hv, ending_of_stem_ne hw] at h
    simpa using List.append_inj' h rfl

/-- A package file has the name of another file just if that stands beside the package. -/
theorem segments_eq_package_iff (hv : v.stem ≠ packageStem) (hw : w.stem = packageStem) :
    v.segments = w.segments ↔ Twins v w := by
  rw [segments, segments, if_neg hv, if_pos hw]
  constructor
  · intro h
    have hstem : v.stem ≠ "" := by
      intro hempty
      rw [append_ending_of_stem_empty hempty, List.append_assoc] at h
      exact ne_empty_of_folders h.symm rfl
    rw [ending_of_stem_ne hstem] at h
    exact ⟨hv, h.symm, hw⟩
  · intro h
    rw [ending_of_stem_ne (ne_empty_of_folders h.folders), h.folders]

theorem segments_eq_iff (hne : v ≠ w) : v.segments = w.segments ↔ Twins v w ∨ Twins w v := by
  by_cases hv : v.stem = packageStem <;> by_cases hw : w.stem = packageStem
  · have hdiffer : v.segments ≠ w.segments := by
      intro h
      rw [segments, segments, if_pos hv, if_pos hw] at h
      exact hne (ext_iff.mpr ⟨h, hv.trans hw.symm⟩)
    exact iff_of_false hdiffer (not_or.mpr ⟨fun h => h.stem_ne hv, fun h => h.stem_ne hw⟩)
  · rw [eq_comm, segments_eq_package_iff hw hv]
    exact (or_iff_right fun h => h.stem_ne hv).symm
  · rw [segments_eq_package_iff hv hw]
    exact (or_iff_left fun h => h.stem_ne hw).symm
  · have hdiffer : v.segments ≠ w.segments := by
      intro h
      rw [segments, segments, if_neg hv, if_neg hw] at h
      exact hne (eq_of_append_ending h)
    exact iff_of_false hdiffer (not_or.mpr ⟨fun h => hw h.stem, fun h => hv h.stem⟩)

theorem not_twins_rootPackage (v : SourceWay) : ¬ Twins v rootPackage ∧ ¬ Twins rootPackage v := by
  constructor
  · intro h
    simpa [rootPackage] using h.folders
  · intro h
    exact h.stem_ne rfl

end SourceWay

open SourceWay (Twins rootPackage)

/-- **Two source files have one name just if they are a module and a package of its name beside it,
or one makes the root a package and the other has the name of the root.** -/
theorem same_name_iff {fs : FileSystem} {root a b : String} {v w : SourceWay}
    (hroot : fs.isFile root = false) (hne : v ≠ w) (ha : v.Reaches fs root a)
    (hb : w.Reaches fs root b) :
    ∃ m n, ModuleName.ofPath? fs root a = some m ∧ ModuleName.ofPath? fs root b = some n ∧
      (m = n ↔ Twins v w ∨ Twins w v ∨ (v = rootPackage ∧ n = ModuleName.ofRoot fs root) ∨
        (w = rootPackage ∧ m = ModuleName.ofRoot fs root)) := by
  refine ⟨_, _, SourceWay.ofPath?_eq hroot ha, SourceWay.ofPath?_eq hroot hb, ?_⟩
  by_cases hv : v.segments = [] <;> by_cases hw : w.segments = []
  · rw [SourceWay.segments_eq_nil_iff] at hv hw
    exact absurd (hv.trans hw.symm) hne
  · have hpackage := SourceWay.segments_eq_nil_iff.mp hv
    have hother := mt SourceWay.segments_eq_nil_iff.mpr hw
    have htwins := SourceWay.not_twins_rootPackage w
    rw [if_pos hv, if_neg hw]
    simp [hpackage, hother, htwins, eq_comm]
  · have hpackage := SourceWay.segments_eq_nil_iff.mp hw
    have hother := mt SourceWay.segments_eq_nil_iff.mpr hv
    have htwins := SourceWay.not_twins_rootPackage v
    rw [if_neg hv, if_pos hw]
    simp [hpackage, hother, htwins]
  · rw [if_neg hv, if_neg hw, SourceWay.join_segments_inj hv hw, SourceWay.segments_eq_iff hne]
    rw [SourceWay.segments_eq_nil_iff] at hv hw
    simp [hv, hw]

/-- A module and the package of its name, one of them by a path that takes a detour. -/
def pantry : SourceWay := ⟨["house"], "pantry", by decide, by decide, by decide⟩

def pantryPackage : SourceWay := ⟨["house", "pantry"], "__init__", by decide, by decide, by decide⟩

theorem same_name_iff_pantry :
    ({} : FileSystem).isFile "src" = false ∧ pantry ≠ pantryPackage ∧
      pantry.Reaches {} "src" "src/house/pantry.py" ∧
      pantryPackage.Reaches {} "src" "src/../src/house//pantry/__init__.py" ∧
      ModuleName.ofPath? {} "src" "src/house/pantry.py" =
        ModuleName.ofPath? {} "src" "src/../src/house//pantry/__init__.py" := by
  have hroot : ({} : FileSystem).isFile "src" = false := by decide
  have hne : pantry ≠ pantryPackage := by simp [SourceWay.ext_iff, pantry, pantryPackage]
  have hmodule : pantry.Reaches {} "src" "src/house/pantry.py" := ⟨by decide, by decide⟩
  have hpackage : pantryPackage.Reaches {} "src" "src/../src/house//pantry/__init__.py" :=
    ⟨by decide, by decide⟩
  obtain ⟨m, n, hm, hn, hsame⟩ := same_name_iff hroot hne hmodule hpackage
  have htwins : Twins pantry pantryPackage := ⟨by decide, rfl, rfl⟩
  exact ⟨hroot, hne, hmodule, hpackage, by rw [hm, hn, hsame.mpr (.inl htwins)]⟩

end ClassDiagram
