import Mathlib.Data.List.Nodup
import ClassDiagram.Files.Discovery
import ClassDiagram.Proofs.Files.Tree

/-!
Which source files are found, and in which order. A folder lists its own source files by name, and
behind them what the folders in it list, by name (`filesBelow_folder`). So each way to a source file
in the tree is listed, and none twice (`mem_filesBelow`, `nodup_filesBelow`); for targets in a file
system that is `sourceFiles_enumerate`.
-/

namespace ClassDiagram

open ClassDiagram.Path (IsName)
open Text (sortBy)

namespace Entry

/-- A way to a source file. -/
def HasSource (e : Entry) (way : List String) : Prop :=
  ∃ front stem content, way = front ++ [stem ++ ".py"] ∧ Leads e way (.file content)

/-- The names of the folders among entries, in order. -/
def folderNames (entries : List (String × Entry)) : List String :=
  ((sortBy Prod.fst entries).filter fun entry => !entry.2.isFile).map Prod.fst

variable {entries : List (String × Entry)} {e : Entry} {name path : String} {way : List String}

/-! ## Names -/

theorem isSourceName_iff : isSourceName name = true ↔ ∃ stem, name = stem ++ ".py" := by
  rw [isSourceName, List.isSuffixOf_iff_suffix]
  constructor
  · rintro ⟨cs, hcs⟩
    refine ⟨String.ofList cs, ?_⟩
    apply String.toList_injective
    rw [String.toList_append, String.toList_ofList, hcs]
  · rintro ⟨stem, rfl⟩
    exact ⟨stem.toList, by rw [String.toList_append]⟩

theorem mem_sourceNames : name ∈ sourceNames entries ↔
    (∃ stem, name = stem ++ ".py") ∧ ∃ content, (name, .file content) ∈ entries := by
  rw [← isSourceName_iff]
  simp only [sourceNames, Text.mem_sortBy, List.mem_map, List.mem_filter, Bool.and_eq_true]
  constructor
  · rintro ⟨⟨n, inner⟩, ⟨hmem, hname, hfile⟩, rfl⟩
    cases inner with
    | file content => exact ⟨hname, content, hmem⟩
    | folder => simp at hfile
  · rintro ⟨hname, content, hmem⟩
    exact ⟨_, ⟨hmem, hname, rfl⟩, rfl⟩

theorem mem_folderNames :
    name ∈ folderNames entries ↔ ∃ inner, (name, .folder inner) ∈ entries := by
  simp only [folderNames, List.mem_map, List.mem_filter, Text.mem_sortBy]
  constructor
  · rintro ⟨⟨n, inner⟩, ⟨hmem, hfolder⟩, rfl⟩
    cases inner with
    | file => simp at hfolder
    | folder inner => exact ⟨inner, hmem⟩
  · rintro ⟨inner, hmem⟩
    exact ⟨_, ⟨hmem, rfl⟩, rfl⟩

theorem pairwise_sourceNames (h : (Dictionary.keys entries).Nodup) :
    (sourceNames entries).Pairwise (· < ·) := by
  apply Text.pairwise_lt_sortBy
  rw [List.map_id']
  exact h.sublist (List.filter_sublist.map Prod.fst)

theorem pairwise_folderNames (h : (Dictionary.keys entries).Nodup) :
    (folderNames entries).Pairwise (· < ·) := by
  apply List.pairwise_map.mpr
  exact (Text.pairwise_lt_sortBy h).filter _

/-! ## Listings -/

theorem filesBelow_folder (path : String) (entries : List (String × Entry)) :
    filesBelow path (folder entries) = ownFiles path (folder entries) ++
      (sortBy Prod.fst entries).flatMap fun entry =>
        filesBelow (Path.join path entry.1) entry.2 := by
  have hmap : ∀ es, filesBelow.foldersBelow path es =
      es.map fun entry => (entry.1, filesBelow (Path.join path entry.1) entry.2) := by
    intro es
    induction es with
    | nil => rfl
    | cons entry es ih => simp [filesBelow.foldersBelow, ih]
  rw [filesBelow, hmap, Text.sortBy_map, List.flatMap_map]

theorem HasSource.ne_nil (h : e.HasSource way) : way ≠ [] := by
  obtain ⟨front, stem, content, rfl, -⟩ := h
  simp

theorem HasSource.isName (h : e.HasSource way) (he : Proper e) : ∀ s ∈ way, IsName s := by
  obtain ⟨-, -, content, -, hleads⟩ := h
  exact hleads.isName he

theorem hasSource_own (h : name ∈ sourceNames entries) : (folder entries).HasSource [name] := by
  obtain ⟨⟨stem, rfl⟩, content, hmem⟩ := mem_sourceNames.mp h
  exact ⟨[], stem, content, rfl, .into hmem (.here _)⟩

theorem HasSource.into (h : e.HasSource way) (hmem : (name, e) ∈ entries) :
    (folder entries).HasSource (name :: way) := by
  obtain ⟨front, stem, content, rfl, hleads⟩ := h
  exact ⟨name :: front, stem, content, rfl, .into hmem hleads⟩

/-- A way to a source file ends in the folder itself, or goes on in an entry of it. -/
theorem HasSource.cases (h : (folder entries).HasSource way) :
    (∃ name ∈ sourceNames entries, way = [name]) ∨
      ∃ entry ∈ entries, ∃ rest, entry.2.HasSource rest ∧ way = entry.1 :: rest := by
  obtain ⟨front, stem, content, hway, hleads⟩ := h
  cases hleads with
  | into hmem hrest =>
    cases front with
    | nil =>
      obtain ⟨rfl, rfl⟩ := List.cons.inj hway
      cases hrest with
      | here => exact .inl ⟨_, mem_sourceNames.mpr ⟨⟨stem, rfl⟩, content, hmem⟩, rfl⟩
    | cons first front =>
      obtain ⟨rfl, rfl⟩ := List.cons.inj hway
      exact .inr ⟨_, hmem, _, ⟨front, stem, content, rfl, hrest⟩, rfl⟩

theorem not_hasSource_file (content : ByteArray) (way : List String) :
    ¬ (file content).HasSource way := by
  rintro ⟨front, stem, c, rfl, hleads⟩
  cases front <;> cases hleads

theorem mem_filesBelow (he : Proper e) (root : String) :
    path ∈ filesBelow root e ↔ ∃ way, e.HasSource way ∧ path = Path.below root way := by
  induction he generalizing root path with
  | file content =>
    rw [filesBelow]
    simp [not_hasSource_file]
  | folder entries hnodup hnames hinner ih =>
    simp only [filesBelow_folder, ownFiles, Entry.entries, List.mem_append, List.mem_map,
      List.mem_flatMap, Text.mem_sortBy]
    constructor
    · rintro (⟨name, hname, rfl⟩ | ⟨entry, hmem, hpath⟩)
      · exact ⟨[name], hasSource_own hname, (Path.below_singleton root name).symm⟩
      · obtain ⟨way, hsource, rfl⟩ := (ih entry hmem _).mp hpath
        refine ⟨entry.1 :: way, hsource.into hmem, ?_⟩
        exact Path.below_join (hnames entry hmem) hsource.ne_nil
          (hsource.isName (hinner entry hmem)) root
    · rintro ⟨way, hsource, rfl⟩
      rcases hsource.cases with ⟨name, hname, rfl⟩ | ⟨entry, hmem, rest, hrest, rfl⟩
      · exact .inl ⟨name, hname, (Path.below_singleton root name).symm⟩
      · refine .inr ⟨entry, hmem, (ih entry hmem _).mpr ⟨rest, hrest, ?_⟩⟩
        exact (Path.below_join (hnames entry hmem) hrest.ne_nil
          (hrest.isName (hinner entry hmem)) root).symm

/-- Different ways to source files have different paths. -/
theorem HasSource.eq_of_below {others : List String} (h : e.HasSource way)
    (hothers : e.HasSource others) (he : Proper e) {root : String}
    (hpath : Path.below root way = Path.below root others) : way = others :=
  Path.below_inj (h.isName he) (hothers.isName he) h.ne_nil hothers.ne_nil hpath

/-- What an entry of a folder lists are ways in the folder that begin with its name. -/
theorem exists_way_of_mem (he : Proper (folder entries)) {entry : String × Entry}
    (hmem : entry ∈ entries) {root : String}
    (hpath : path ∈ filesBelow (Path.join root entry.1) entry.2) :
    ∃ way, (folder entries).HasSource (entry.1 :: way) ∧ way ≠ [] ∧
      path = Path.below root (entry.1 :: way) := by
  obtain ⟨-, hnames, hinner⟩ := he.entries
  obtain ⟨way, hsource, rfl⟩ := (mem_filesBelow (hinner entry hmem) _).mp hpath
  refine ⟨way, hsource.into hmem, hsource.ne_nil, ?_⟩
  exact Path.below_join (hnames entry hmem) hsource.ne_nil (hsource.isName (hinner entry hmem)) root

theorem nodup_filesBelow (he : Proper e) (root : String) : (filesBelow root e).Nodup := by
  induction he generalizing root with
  | file => simp [filesBelow]
  | folder entries hnodup hnames hinner ih =>
    have hproper : Proper (folder entries) := .folder entries hnodup hnames hinner
    rw [filesBelow_folder, List.nodup_append']
    refine ⟨?own, ?inner, ?apart⟩
    case own =>
      apply List.Nodup.map_on _ (pairwise_sourceNames hnodup).nodup
      intro a ha b hb hab
      rw [← Path.below_singleton, ← Path.below_singleton] at hab
      exact (List.cons.inj ((hasSource_own ha).eq_of_below (hasSource_own hb) hproper hab)).1
    case inner =>
      apply List.nodup_flatMap.mpr
      constructor
      · intro entry hentry
        exact ih entry (Text.mem_sortBy.mp hentry) _
      · apply (Text.pairwise_lt_sortBy hnodup).imp_of_mem
        intro a b ha hb hab path hpath hpath'
        obtain ⟨way, hway, -, rfl⟩ := exists_way_of_mem hproper (Text.mem_sortBy.mp ha) hpath
        obtain ⟨rest, hrest, -, heq⟩ := exists_way_of_mem hproper (Text.mem_sortBy.mp hb) hpath'
        have hsame := (List.cons.inj (hway.eq_of_below hrest hproper heq)).1
        exact String.lt_irrefl _ (hsame ▸ hab)
    case apart =>
      intro path hown hinner
      obtain ⟨name, hname, rfl⟩ := List.mem_map.mp hown
      obtain ⟨entry, hentry, hpath⟩ := List.mem_flatMap.mp hinner
      obtain ⟨way, hway, hne, heq⟩ := exists_way_of_mem hproper (Text.mem_sortBy.mp hentry) hpath
      rw [← Path.below_singleton] at heq
      exact hne (List.cons.inj ((hasSource_own hname).eq_of_below hway hproper heq)).2.symm

/-- Only the folders among entries list something. -/
theorem filesBelow_folderNames (hnodup : (Dictionary.keys entries).Nodup) (path : String) :
    filesBelow path (folder entries) = ownFiles path (folder entries) ++
      (folderNames entries).flatMap fun name => filesBelow (Path.join path name)
        ((Dictionary.get? entries name).getD (folder [])) := by
  have hfiles : ∀ items : List (String × Entry),
      (items.filter fun entry => !entry.2.isFile).flatMap
          (fun entry => filesBelow (Path.join path entry.1) entry.2) =
        items.flatMap fun entry => filesBelow (Path.join path entry.1) entry.2 := by
    intro items
    induction items with
    | nil => rfl
    | cons entry items ih =>
      obtain ⟨name, inner⟩ := entry
      cases inner <;> simp [filesBelow, ih]
  rw [filesBelow_folder, folderNames, List.flatMap_map, ← hfiles]
  congr 1
  apply List.flatMap_congr
  intro entry hentry
  have hmem : entry ∈ entries := Text.mem_sortBy.mp (List.mem_of_mem_filter hentry)
  rw [(Dictionary.get?_eq_some_iff hnodup).mpr hmem, Option.getD_some]

/-- The names that a folder lists files by, and those of the folders in it, in order. -/
structure ByName (entries : List (String × Entry)) (own folders : List String) : Prop where
  own_sorted : own.Pairwise (· < ·)
  mem_own : ∀ name, name ∈ own ↔
    (∃ stem, name = stem ++ ".py") ∧ ∃ content, (name, .file content) ∈ entries
  folders_sorted : folders.Pairwise (· < ·)
  mem_folders : ∀ name, name ∈ folders ↔ ∃ inner, (name, .folder inner) ∈ entries

/-- Each way to a source file in an entry has a path of its own in a list, and nothing else is
listed. -/
structure Listed (e : Entry) (root : String) (files : List String) : Prop where
  nodup : files.Nodup
  mem_iff : ∀ path, path ∈ files ↔ ∃ way, e.HasSource way ∧ path = Path.below root way
  apart : ∀ way others, e.HasSource way → e.HasSource others →
    Path.below root way = Path.below root others → way = others

theorem byName_folder (he : Proper (folder entries)) :
    ByName entries (sourceNames entries) (folderNames entries) where
  own_sorted := pairwise_sourceNames he.entries.1
  mem_own _ := mem_sourceNames
  folders_sorted := pairwise_folderNames he.entries.1
  mem_folders _ := mem_folderNames

theorem listed_filesBelow (he : Proper e) (root : String) : Listed e root (filesBelow root e) where
  nodup := nodup_filesBelow he root
  mem_iff _ := mem_filesBelow he root
  apart _ _ hway hothers := hway.eq_of_below hothers he

end Entry

namespace FileSystem

variable {ε : Type} {fs : FileSystem} {target : String} {entries : List (String × Entry)}

theorem sourceFiles_folder (h : fs.find? target = some (.folder entries)) (recursive : Bool) :
    (fs.sourceFiles target recursive : Logged ε (List String)) =
      pure (if recursive then Entry.filesBelow target (.folder entries)
        else Entry.ownFiles target (.folder entries)) := by
  rw [sourceFiles, h]

/-- **Every source file below a folder is found once, in the order of names.** The folder's own
files come first, and are all that is found without its inner folders; behind them comes what each
of these finds. -/
theorem sourceFiles_enumerate (hfs : fs.root.Proper)
    (htarget : fs.find? target = some (.folder entries)) :
    ∃ (own folders : List String) (inner : String → List String),
      Entry.ByName entries own folders ∧
      (fs.sourceFiles target false : Logged ε _) = pure (own.map (Path.join target)) ∧
      (fs.sourceFiles target true : Logged ε _) =
        pure (own.map (Path.join target) ++ folders.flatMap inner) ∧
      (∀ name ∈ folders,
        (fs.sourceFiles (Path.join target name) true : Logged ε _) = pure (inner name)) ∧
      Entry.Listed (.folder entries) target
        (own.map (Path.join target) ++ folders.flatMap inner) := by
  have hproper := proper_of_find? hfs htarget
  have hnodup : (Dictionary.keys entries).Nodup := hproper.entries.1
  have hall := Entry.filesBelow_folderNames hnodup target
  refine ⟨Entry.sourceNames entries, Entry.folderNames entries, _, Entry.byName_folder hproper,
    sourceFiles_folder htarget false, ?all, ?inner, hall ▸ Entry.listed_filesBelow hproper target⟩
  case all =>
    rw [sourceFiles_folder htarget, if_pos rfl, hall]
    rfl
  case inner =>
    intro name hname
    obtain ⟨inner, hmem⟩ := Entry.mem_folderNames.mp hname
    have hget := (Dictionary.get?_eq_some_iff hnodup).mpr hmem
    have hfind := (find?_join htarget (hproper.entries.2.1 _ hmem)).trans hget
    rw [sourceFiles_folder hfind, if_pos rfl, hget, Option.getD_some]

/-- A project with a folder that is named as a source file. -/
def orchard : FileSystem :=
  ((((({} : FileSystem).addFile "src/pear.py" .empty).addFile "src/apple.py" .empty).addFile
    "src/notes.txt" .empty).addFile "src/pips.py/seed.py" .empty).addFolder "src/bark"

def orchardEntries : List (String × Entry) :=
  [("pear.py", .file .empty), ("apple.py", .file .empty), ("notes.txt", .file .empty),
    ("pips.py", .folder [("seed.py", .file .empty)]), ("bark", .folder [])]

theorem proper_orchard : orchard.root.Proper := by
  have hcurrent : ∀ s ∈ ([] : List String), '/' ∉ s.toList := List.forall_mem_nil _
  apply proper_addFolder _ hcurrent
  iterate 4 apply proper_addFile _ hcurrent
  exact Entry.proper_empty

theorem sourceFiles_enumerate_orchard :
    orchard.root.Proper ∧ orchard.find? "src" = some (.folder orchardEntries) ∧
    ∃ files : List String, (orchard.sourceFiles "src" true : Logged Empty _) = pure files ∧
      files.Nodup ∧ "src/pips.py/seed.py" ∈ files := by
  have htarget : orchard.find? "src" = some (.folder orchardEntries) := rfl
  obtain ⟨own, folders, inner, -, -, hall, -, hlisted⟩ :=
    sourceFiles_enumerate proper_orchard htarget
  refine ⟨proper_orchard, htarget, _, hall, hlisted.nodup, (hlisted.mem_iff _).mpr ?_⟩
  have hseed : Entry.Leads (.folder orchardEntries) ["pips.py", "seed.py"] (.file .empty) := by
    have hpips : ("pips.py", .folder [("seed.py", .file .empty)]) ∈ orchardEntries := by
      simp [orchardEntries]
    exact .into hpips (.into List.mem_cons_self (.here _))
  exact ⟨["pips.py", "seed.py"], ⟨["pips.py"], "seed", .empty, rfl, hseed⟩, rfl⟩

end FileSystem

end ClassDiagram
