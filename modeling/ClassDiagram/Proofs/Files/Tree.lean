import ClassDiagram.Files.FileSystem
import ClassDiagram.Proofs.Dictionary
import ClassDiagram.Proofs.Files.Path

/-!
Trees of entries. In a proper one the entries of each folder have different names, none of which is
a step elsewhere (`Proper`); putting files and folders into a tree keeps it so (`proper_addFile`,
`proper_addFolder`). There a name behind the path of a folder leads to the entry of that name
(`find?_join`), and what names lead to is told by the tree alone (`Leads`).
-/

namespace ClassDiagram

open ClassDiagram.Path (IsName)

namespace Entry

/-- A tree with one entry of each name in a folder. -/
inductive Proper : Entry → Prop
  | file (content : ByteArray) : Proper (.file content)
  | folder (entries : List (String × Entry)) (nodup : (Dictionary.keys entries).Nodup)
      (isName : ∀ entry ∈ entries, IsName entry.1) (inner : ∀ entry ∈ entries, Proper entry.2) :
      Proper (.folder entries)

/-- Names that lead from an entry to one in it, through the folders on the way. -/
inductive Leads : Entry → List String → Entry → Prop
  | here (e : Entry) : Leads e [] e
  | into {entries : List (String × Entry)} {name : String} {inner e : Entry} {way : List String}
      (h : (name, inner) ∈ entries) (rest : Leads inner way e) :
      Leads (.folder entries) (name :: way) e

variable {e r : Entry} {way : List String}

theorem Leads.isName (h : Leads e way r) (he : Proper e) : ∀ s ∈ way, IsName s := by
  induction h with
  | here => simp
  | into hmem _ ih =>
    cases he with
    | folder _ _ hnames hinner =>
      intro s hs
      rcases List.mem_cons.mp hs with rfl | hs
      · exact hnames _ hmem
      · exact ih (hinner _ hmem) s hs

/-! ## Proper trees -/

theorem proper_empty : Proper (folder []) :=
  .folder [] List.nodup_nil (List.forall_mem_nil _) (List.forall_mem_nil _)

theorem Proper.entries (h : Proper e) : (Dictionary.keys e.entries).Nodup ∧
    (∀ entry ∈ e.entries, IsName entry.1) ∧ ∀ entry ∈ e.entries, Proper entry.2 := by
  cases h with
  | file => simp [Entry.entries, Dictionary.keys]
  | folder _ hnodup hnames hinner => exact ⟨hnodup, hnames, hinner⟩

theorem Proper.of_get? (h : Proper e) {name : String}
    (hget : Dictionary.get? e.entries name = some r) : Proper r := by
  obtain ⟨hnodup, -, hinner⟩ := h.entries
  exact hinner _ ((Dictionary.get?_eq_some_iff hnodup).mp hget)

/-- An entry put into a folder takes the place of the one of its name. -/
theorem Proper.put (h : Proper e) {name : String} (hname : IsName name) (hr : Proper r) :
    Proper (.folder (Dictionary.put name r e.entries)) := by
  obtain ⟨hnodup, hnames, hinner⟩ := h.entries
  apply Proper.folder
  · rw [Dictionary.keys_put]
    split
    · exact hnodup
    · rename_i hmem
      exact List.Nodup.append hnodup (List.nodup_singleton name) (by simpa using hmem)
  · intro entry hentry
    rcases Dictionary.mem_put hentry with rfl | hentry
    · exact hname
    · exact hnames entry hentry
  · intro entry hentry
    rcases Dictionary.mem_put hentry with rfl | hentry
    · exact hr
    · exact hinner entry hentry

/-- What stands under a name, or an empty folder. -/
theorem Proper.getD (h : Proper e) (name : String) :
    Proper ((Dictionary.get? e.entries name).getD (.folder [])) := by
  cases hget : Dictionary.get? e.entries name with
  | none => exact proper_empty
  | some r => exact h.of_get? hget

theorem proper_insert (hr : Proper r) (hway : ∀ s ∈ way, IsName s) (h : Proper e) :
    Proper (insert r way e) := by
  induction way generalizing e with
  | nil => exact hr
  | cons s way ih =>
    obtain ⟨hs, hway⟩ := List.forall_mem_cons.mp hway
    exact h.put hs (ih hway (h.getD s))

theorem proper_insertFolder (hway : ∀ s ∈ way, IsName s) (h : Proper e) :
    Proper (insertFolder way e) := by
  induction way generalizing e with
  | nil => exact h
  | cons s way ih =>
    obtain ⟨hs, hway⟩ := List.forall_mem_cons.mp hway
    exact h.put hs (ih hway (h.getD s))

/-! ## Following segments -/

section Follow

variable {outer : List Entry} {xs ys : List String}

/-- Behind some segments the others are followed from where those lead. -/
theorem exists_follow_append (h : follow outer e (xs ++ ys) = some r) :
    ∃ above here, follow outer e xs = some here ∧ follow above here ys = some r ∧
      ∀ zs, follow outer e (xs ++ zs) = follow above here zs := by
  fun_induction follow outer e xs with
  | case1 above here => exact ⟨above, here, rfl, h, fun _ => rfl⟩
  | case2 => simp [follow] at h
  | _ => simp_all [follow]

theorem Proper.follow (he : Proper e) (houter : ∀ above ∈ outer, Proper above)
    (h : follow outer e xs = some r) : Proper r := by
  fun_induction Entry.follow outer e xs with
  | case1 above here => exact Option.some.inj h ▸ he
  | case6 above entries s ss next hs hback hget ih =>
    apply ih (he.of_get? hget) _ h
    exact List.forall_mem_cons.mpr ⟨he, houter⟩
  | _ => simp_all

end Follow

end Entry

namespace FileSystem

variable {fs : FileSystem}

theorem proper_addFile (h : fs.root.Proper) (hcurrent : ∀ s ∈ fs.current, '/' ∉ s.toList)
    (path : String) (content : ByteArray) : (fs.addFile path content).root.Proper :=
  Entry.proper_insert (.file content) (Path.isName_parts_absolute hcurrent path) h

theorem proper_addFolder (h : fs.root.Proper) (hcurrent : ∀ s ∈ fs.current, '/' ∉ s.toList)
    (path : String) : (fs.addFolder path).root.Proper :=
  Entry.proper_insertFolder (Path.isName_parts_absolute hcurrent path) h

theorem proper_of_find? (h : fs.root.Proper) {path : String} {e : Entry}
    (hfind : fs.find? path = some e) : e.Proper := by
  rw [find?] at hfind
  split at hfind
  · cases hfind
  · exact h.follow (List.forall_mem_nil _) hfind

theorem find?_eq_some_iff {path : String} {e : Entry} : fs.find? path = some e ↔ path ≠ "" ∧
    Entry.follow [] fs.root ((if Path.isAbsolute path = true then [] else fs.current) ++
      Path.segments path) = some e := by
  by_cases hpath : path = ""
  · simp [find?, hpath]
  · simp [find?, hpath]

/-- Behind the segments of a path to a folder its names are followed, also if the path ends with an
empty segment. -/
theorem follow_folder {start way : List String} {target : String}
    {entries : List (String × Entry)}
    (htarget : Entry.follow [] fs.root (start ++ Path.segments target) = some (.folder entries))
    (hway : Path.segments target = way ∨ Path.segments target = way ++ [""]) :
    ∃ outer, ∀ names, Entry.follow [] fs.root (start ++ way ++ names) =
      Entry.follow outer (.folder entries) names := by
  rcases hway with hway | hway
  · rw [hway, ← List.append_nil (start ++ way)] at htarget
    obtain ⟨outer, here, -, hhere, hrest⟩ := Entry.exists_follow_append htarget
    obtain rfl : here = .folder entries := by simpa [Entry.follow] using hhere
    exact ⟨outer, hrest⟩
  · rw [hway, ← List.append_assoc] at htarget
    obtain ⟨outer, here, -, hhere, hrest⟩ := Entry.exists_follow_append htarget
    cases here with
    | file => simp [Entry.follow] at hhere
    | folder inner =>
      obtain rfl : inner = entries := by simpa [Entry.follow] using hhere
      exact ⟨outer, hrest⟩

/-- A name behind the path of a folder leads to its entry of that name. -/
theorem find?_join {target name : String} {entries : List (String × Entry)}
    (htarget : fs.find? target = some (.folder entries)) (hname : IsName name) :
    fs.find? (Path.join target name) = Dictionary.get? entries name := by
  have hone : "/".intercalate [name] = name := String.intercalate_singleton ..
  have hnames : ∀ s ∈ [name], IsName s := by simpa using hname
  have habsolute := Path.isAbsolute_join (List.cons_ne_nil name []) hnames target
  obtain ⟨way, hjoined, hway⟩ := Path.segments_join (List.cons_ne_nil name []) hnames target
  rw [hone] at habsolute hjoined
  obtain ⟨outer, houter⟩ := follow_folder (find?_eq_some_iff.mp htarget).2 hway
  have hfollow : Entry.follow outer (.folder entries) [name] = Dictionary.get? entries name := by
    simp only [Entry.follow, hname.ne_empty, hname.ne_point, hname.ne_points, or_self, if_false]
    cases Dictionary.get? entries name <;> rfl
  have hjoin : Path.join target name ≠ "" := by
    intro hempty
    have hsegments : Path.segments "" = [""] := rfl
    rw [hempty, hsegments] at hjoined
    have hlast : "" = name := by simpa using congrArg List.getLast? hjoined
    exact hname.ne_empty hlast.symm
  ext e
  rw [find?_eq_some_iff, habsolute, hjoined, ← List.append_assoc, houter, hfollow]
  simp [hjoin]

end FileSystem

end ClassDiagram
