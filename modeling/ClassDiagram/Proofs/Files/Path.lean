import ClassDiagram.Files.Path
import ClassDiagram.Proofs.Text.Dotted

/-!
Paths of files in a directory. The names on the way to a file are the segments behind those of the
directory, however the path to the directory is spelled: that path may have empty segments and steps
back, start from the current directory or end in a slash (`parts_absolute_join`). Names one after
the other lead to the same path as all at once (`below_join`), and different ones to different paths
(`below_inj`).
-/

namespace ClassDiagram.Path

/-- A segment that is the name of an entry, not a step that leads elsewhere. -/
structure IsName (segment : String) : Prop where
  ne_empty : segment ≠ ""
  ne_point : segment ≠ "."
  ne_points : segment ≠ ".."
  slash_not_mem : '/' ∉ segment.toList

/-- A name without points. -/
structure IsPlain (name : String) : Prop where
  ne_empty : name ≠ ""
  point_not_mem : '.' ∉ name.toList
  slash_not_mem : '/' ∉ name.toList

theorem isPlain_iff {name : String} :
    IsPlain name ↔ name ≠ "" ∧ '.' ∉ name.toList ∧ '/' ∉ name.toList :=
  ⟨fun h => ⟨h.1, h.2, h.3⟩, fun h => ⟨h.1, h.2.1, h.2.2⟩⟩

instance : DecidablePred IsPlain := fun _ => decidable_of_iff _ isPlain_iff.symm

theorem IsPlain.isName {name : String} (h : IsPlain name) : IsName name where
  ne_empty := h.ne_empty
  ne_point := by
    rintro rfl
    exact h.point_not_mem (by decide)
  ne_points := by
    rintro rfl
    exact h.point_not_mem (by decide)
  slash_not_mem := h.slash_not_mem

/-! ## Segments -/

theorem segments_append (path rest : String) :
    segments (path ++ "/" ++ rest) = segments path ++ segments rest := by
  have hslash : (path ++ "/" ++ rest).toList = path.toList ++ '/' :: rest.toList := by
    rw [String.toList_append, String.toList_append, List.append_assoc]
    rfl
  rw [segments, hslash, List.splitOn_append_cons_self, List.map_append]
  rfl

theorem segments_intercalate {names : List String} (hne : names ≠ [])
    (h : ∀ s ∈ names, IsName s) : segments ("/".intercalate names) = names :=
  Text.Dotted.splitOn_toList_intercalate rfl hne fun s hs => (h s hs).slash_not_mem

theorem head?_segments_of_isAbsolute {path : String} (h : isAbsolute path = true) :
    (segments path).head? = some "" := by
  obtain ⟨cs, hpath⟩ : ∃ cs, path.toList = '/' :: cs :=
    List.head?_eq_some_iff.mp (of_decide_eq_true h)
  rw [segments, hpath]
  exact congrArg (fun parts => (parts.map String.ofList).head?)
    (List.splitOn_append_cons_self [] cs)

/-- Names stand behind what there is, whatever steps led there. -/
theorem foldl_advance {names : List String} (h : ∀ s ∈ names, IsName s) (done : List String) :
    names.foldl advance done = done ++ names := by
  induction names generalizing done with
  | nil => rw [List.foldl_nil, List.append_nil]
  | cons s names ih =>
    obtain ⟨hs, hrest⟩ := List.forall_mem_cons.mp h
    have hstep : advance done s = done ++ [s] := by
      rw [advance, if_neg (not_or.mpr ⟨hs.ne_empty, hs.ne_point⟩), if_neg hs.ne_points]
    rw [List.foldl_cons, hstep, ih hrest, List.append_assoc, List.singleton_append]

theorem normal_append {names : List String} (h : ∀ s ∈ names, IsName s) (way : List String) :
    normal (way ++ names) = normal way ++ names := by
  rw [normal, List.foldl_append, foldl_advance h, normal]

theorem parts_absolute (directory : List String) (path : String) :
    (absolute directory path).parts =
      normal ((if isAbsolute path = true then [] else directory) ++ segments path) := by
  unfold absolute
  split
  · rename_i cs hpath
    have habsolute : isAbsolute path = true := by simp [isAbsolute, hpath]
    rw [if_pos habsolute, List.nil_append]
  · rename_i hpath
    have hrelative : ¬ isAbsolute path = true := by
      intro h
      obtain ⟨cs, hcs⟩ := List.head?_eq_some_iff.mp (of_decide_eq_true h)
      exact hpath cs hcs
    rw [if_neg hrelative]

theorem relative_append {names : List String} (hne : names ≠ []) (start : List String) :
    relative start (start ++ names) = names := by
  rw [relative, dropCommon_append]
  simp [hne]

theorem slash_not_mem_segments {path s : String} (h : s ∈ segments path) : '/' ∉ s.toList := by
  obtain ⟨part, hpart, rfl⟩ := List.mem_map.mp h
  rw [String.toList_ofList]
  exact Text.Dotted.separator_not_mem_splitOn hpart

/-- No step is left in a normal form. -/
theorem isName_of_mem_normal {way : List String} (h : ∀ s ∈ way, '/' ∉ s.toList) {s : String}
    (hs : s ∈ normal way) : IsName s := by
  have hrun : ∀ done : List String, (∀ s ∈ done, IsName s) →
      ∀ s ∈ way.foldl advance done, IsName s := by
    clear hs
    induction way with
    | nil => exact fun done hdone => hdone
    | cons a way ih =>
      obtain ⟨ha, hway⟩ := List.forall_mem_cons.mp h
      intro done hdone
      apply ih hway
      intro s hs
      rw [advance] at hs
      split at hs
      · exact hdone s hs
      · rename_i hstay
        split at hs
        · exact hdone s (List.dropLast_subset done hs)
        · rename_i hback
          rcases List.mem_append.mp hs with hs | hs
          · exact hdone s hs
          · rw [not_or] at hstay
            rw [List.mem_singleton.mp hs]
            exact ⟨hstay.1, hstay.2, hback, ha⟩
  exact hrun [] (List.forall_mem_nil _) s hs

theorem isName_parts_absolute {directory : List String} (h : ∀ s ∈ directory, '/' ∉ s.toList)
    (path : String) : ∀ s ∈ (absolute directory path).parts, IsName s := by
  intro s hs
  rw [parts_absolute] at hs
  refine isName_of_mem_normal (fun t ht => ?_) hs
  rcases List.mem_append.mp ht with ht | ht
  · split at ht
    · simp at ht
    · exact h t ht
  · exact slash_not_mem_segments ht

/-! ## Names in a directory -/

section Join

variable {names : List String} (hne : names ≠ []) (h : ∀ s ∈ names, IsName s)

include hne h

theorem isAbsolute_intercalate : isAbsolute ("/".intercalate names) = false := by
  obtain ⟨s, rest, rfl⟩ := List.exists_cons_of_ne_nil hne
  refine Bool.eq_false_iff.mpr fun habsolute => ?_
  have hfirst := head?_segments_of_isAbsolute habsolute
  rw [segments_intercalate hne h, List.head?_cons, Option.some.injEq] at hfirst
  exact (h s List.mem_cons_self).ne_empty hfirst

theorem isAbsolute_join (root : String) :
    isAbsolute (join root ("/".intercalate names)) = isAbsolute root := by
  have hrest := isAbsolute_intercalate hne h
  by_cases hroot : root = ""
  · rw [join, if_pos (.inr hroot), hrest, hroot]
    rfl
  · obtain ⟨c, cs, hcs⟩ := List.exists_cons_of_ne_nil (mt String.toList_eq_nil_iff.mp hroot)
    have hnot : ¬ (isAbsolute ("/".intercalate names) = true ∨ root = "") := by simp [hrest, hroot]
    have hhead : ∀ text : String, isAbsolute (root ++ text) = isAbsolute root := by
      intro text
      rw [isAbsolute, isAbsolute, String.toList_append, hcs, List.cons_append, List.head?_cons,
        List.head?_cons]
    rw [join, if_neg hnot]
    split
    · exact hhead _
    · rw [String.append_assoc, hhead]

/-- The path to the directory may end with an empty segment, behind a slash or for want of text;
the names take its place. -/
theorem segments_join (root : String) :
    ∃ way, segments (join root ("/".intercalate names)) = way ++ names ∧
      (segments root = way ∨ segments root = way ++ [""]) := by
  have hrest := isAbsolute_intercalate hne h
  have hnames := segments_intercalate hne h
  by_cases hroot : root = ""
  · subst hroot
    refine ⟨[], ?_, .inr rfl⟩
    rw [join, if_pos (.inr rfl), hnames, List.nil_append]
  · have hnot : ¬ (isAbsolute ("/".intercalate names) = true ∨ root = "") := by simp [hrest, hroot]
    rw [join, if_neg hnot]
    split
    · rename_i hlast
      obtain ⟨cs, hcs⟩ := List.getLast?_eq_some_iff.mp hlast
      have hsplit : root = String.ofList cs ++ "/" := by
        apply String.toList_injective
        rw [hcs, String.toList_append, String.toList_ofList]
        rfl
      refine ⟨segments (String.ofList cs), ?_, .inr ?_⟩
      · rw [hsplit, segments_append, hnames]
      · have hempty := segments_append (String.ofList cs) ""
        rw [String.append_empty] at hempty
        exact hsplit ▸ hempty
    · exact ⟨segments root, by rw [segments_append, hnames], .inl rfl⟩

theorem parts_absolute_join (directory : List String) (root : String) :
    (absolute directory (join root ("/".intercalate names))).parts =
      (absolute directory root).parts ++ names := by
  obtain ⟨way, hsegments, hroot⟩ := segments_join hne h root
  rw [parts_absolute, parts_absolute, isAbsolute_join hne h, hsegments, ← List.append_assoc,
    normal_append h]
  rcases hroot with hroot | hroot
  · rw [hroot]
  · rw [hroot, ← List.append_assoc]
    congr 1
    simp [normal, advance]

end Join

/-- The path to what names lead to from a directory. -/
def below (directory : String) (way : List String) : String :=
  join directory ("/".intercalate way)

theorem below_singleton (directory name : String) : below directory [name] = join directory name :=
  congrArg (join directory) (String.intercalate_singleton ..)

theorem IsName.not_isAbsolute {name : String} (h : IsName name) : isAbsolute name = false := by
  have hnames := isAbsolute_intercalate (List.cons_ne_nil name []) (by simpa using h)
  rwa [String.intercalate_singleton] at hnames

/-- What stands before a name in a directory depends on the directory alone. -/
theorem exists_join (directory : String) :
    ∃ front, ∀ text, isAbsolute text = false → join directory text = front ++ text := by
  by_cases hempty : directory = ""
  · exact ⟨"", fun text _ => by simp [join, hempty]⟩
  · by_cases hlast : directory.toList.getLast? = some '/'
    · exact ⟨directory, fun text htext => by simp [join, hempty, hlast, htext]⟩
    · exact ⟨directory ++ "/", fun text htext => by simp [join, hempty, hlast, htext]⟩

theorem join_append_name {name : String} (hname : IsName name) {text : String}
    (htext : isAbsolute text = false) (front : String) :
    join (front ++ name) text = front ++ name ++ "/" ++ text := by
  have hlast : name.toList.getLast? ≠ some '/' :=
    fun hlast => hname.slash_not_mem (List.mem_of_getLast? hlast)
  simp [join, htext, hname.ne_empty, hlast]

/-- The way to a directory and a way from there are one way. -/
theorem below_join {name : String} {way : List String} (hname : IsName name) (hne : way ≠ [])
    (h : ∀ s ∈ way, IsName s) (directory : String) :
    below (join directory name) way = below directory (name :: way) := by
  have hall := isAbsolute_intercalate (List.cons_ne_nil name way)
    (List.forall_mem_cons.mpr ⟨hname, h⟩)
  obtain ⟨front, hfront⟩ := exists_join directory
  rw [below, below, hfront _ hall, hfront name hname.not_isAbsolute,
    join_append_name hname (isAbsolute_intercalate hne h), String.intercalate_cons_of_ne_nil hne]
  simp only [String.append_assoc]

theorem below_inj {way others : List String} (hway : ∀ s ∈ way, IsName s)
    (hothers : ∀ s ∈ others, IsName s) (hne : way ≠ []) (hne' : others ≠ []) {directory : String}
    (h : below directory way = below directory others) : way = others := by
  have hparts := congrArg (fun path => (absolute [] path).parts) h
  simp only [below, parts_absolute_join hne hway, parts_absolute_join hne' hothers] at hparts
  exact List.append_cancel_left hparts

end ClassDiagram.Path
