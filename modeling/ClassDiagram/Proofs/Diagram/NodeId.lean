import ClassDiagram.Model.QualifiedName

/-!
The encoder of node identifiers. A path may be encoded before a name is put behind it
(`within_within_empty`), so going down a tree and following a qualified name give one identifier
(`within_descend`). On names that can be segments, an identifier determines the qualified name
(`ofName_injective`).
-/

namespace ClassDiagram

namespace QualifiedName

/-- The qualified name of a name behind the segments of an outer position. -/
def below (outer : List String) (name : String) : QualifiedName := ⟨outer ++ [name], by simp⟩

theorem parts_injective {q r : QualifiedName} (h : q.parts = r.parts) : q = r := by
  cases q; cases r; cases h; rfl

theorem below_injective {outer : List String} {a b : String}
    (h : below outer a = below outer b) : a = b :=
  List.singleton_inj.mp (List.append_cancel_left (congrArg parts h))

end QualifiedName

namespace NodeId

/-! ## Encoded paths -/

theorem encode_append (a b : List Char) : encode (a ++ b) = encode a ++ encode b :=
  List.map_append

theorem encode_of_not_mem {cs : List Char} (h : '/' ∉ cs) : encode cs = cs := by
  induction cs with
  | nil => rfl
  | cons c cs ih =>
    rw [List.mem_cons, not_or] at h
    have hc : separator c = c := if_neg (Ne.symm h.1)
    have hcs : encode cs = cs := ih h.2
    rw [encode, List.map_cons, hc]
    exact congrArg _ hcs

theorem encode_eq_nil {cs : List Char} : encode cs = [] ↔ cs = [] := List.map_eq_nil_iff

theorem toList_within (path name : String) :
    (within path name).toList = if path = "" then encode name.toList
      else encode path.toList ++ '|' :: encode name.toList := by
  rw [within, String.toList_ofList]
  split
  · rfl
  · rw [String.toList_append, String.toList_append, encode_append, encode_append,
      List.append_assoc]
    rfl

theorem toList_within_empty (name : String) : (within "" name).toList = encode name.toList := by
  rw [toList_within, if_pos rfl]

theorem within_empty_eq_empty {path : String} : within "" path = "" ↔ path = "" := by
  rw [← String.toList_inj, toList_within_empty, ← String.toList_inj]
  exact encode_eq_nil

/-- A path that is encoded already gives the identifiers that the path itself gives. -/
theorem within_within_empty (path name : String) :
    within (within "" path) name = within path name := by
  rw [← String.toList_inj, toList_within, toList_within_empty, encode_encode, toList_within]
  simp only [within_empty_eq_empty]

theorem descend_nil (path : String) : descend path [] = path := List.foldl_nil

theorem descend_cons (path s : String) (segments : List String) :
    descend path (s :: segments) = descend (within path s) segments := List.foldl_cons

theorem ofName_below (outer : List String) (name : String) :
    ofName (.below outer name) = within (descend "" outer) name := by
  rw [ofName, QualifiedName.below, descend_append, descend_cons, descend_nil]

/-- **Descent agrees with reference.** The identifier of a name inside a chain of names that
starts at a path is the one that the qualified name of all of them points at. -/
theorem within_descend (path : String) (chain : List String) (name : String) :
    within (descend path chain) name = ofName (.below (path :: chain) name) := by
  rw [ofName_below, descend_cons]
  cases chain with
  | nil => rw [descend_nil, descend_nil, within_within_empty]
  | cons first rest => rw [descend_cons, descend_cons, within_within_empty]

/-! ## Names that can be segments -/

/-- A name that is no empty text and holds neither a separator of paths nor one of
identifiers. -/
structure IsSegment (name : String) : Prop where
  nonempty : name ≠ ""
  slash : '/' ∉ name.toList
  bar : '|' ∉ name.toList

instance (name : String) : Decidable (IsSegment name) :=
  decidable_of_iff (name ≠ "" ∧ '/' ∉ name.toList ∧ '|' ∉ name.toList)
    ⟨fun ⟨h, s, b⟩ => ⟨h, s, b⟩, fun h => ⟨h.nonempty, h.slash, h.bar⟩⟩

theorem within_empty_of_isSegment {name : String} (h : IsSegment name) : within "" name = name := by
  rw [← String.toList_inj, toList_within_empty, encode_of_not_mem h.slash]

theorem within_of_isSegment {path name : String} (hpath : IsSegment path)
    (hname : '/' ∉ name.toList) : within path name = path ++ "|" ++ name := by
  rw [← String.toList_inj, toList_within, if_neg hpath.nonempty,
    encode_of_not_mem hpath.slash, encode_of_not_mem hname, String.toList_append,
    String.toList_append, List.append_assoc]
  rfl

theorem ofName_pair {scope name : String} (hscope : IsSegment scope) (hname : '/' ∉ name.toList) :
    ofName (.pair scope name) = scope ++ "|" ++ name := by
  show within (within "" scope) name = _
  rw [within_within_empty, within_of_isSegment hscope hname]

/-- The segments of an identifier are set apart by bars. -/
theorem toList_descend {path : String} {segments : List String} (hpath : path ≠ "")
    (hslash : '/' ∉ path.toList) (h : ∀ s ∈ segments, IsSegment s) :
    (descend path segments).toList = ['|'].intercalate ((path :: segments).map String.toList) := by
  induction segments generalizing path with
  | nil => rw [descend_nil, List.map_singleton, List.intercalate_singleton]
  | cons s segments ih =>
    have hs := h s List.mem_cons_self
    have hin : (within path s).toList = path.toList ++ '|' :: s.toList := by
      rw [toList_within, if_neg hpath, encode_of_not_mem hslash, encode_of_not_mem hs.slash]
    have hne : within path s ≠ "" := by
      intro he
      rw [he] at hin
      exact absurd hin.symm (by simp)
    have hslash' : '/' ∉ (within path s).toList := by
      rw [hin]
      simp [hslash, hs.slash]
    rw [descend_cons, ih hne hslash' fun t ht => h t (List.mem_cons_of_mem s ht)]
    cases segments with
    | nil => simp [hin]
    | cons t segments => simp [hin, List.intercalate_cons_cons]

theorem toList_ofName {q : QualifiedName} (h : ∀ s ∈ q.parts, IsSegment s) :
    (ofName q).toList = ['|'].intercalate (q.parts.map String.toList) := by
  obtain ⟨parts, hne⟩ := q
  cases parts with
  | nil => exact absurd rfl hne
  | cons first rest =>
    have hfirst : IsSegment first := h first List.mem_cons_self
    rw [ofName, descend_cons, within_empty_of_isSegment hfirst]
    exact toList_descend hfirst.nonempty hfirst.slash
      fun s hs => h s (List.mem_cons_of_mem first hs)

/-- **Identifiers determine names.** -/
theorem ofName_injective {q r : QualifiedName} (hq : ∀ s ∈ q.parts, IsSegment s)
    (hr : ∀ s ∈ r.parts, IsSegment s) (h : ofName q = ofName r) : q = r := by
  have split : ∀ {p : QualifiedName}, (∀ s ∈ p.parts, IsSegment s) →
      (ofName p).toList.splitOn '|' = p.parts.map String.toList := by
    intro p hp
    rw [toList_ofName hp]
    refine List.splitOn_intercalate '|' ?_ ?_
    · intro l hl
      obtain ⟨s, hs, rfl⟩ := List.mem_map.mp hl
      exact (hp s hs).bar
    · simp [p.nonempty]
  have hmap : q.parts.map String.toList = r.parts.map String.toList := by
    rw [← split hq, ← split hr, h]
  exact QualifiedName.parts_injective
    (List.map_inj_right (fun _ _ e => String.toList_injective e) |>.mp hmap)

end NodeId

end ClassDiagram
