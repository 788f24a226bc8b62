import ClassDiagram.Proofs.Diagram.Forest
import ClassDiagram.Proofs.Diagram.NodeId
import ClassDiagram.Proofs.Dot.RoundTrip

/-!
Diagrams of forests with plain names can be printed and read back. `Plain` excludes the characters
that have a meaning in DOT texts, record labels or ports; labels add backslashes and bars of their
own, but never at an end where they could be taken for an escape (`quotable_methods`,
`quotable_classLabel`). `ofText?_text_build` is the round trip for both modes.
-/

namespace ClassDiagram.Dot

open Diagram (Cluster Edge Node)

/-! ## Plain names -/

def isControl (c : Char) : Bool := c.toNat < 32 || (127 ≤ c.toNat && c.toNat < 160)

/-- A character without a meaning of its own. -/
def isPlain (c : Char) : Bool := !(['"', '\\', '<', '>', ':'].contains c) && !isControl c

def Plain (name : String) : Prop := ∀ c ∈ name.toList, isPlain c = true

instance (name : String) : Decidable (Plain name) :=
  decidable_of_iff (name.toList.all isPlain = true) List.all_eq_true

instance (cs : List Char) : Decidable (Quotable cs) :=
  decidable_of_iff ('"' ∉ cs ∧ cs.head? ≠ some '<' ∧ cs.getLast? ≠ some '\\'
      ∧ cs.getLast? ≠ some '\n')
    ⟨fun ⟨q, m, e, b⟩ => ⟨q, m, e, b⟩, fun h => ⟨h.quote, h.markup, h.escape, h.lineBreak⟩⟩

theorem Plain.not_mem {name : String} (h : Plain name) {c : Char} (hc : isPlain c = false) :
    c ∉ name.toList := by
  intro hmem
  rw [h c hmem] at hc
  cases hc

theorem Plain.quotable {name : String} (h : Plain name) : Quotable name.toList where
  quote := h.not_mem (by decide)
  markup he := h.not_mem (c := '<') (by decide) (List.mem_of_head? he)
  escape he := h.not_mem (c := '\\') (by decide) (List.mem_of_getLast? he)
  lineBreak he := h.not_mem (c := '\n') (by decide) (List.mem_of_getLast? he)

theorem plain_append {a b : String} (ha : Plain a) (hb : Plain b) : Plain (a ++ b) := by
  intro c hc
  rw [String.toList_append, List.mem_append] at hc
  rcases hc with hc | hc
  · exact ha c hc
  · exact hb c hc

theorem plain_encode {name : String} (h : Plain name) :
    ∀ c ∈ NodeId.encode name.toList, isPlain c = true := by
  intro c hc
  obtain ⟨a, ha, rfl⟩ := List.mem_map.mp hc
  unfold NodeId.separator
  split
  · decide
  · exact h a ha

theorem plain_within {path name : String} (hpath : Plain path) (hname : Plain name) :
    Plain (NodeId.within path name) := by
  intro c hc
  rw [NodeId.toList_within] at hc
  split at hc
  · exact plain_encode hname c hc
  · rcases List.mem_append.mp hc with hc | hc
    · exact plain_encode hpath c hc
    · rcases List.mem_cons.mp hc with rfl | hc
      · decide
      · exact plain_encode hname c hc

theorem plain_descend {path : String} {segments : List String} (hpath : Plain path)
    (h : ∀ s ∈ segments, Plain s) : Plain (NodeId.descend path segments) := by
  induction segments generalizing path with
  | nil => exact hpath
  | cons s segments ih =>
    obtain ⟨hs, hsegments⟩ := List.forall_mem_cons.mp h
    rw [NodeId.descend_cons]
    exact ih (plain_within hpath hs) hsegments

theorem plain_ofName {q : QualifiedName} (h : ∀ s ∈ q.parts, Plain s) :
    Plain (NodeId.ofName q) :=
  plain_descend (by decide) h

theorem isPlain_of_isDigit {c : Char} (h : c.isDigit = true) : isPlain c = true := by
  have hne : ∀ d : Char, d.isDigit = false → c ≠ d := by
    rintro d hd rfl
    rw [h] at hd
    cases hd
  have hcontrol : isControl c = false := by
    simp only [Char.isDigit, Bool.and_eq_true, decide_eq_true_eq, ge_iff_le,
      UInt32.le_iff_toNat_le] at h
    have h48 : '0'.val.toNat = 48 := rfl
    have h57 : '9'.val.toNat = 57 := rfl
    simp only [isControl, Char.toNat, Bool.or_eq_false_iff, Bool.and_eq_false_iff,
      decide_eq_false_iff_not]
    omega
  simp [isPlain, hcontrol, hne]

theorem plain_shade (level : Int) : Plain (Diagram.shade level) := by
  obtain ⟨n, hn⟩ := Int.eq_ofNat_of_zero_le (show 0 ≤ max 40 (95 - level * 6) by omega)
  rw [Diagram.shade, hn]
  refine plain_append (by decide) fun c hc => isPlain_of_isDigit ?_
  rw [show toString (n : Int) = n.repr from rfl, Nat.toList_repr] at hc
  exact Nat.isDigit_of_mem_toDigits (by decide) (by decide) hc

/-! ## Labels -/

theorem quote_not_mem_intercalate {separator : List Char} {parts : List (List Char)}
    (hseparator : '"' ∉ separator) (h : ∀ p ∈ parts, '"' ∉ p) :
    '"' ∉ separator.intercalate parts := by
  induction parts with
  | nil => exact List.not_mem_nil
  | cons p parts ih =>
    obtain ⟨hp, hparts⟩ := List.forall_mem_cons.mp h
    cases parts with
    | nil => rwa [List.intercalate_singleton]
    | cons q parts =>
      rw [List.intercalate_cons_cons, List.mem_append, List.mem_append]
      rintro ((hc | hc) | hc)
      · exact hp hc
      · exact hseparator hc
      · exact ih hparts hc

section Lines

variable {α : Type} {visibility : α → Visibility} {line : α → String} {members : List α}

theorem quote_not_mem_combine (h : ∀ a ∈ members, '"' ∉ (line a).toList) :
    '"' ∉ (Signature.combine visibility line members).toList := by
  rw [Signature.combine, String.toList_join, List.mem_flatMap]
  rintro ⟨l, hl, hc⟩
  obtain ⟨a, ha, rfl⟩ := List.mem_map.mp hl
  rw [String.toList_append, List.mem_append] at hc
  rcases hc with hc | hc
  · exact h a (Visibility.mem_sort.mp ha) hc
  · exact absurd hc (by decide)

/-- Each line ends with a mark, whose last character is a letter. -/
theorem quotable_combine (h : ∀ a ∈ members, '"' ∉ (line a).toList)
    (hhead : ∀ a ∈ members, ∃ c cs, (line a).toList = c :: cs ∧ c ≠ '<') :
    Quotable (Signature.combine visibility line members).toList := by
  have hquote : '"' ∉ (Signature.combine visibility line members).toList :=
    quote_not_mem_combine h
  rcases List.eq_nil_or_concat (Visibility.sort visibility members) with hnil | ⟨init, a, hlast⟩
  · rw [Signature.combine, hnil, List.map_nil]
    decide
  · have hend : (Signature.combine visibility line members).toList.getLast? = some 'l' := by
      rw [Signature.combine, hlast, List.concat_eq_append, List.map_append, String.toList_join,
        List.flatMap_append, List.map_singleton, List.flatMap_singleton, String.toList_append,
        List.getLast?_append, List.getLast?_append]
      rfl
    refine ⟨hquote, ?_, by rw [hend]; decide, by rw [hend]; decide⟩
    cases hsort : Visibility.sort visibility members with
    | nil =>
      rw [Signature.combine, hsort, List.map_nil]
      decide
    | cons b rest =>
      have hb : b ∈ members := Visibility.mem_sort.mp (hsort ▸ List.mem_cons_self)
      obtain ⟨c, cs, hline, hc⟩ := hhead b hb
      rw [Signature.combine, hsort, List.map_cons, String.toList_join, List.flatMap_cons,
        String.toList_append, hline]
      exact fun he => hc (Option.some.inj he)

end Lines

theorem quote_not_mem_method {ρ : Type} {h : Header ρ} (hname : Plain h.name) :
    '"' ∉ (Signature.method h).toList := by
  rw [Signature.method, String.toList_intercalate]
  refine quote_not_mem_intercalate (by decide) ?_
  simp only [List.map_cons, List.map_nil, List.forall_mem_cons, List.not_mem_nil,
    false_imp_iff, implies_true, and_true]
  refine ⟨?_, ?_, ?_⟩
  · cases h.visibility <;> decide
  · cases h.lifetime <;> decide
  · exact (plain_append hname (by decide)).not_mem (by decide)

theorem quote_not_mem_property {ρ : Type} {p : Property ρ} (hname : Plain p.name) :
    '"' ∉ (Signature.property p).toList := by
  rw [Signature.property, String.toList_intercalate]
  refine quote_not_mem_intercalate (by decide) ?_
  simp only [List.map_cons, List.map_nil, List.forall_mem_cons, List.not_mem_nil,
    false_imp_iff, implies_true, and_true]
  refine ⟨?_, ?_, ?_, hname.not_mem (by decide)⟩
  · cases p.header.visibility <;> decide
  · cases p.header.lifetime <;> decide
  · unfold Signature.accessors
    cases p.hasGetter <;> cases p.hasSetter <;> decide

theorem quotable_methods {ρ : Type} {ms : List (Method ρ)} (h : ∀ m ∈ ms, Plain m.header.name) :
    Quotable (Signature.methods ms).toList := by
  refine quotable_combine (fun m hm => quote_not_mem_method (h m hm)) fun m _ => ?_
  rw [Signature.method, String.toList_intercalate]
  cases m.header.visibility <;> exact ⟨_, _, rfl, by decide⟩

/-- What a class shows in a diagram has plain names. -/
structure PlainClass (k : Class) : Prop where
  name : Plain k.name
  methods : ∀ m ∈ k.methods, Plain m.header.name
  properties : ∀ p ∈ k.properties, Plain p.name
  types : ∀ p ∈ k.properties, ∀ q ∈ p.type, ∀ s ∈ q.parts, Plain s
  base : ∀ q ∈ k.base, ∀ s ∈ q.parts, Plain s

/-- The braces of a record stand at both ends. -/
theorem quotable_classLabel {k : Class} (h : PlainClass k) :
    Quotable (Diagram.classLabel k).toList := by
  have hinner : '"' ∉ ("|".intercalate ([k.name, Signature.properties k.properties,
      Signature.methods k.methods].filter (· ≠ ""))).toList := by
    rw [String.toList_intercalate]
    refine quote_not_mem_intercalate (by decide) fun p hp => ?_
    obtain ⟨s, hs, rfl⟩ := List.mem_map.mp hp
    have hs := List.mem_of_mem_filter hs
    simp only [List.mem_cons, List.not_mem_nil, or_false] at hs
    rcases hs with rfl | rfl | rfl
    · exact h.name.not_mem (by decide)
    · exact quote_not_mem_combine fun p hp => quote_not_mem_property (h.properties p hp)
    · exact quote_not_mem_combine fun m hm => quote_not_mem_method (h.methods m hm)
  have hlabel : (Diagram.classLabel k).toList = '\x7b' :: (("|".intercalate ([k.name,
      Signature.properties k.properties, Signature.methods k.methods].filter (· ≠ ""))).toList
        ++ ['\x7d']) := by
    rw [Diagram.classLabel, String.toList_append, String.toList_append]
    rfl
  rw [hlabel]
  have hlast : ∀ cs : List Char, ('\x7b' :: (cs ++ ['\x7d'])).getLast? = some '\x7d' := by
    intro cs
    rw [← List.cons_append, List.getLast?_concat]
  refine ⟨?_, by simp, by rw [hlast]; decide, by rw [hlast]; decide⟩
  rw [List.mem_cons, List.mem_append]
  rintro (hc | hc | hc)
  · exact absurd hc (by decide)
  · exact hinner hc
  · exact absurd hc (by decide)

/-! ## Built diagrams -/

/-- A module whose names, and those of all that is in it, are plain. -/
inductive PlainModule : Module → Prop
  | intro {m : Module} (name : Plain m.name) (classes : ∀ k ∈ m.classes, PlainClass k)
      (methods : ∀ f ∈ m.methods, Plain f.header.name)
      (dependencies : ∀ target ∈ m.dependencyNames, Plain target)
      (modules : ∀ n ∈ m.modules, PlainModule n) : PlainModule m

theorem mem_putName {q r : QualifiedName} {types : List QualifiedName}
    (h : q ∈ distinctTypes.putName r types) : q = r ∨ q ∈ types := by
  induction types with
  | nil => exact .inl (List.mem_singleton.mp h)
  | cons t types ih =>
    rw [distinctTypes.putName] at h
    split at h
    · rcases List.mem_cons.mp h with h | h
      · exact .inl h
      · exact .inr (List.mem_cons_of_mem t h)
    · rcases List.mem_cons.mp h with rfl | h
      · exact .inr List.mem_cons_self
      · exact (ih h).imp_right (List.mem_cons_of_mem t)

theorem mem_foldl_putName {q : QualifiedName} {types : List (Option QualifiedName)}
    {unique : List QualifiedName}
    (h : q ∈ types.foldl (fun unique type =>
      type.elim unique (distinctTypes.putName · unique)) unique) :
    q ∈ unique ∨ some q ∈ types := by
  induction types generalizing unique with
  | nil => exact .inl h
  | cons type types ih =>
    rw [List.foldl_cons] at h
    rcases ih h with h | h
    · cases type with
      | none => exact .inl h
      | some r =>
        rcases mem_putName h with rfl | h
        · exact .inr List.mem_cons_self
        · exact .inl h
    · exact .inr (List.mem_cons_of_mem _ h)

/-- A class depends on the types of its properties and on nothing else. -/
theorem mem_dependencies {k : Class} {q : QualifiedName} (h : q ∈ k.dependencies) :
    ∃ p ∈ k.properties, q ∈ p.type := by
  have hfold : k.dependencies = (k.properties.map Property.type).foldl (fun unique type =>
      type.elim unique (distinctTypes.putName · unique)) [] := by
    rw [Class.dependencies, distinctTypes]
    congr 1
    funext unique type
    cases type <;> rfl
  rw [hfold] at h
  rcases mem_foldl_putName h with hnil | htypes
  · cases hnil
  · obtain ⟨p, hp, htype⟩ := List.mem_map.mp htypes
    exact ⟨p, hp, htype⟩

theorem ReadableAttributes.nil : ReadableAttributes [] := ⟨List.forall_mem_nil _, List.nodup_nil⟩

theorem ReadableAttributes.cons {key value : String} {rest : Attributes}
    (hkey : Quotable key.toList) (hvalue : Quotable value.toList) (hnew : key ∉ rest.keys)
    (hrest : ReadableAttributes rest) : ReadableAttributes ((key, value) :: rest) where
  quotable := List.forall_mem_cons.mpr ⟨⟨hkey, hvalue⟩, hrest.quotable⟩
  distinct := List.nodup_cons.mpr ⟨hnew, hrest.distinct⟩

theorem readableAttributes_single {key value : String} (hkey : Quotable key.toList)
    (hvalue : Quotable value.toList) : ReadableAttributes [(key, value)] :=
  .cons hkey hvalue List.not_mem_nil .nil

theorem readableAttributes_frame {h : Header String} (hname : Plain h.name) (id : String)
    (level : Nat) : ReadableAttributes (Diagram.frame h id level).attributes := by
  have hlabel : Plain
      ((if h.visibility = .pub then "" else h.visibility.glyph ++ " ") ++ h.name) := by
    refine plain_append ?_ hname
    cases h.visibility <;> decide
  have hcolor : ReadableAttributes [("color", Diagram.shade level)] :=
    readableAttributes_single (by decide) (plain_shade level).quotable
  have hstyle : ReadableAttributes [("style", "filled"), ("color", Diagram.shade level)] :=
    .cons (by decide) (by decide) (by simp [Dictionary.keys]) hcolor
  exact .cons (by decide) hlabel.quotable (by simp [Dictionary.keys]) hstyle

theorem readableNode_functionNodes {id : String} (hid : Plain id) {methods : List (Method String)}
    (h : ∀ f ∈ methods, Plain f.header.name) :
    ∀ n ∈ Diagram.functionNodes id methods, ReadableNode n := by
  have hshape : ReadableAttributes [("shape", "none")] :=
    readableAttributes_single (by decide) (by decide)
  intro n hn
  simp only [Diagram.functionNodes] at hn
  split at hn
  · cases hn
  · rw [List.mem_singleton.mp hn]
    exact ⟨hid.quotable, .cons (by decide) (quotable_methods h) (by simp [Dictionary.keys]) hshape⟩

theorem readableNode_classNode {path : String} (hpath : Plain path) {k : Class}
    (h : PlainClass k) : ReadableNode (Diagram.classNode path k) where
  id := (plain_within hpath h.name).quotable
  attributes := readableAttributes_single (by decide) (quotable_classLabel h)

/-- An edge between plain identifiers. -/
theorem readableEdge_of_plain {e : Edge} (htail : Plain e.tail) (hhead : Plain e.head)
    (h : ReadableAttributes e.attributes) : ReadableEdge e where
  tail := htail.quotable
  tailPort := htail.not_mem (by decide)
  head := hhead.quotable
  headPort := hhead.not_mem (by decide)
  attributes := h

theorem readableEdge_classEdges {path : String} (hpath : Plain path) {k : Class}
    (h : PlainClass k) : ∀ e ∈ Diagram.classEdges path k, ReadableEdge e := by
  have htail := plain_within hpath h.name
  intro e he
  rcases List.mem_append.mp he with he | he
  · obtain ⟨base, hbase, rfl⟩ := List.mem_map.mp he
    exact readableEdge_of_plain htail (plain_ofName (h.base base (Option.mem_toList.mp hbase)))
      (readableAttributes_single (by decide) (by decide))
  · obtain ⟨type, htype, rfl⟩ := List.mem_map.mp he
    obtain ⟨p, hp, hq⟩ := mem_dependencies htype
    exact readableEdge_of_plain htail (plain_ofName (h.types p hp type hq))
      (readableAttributes_single (by decide) (by decide))

theorem readableCluster_moduleCluster {m : Module} (h : PlainModule m) {path : String}
    (hpath : Plain path) (level : Nat) :
    ReadableCluster (Diagram.moduleCluster path level m) := by
  induction h generalizing path level with
  | @intro m name classes methods _ _ ih =>
    have hid := plain_within hpath name
    refine .intro ?_ ?_ ?_ ?_ ?_
    · rw [Diagram.name_moduleCluster]
      exact (plain_append (by decide) hid).quotable
    · rw [Diagram.attributes_moduleCluster]
      exact readableAttributes_frame name _ _
    · rw [Diagram.nodes_moduleCluster]
      intro n hn
      rcases List.mem_append.mp hn with hn | hn
      · exact readableNode_functionNodes hid methods n hn
      · obtain ⟨k, hk, rfl⟩ := List.mem_map.mp hn
        exact readableNode_classNode hid (classes k hk)
    · rw [Diagram.edges_moduleCluster]
      intro e he
      obtain ⟨k, hk, he⟩ := List.mem_flatMap.mp he
      exact readableEdge_classEdges hid (classes k hk) e he
    · rw [Diagram.clusters_moduleCluster]
      intro d hd
      obtain ⟨n, hn, rfl⟩ := List.mem_map.mp hd
      exact ih n hn hid _

theorem readableEdge_dependencyEdges {m : Module} (h : PlainModule m) :
    ∀ e ∈ Diagram.dependencyEdges m, ReadableEdge e := by
  obtain ⟨name, -, -, dependencies, -⟩ := h
  intro e he
  obtain ⟨target, htarget, rfl⟩ := List.mem_map.mp he
  have htarget := dependencies target (List.mem_eraseDups.mp htarget)
  exact readableEdge_of_plain name (plain_within (by decide) htarget) .nil

theorem readableDiagram_drawing {clusters : List Cluster} {edges : List Edge}
    (hclusters : ∀ c ∈ clusters, ReadableCluster c) (hedges : ∀ e ∈ edges, ReadableEdge e) :
    ReadableDiagram (Diagram.drawing clusters edges) := by
  have hname : Quotable "G".toList := by decide
  have hfont : ReadableAttributes Diagram.font := ⟨by decide, by decide⟩
  have hnode : ReadableAttributes (Diagram.font ++ [("shape", "record")]) :=
    ⟨by decide, by decide⟩
  exact ⟨.intro hname hfont (List.forall_mem_nil _) hedges hclusters, hnode, hfont⟩

theorem readableDiagram_ofModules {ms : List Module}
    (h : ∀ m ∈ ms, PlainModule m ∧ Plain m.path) : ReadableDiagram (Diagram.ofModules ms) := by
  refine readableDiagram_drawing (fun c hc => ?_) (List.forall_mem_nil _)
  obtain ⟨m, hm, rfl⟩ := List.mem_map.mp hc
  exact readableCluster_moduleCluster (h m hm).1 (h m hm).2 0

theorem readableDiagram_ofDependencies {ms : List Module}
    (h : ∀ m ∈ ms, PlainModule m ∧ Plain m.path) :
    ReadableDiagram (Diagram.ofDependencies ms) := by
  refine readableDiagram_drawing (fun c hc => ?_) (fun e he => ?_)
  · obtain ⟨m, hm, rfl⟩ := List.mem_map.mp hc
    obtain ⟨name, -, -, -, -⟩ := (h m hm).1
    have hid := plain_within (h m hm).2 name
    exact .intro (plain_append (by decide) hid).quotable (readableAttributes_frame name _ _)
      (List.forall_mem_nil _) (List.forall_mem_nil _) (List.forall_mem_nil _)
  · obtain ⟨m, hm, he⟩ := List.mem_flatMap.mp he
    exact readableEdge_dependencyEdges (h m hm).1 e he

/-! ## Keys -/

theorem clash?_eq_none {c : Cluster}
    (nodes : ∀ n ∈ c.nodes, clashAmong "node" ["self", "name"] n.attributes = none)
    (edges : ∀ e ∈ c.edges,
      clashAmong "edge" ["self", "tail_name", "head_name"] e.attributes = none)
    (clusters : ∀ d ∈ c.clusters, clash? d = none) : clash? c = none := by
  have inner : ∀ cs : List Cluster, (∀ d ∈ cs, clash? d = none) → clash?.clashIn cs = none := by
    intro cs h
    induction cs with
    | nil => rfl
    | cons d ds ih =>
      obtain ⟨hd, hds⟩ := List.forall_mem_cons.mp h
      rw [clash?.clashIn, hd, ih hds]
      rfl
  cases c
  rw [clash?, List.findSome?_eq_none_iff.mpr nodes, List.findSome?_eq_none_iff.mpr edges,
    inner _ clusters]
  rfl

theorem clash?_moduleCluster (m : Module) (path : String) (level : Nat) :
    clash? (Diagram.moduleCluster path level m) = none := by
  induction m using Module.induction generalizing path level with
  | step m ih =>
    refine clash?_eq_none ?_ ?_ ?_
    · rw [Diagram.nodes_moduleCluster]
      intro n hn
      rcases List.mem_append.mp hn with hn | hn
      · simp only [Diagram.functionNodes] at hn
        split at hn
        · cases hn
        · rw [List.mem_singleton.mp hn]
          rfl
      · obtain ⟨k, hk, rfl⟩ := List.mem_map.mp hn
        rfl
    · rw [Diagram.edges_moduleCluster]
      intro e he
      obtain ⟨k, hk, he⟩ := List.mem_flatMap.mp he
      rcases List.mem_append.mp he with he | he
      · obtain ⟨base, hbase, rfl⟩ := List.mem_map.mp he
        rfl
      · obtain ⟨type, htype, rfl⟩ := List.mem_map.mp he
        rfl
    · rw [Diagram.clusters_moduleCluster]
      intro d hd
      obtain ⟨n, hn, rfl⟩ := List.mem_map.mp hd
      exact ih n hn _ _

/-- No key of a built diagram names a part of a statement. -/
theorem clash?_build (ms : List Module) :
    clash? (Diagram.ofModules ms).root = none ∧ clash? (Diagram.ofDependencies ms).root = none := by
  constructor
  · refine clash?_eq_none (List.forall_mem_nil _) (List.forall_mem_nil _) fun d hd => ?_
    obtain ⟨m, hm, rfl⟩ := List.mem_map.mp hd
    exact clash?_moduleCluster m _ _
  · refine clash?_eq_none (List.forall_mem_nil _) (fun e he => ?_) fun d hd => ?_
    · obtain ⟨m, hm, he⟩ := List.mem_flatMap.mp he
      obtain ⟨target, htarget, rfl⟩ := List.mem_map.mp he
      rfl
    · obtain ⟨m, hm, rfl⟩ := List.mem_map.mp hd
      exact clash?_eq_none (List.forall_mem_nil _) (List.forall_mem_nil _) (List.forall_mem_nil _)

/-- **What is printed of a forest with plain names is its diagram.** In both modes the diagram can
be printed, and what is printed is read back as a diagram with the same name, defaults and nesting,
and in each scope with the same nodes and edges in the same order. Slashes and bars may stand in
names, and names may be empty. -/
theorem ofText?_text_build {ε : Type} (ms : List Module)
    (h : ∀ m ∈ ms, PlainModule m ∧ Plain m.path) (dependenciesOnly : Bool) :
    ∃ d e, (Diagram.build ms dependenciesOnly : Logged ε Diagram).result = .ok d ∧
      clash? d.root = none ∧ Diagram.ofText? (text d) = some e ∧ SameDiagram e d := by
  obtain ⟨hmodules, hdependencies⟩ := clash?_build ms
  cases dependenciesOnly with
  | false =>
    obtain ⟨e, hread, hsame⟩ := exists_ofText?_text (readableDiagram_ofModules h)
    exact ⟨_, e, rfl, hmodules, hread, hsame⟩
  | true =>
    obtain ⟨e, hread, hsame⟩ := exists_ofText?_text (readableDiagram_ofDependencies h)
    exact ⟨_, e, rfl, hdependencies, hread, hsame⟩

/-- A keyword, a numeral and a name with a blank as the names of elements. -/
def almanac : List Module := [
  { header := { name := "Node" }
    modules := [{ header := { name := "2024.5" }, methods := [{ header := { name := "leap" } }] }]
    classes := [{
      header := { name := "Leap Year", visibility := .prot }
      methods := [{ header := { name := "of", lifetime := .static } }]
      properties := [{
        header := { name := "days" }
        hasGetter := true
        type := some (.single "12") }]
      base := some (.pair "Node" "Year") }]
    dependencies := [⟨{ name := "edge" }⟩] }]

theorem plainModule_almanac : ∀ m ∈ almanac, PlainModule m ∧ Plain m.path := by
  have hclass : ∀ k ∈ almanac.flatMap Module.classes, PlainClass k :=
    List.forall_mem_singleton.mpr ⟨by decide, by decide, by decide, by decide, by decide⟩
  refine List.forall_mem_singleton.mpr ⟨.intro (by decide) ?_ (by decide) (by decide) ?_, by decide⟩
  · exact hclass
  · refine List.forall_mem_singleton.mpr (.intro (by decide) ?_ (by decide) (by decide) ?_)
    · exact List.forall_mem_nil _
    · exact List.forall_mem_nil _

theorem ofText?_text_build_almanac :
    (∀ m ∈ almanac, PlainModule m ∧ Plain m.path) ∧
      ∃ d e, (Diagram.build almanac false : Logged String Diagram).result = .ok d ∧
        clash? d.root = none ∧ Diagram.ofText? (text d) = some e ∧ SameDiagram e d :=
  ⟨plainModule_almanac, ofText?_text_build almanac plainModule_almanac false⟩

end ClassDiagram.Dot
