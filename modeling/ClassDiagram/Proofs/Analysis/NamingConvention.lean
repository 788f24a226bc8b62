import Mathlib
import ClassDiagram.Diagram.MemberLine
import ClassDiagram.Proofs.Analysis.WellFormed

/-!
What the underscores of names make of the elements of a module. A visibility hangs on two numbers,
those of the underscores that begin and that end a name (`Visibility.ofName_eq`). By the convention,
underscores in front hide a name unless two of them begin it and two end it; elements are hidden by
underscores in front unless two end the name. These differ where one underscore begins a name and
two end it (`Visibility.ofName_eq_conventional_iff`). So it is with the classes, functions and
properties of a module, and with the glyphs that begin their lines (`underscores_hide`).
-/

namespace ClassDiagram

namespace Visibility

/-! ## Underscores -/

/-- The underscores that begin a text. -/
def underscores (cs : List Char) : Nat := (cs.takeWhile (· = '_')).length

/-- The underscores that begin a name. -/
def leading (name : String) : Nat := underscores name.toList

/-- The underscores that end a name. -/
def trailing (name : String) : Nat := underscores name.toList.reverse

/-- The visibility that the convention gives a name: underscores in front hide it, two of them more
than one, unless two underscores begin it and two end it. -/
def conventional (name : String) : Visibility :=
  if leading name = 0 ∨ 2 ≤ leading name ∧ 2 ≤ trailing name then pub
  else if 2 ≤ leading name then priv else prot

theorem replicate_isPrefixOf_iff {n : Nat} {cs : List Char} :
    (List.replicate n '_').isPrefixOf cs = true ↔ n ≤ underscores cs := by
  induction cs generalizing n with
  | nil => cases n <;> simp [underscores, List.replicate_succ]
  | cons c cs ih =>
    cases n with
    | zero => simp
    | succ n =>
      rw [underscores] at ih
      by_cases hc : c = '_'
      · simp [underscores, List.replicate_succ, hc, ih]
      · simp [underscores, List.replicate_succ, hc, Ne.symm hc]

theorem replicate_isSuffixOf_iff {n : Nat} {cs : List Char} :
    (List.replicate n '_').isSuffixOf cs = true ↔ n ≤ underscores cs.reverse := by
  rw [List.isSuffixOf, List.reverse_replicate, replicate_isPrefixOf_iff]

/-- What a name says, in numbers of underscores. -/
theorem ofName_eq (name : String) : ofName name =
    if 2 ≤ trailing name then pub else if 2 ≤ leading name then priv
    else if 1 ≤ leading name then prot else pub := by
  have hsuffix := @replicate_isSuffixOf_iff 2 name.toList
  have hprefix := @replicate_isPrefixOf_iff 2 name.toList
  have hfirst := @replicate_isPrefixOf_iff 1 name.toList
  exact if_congr hsuffix rfl (if_congr hprefix rfl (if_congr hfirst rfl rfl))

/-- A name says what the convention asks for, unless one underscore begins it and two end it. -/
theorem ofName_eq_conventional_iff (name : String) :
    ofName name = conventional name ↔ ¬ (leading name = 1 ∧ 2 ≤ trailing name) := by
  rw [ofName_eq, conventional]
  by_cases hend : 2 ≤ trailing name
  · by_cases hstart : leading name = 1
    · simp [hend, hstart]
    · have hdunder : leading name = 0 ∨ 2 ≤ leading name := by omega
      simp [hend, hstart, hdunder]
  · simp only [hend, and_false, or_false, not_false_iff, iff_true, if_false]
    split_ifs <;> first | rfl | omega

theorem ofName_eq_pub_iff (name : String) :
    ofName name = pub ↔ leading name = 0 ∨ 2 ≤ trailing name := by
  rw [ofName_eq]
  split_ifs <;> simp <;> omega

end Visibility

/-! ## Lines -/

namespace Signature

variable {ρ : Type}

theorem head?_intercalate (v : Visibility) (more : List String) :
    (" ".intercalate (v.glyph :: more)).toList.head? = v.glyph.toList.head? := by
  cases more <;> cases v <;> simp [Visibility.glyph, String.toList_intercalate]

theorem glyph_eq_plus_iff (v : Visibility) : v.glyph.toList.head? = some '+' ↔ v = .pub := by
  cases v <;> decide

end Signature

namespace Element

def name (e : Element) : String := e.header.name

/-- However it is written, the line of an element begins with a plus just if the element is
public. -/
theorem head?_line {style : LineStyle} {e : Element} {line : String} (h : e.line style = .ok line) :
    line.toList.head? = some '+' ↔ e.visibility = .pub := by
  have hline : line.toList.head? = e.visibility.glyph.toList.head? := by
    cases style <;> cases e <;> cases h <;> exact Signature.head?_intercalate _ _
  rw [hline, Signature.glyph_eq_plus_iff]

end Element

/-! ## Modules -/

/-- A class or a function of a module, or a member of one of its classes. -/
inductive Module.Lists (m : Module) : Element → Prop
  | ofClass {c : Class} (hc : c ∈ m.classes) : m.Lists (.ofClass c)
  | function {f : Method String} (hf : f ∈ m.methods) : m.Lists (.ofMethod f)
  | method {c : Class} {f : Method String} (hc : c ∈ m.classes) (hf : f ∈ c.methods) :
    m.Lists (.ofMethod f)
  | property {c : Class} {p : Property String} (hc : c ∈ m.classes) (hp : p ∈ c.properties) :
    m.Lists (.ofProperty p)

theorem Module.WellFormed.visibility {m : Module} (hm : m.WellFormed) {e : Element}
    (he : m.Lists e) : e.visibility = .ofName e.name := by
  cases he with
  | ofClass hc => exact (hm.classes _ hc).1.visibility
  | function hf => exact (hm.methods _ hf).visibility
  | method hc hf => exact ((hm.classes _ hc).2.methods _ hf).visibility
  | property hc hp => exact ((hm.classes _ hc).2.properties _ hp).visibility

/-- **Underscores hide an element, unless one begins its name and two end it.** Each class, function
and property of an analysed module has the visibility of the convention, but for names that one
underscore begins and two end: these are public. The line of a member begins with a plus just if no
underscore begins its name or two end it. -/
theorem underscores_hide {file name text : String} {isPackage : Bool} {m : Module}
    (h : (Module.ofText file name isPackage text).result = .ok m) {e : Element}
    (he : m.Lists e) :
    (e.visibility = .conventional e.name ↔
      ¬ (Visibility.leading e.name = 1 ∧ 2 ≤ Visibility.trailing e.name)) ∧
    (Visibility.leading e.name = 1 → 2 ≤ Visibility.trailing e.name →
      e.visibility = .pub) ∧
    (∀ style line, e.line style = .ok line → (line.toList.head? = some '+' ↔
      Visibility.leading e.name = 0 ∨ 2 ≤ Visibility.trailing e.name)) ∧
    (e.kind ≠ .classKind → ∃ line, e.line .byKind = .ok line) := by
  obtain ⟨p, -, -, -, hm⟩ := ParsedSource.exists_of_ofText h
  have hvisibility := (ParsedSource.wellFormed_module hm).visibility he
  refine ⟨?convention, ?exception, ?line, ?written⟩
  case convention =>
    rw [hvisibility, Visibility.ofName_eq_conventional_iff]
  case exception =>
    intro _ hend
    rw [hvisibility, Visibility.ofName_eq_pub_iff]
    exact .inr hend
  case line =>
    intro style line hline
    rw [Element.head?_line hline, hvisibility, Visibility.ofName_eq_pub_iff]
  case written =>
    intro hkind
    cases he with
    | ofClass => exact absurd rfl hkind
    | function | method | property => exact ⟨_, rfl⟩

/-- A module with a hidden class, which has an attribute that is not hidden. -/
def jar : String := "class _Jar: _lid__ = 0"

theorem exists_jar : ∃ m c p, (Module.ofText "jar.py" "jar" false jar).result = .ok m ∧
    m.Lists c ∧ c.name = "_Jar" ∧ m.Lists p ∧ p.kind = .propertyKind ∧ p.name = "_lid__" := by
  have hstmts : Source.Program.ofText? jar.toList =
      some [.classDef "_Jar" [] [.assign [.name "_lid__"]]] := by cbv
  simp only [Module.ofText, hstmts]
  rw [if_neg (by decide)]
  exact ⟨_, _, _, rfl, .ofClass List.mem_cons_self, rfl,
    .property List.mem_cons_self List.mem_cons_self, rfl, rfl⟩

theorem underscores_hide_jar :
    ∃ m c p, (Module.ofText "jar.py" "jar" false jar).result = .ok m ∧
      m.Lists c ∧ c.name = "_Jar" ∧ c.visibility = .prot ∧
      m.Lists p ∧ p.name = "_lid__" ∧ p.visibility = .pub ∧
      ∃ line, p.line .byKind = .ok line ∧ line.toList.head? = some '+' := by
  obtain ⟨m, c, p, hm, hc, hcname, hp, hkind, hpname⟩ := exists_jar
  obtain ⟨hclass, -⟩ := underscores_hide hm hc
  obtain ⟨-, hpublic, hline, hwritten⟩ := underscores_hide hm hp
  rw [hcname] at hclass
  rw [hpname] at hpublic hline
  obtain ⟨line, hbyKind⟩ := hwritten (by rw [hkind]; decide)
  exact ⟨m, c, p, hm, hc, hcname, (hclass.mpr (by decide)).trans (by decide), hp, hpname,
    hpublic (by decide) (by decide), line, hbyKind, (hline _ _ hbyKind).mpr (by decide)⟩

/-- An underscore in front does not hide each name that is not between two underscores on both
sides. -/
theorem trailing_underscores_show :
    ¬ ∀ (file name text : String) (isPackage : Bool) (m : Module) (e : Element),
      (Module.ofText file name isPackage text).result = .ok m → m.Lists e →
      0 < Visibility.leading e.name →
      ¬ (2 ≤ Visibility.leading e.name ∧ 2 ≤ Visibility.trailing e.name) →
      e.visibility = (if 2 ≤ Visibility.leading e.name then .priv else .prot) ∧
        ∀ style line, e.line style = .ok line → line.toList.head? ≠ some '+' := by
  intro h
  obtain ⟨m, c, p, hm, -, -, hp, -, hname⟩ := exists_jar
  have hhidden := h _ _ _ _ m p hm hp
  rw [hname] at hhidden
  obtain ⟨hprot, -⟩ := hhidden (by decide) (by decide)
  obtain ⟨q, -, -, -, hq⟩ := ParsedSource.exists_of_ofText hm
  have hvisibility := (ParsedSource.wellFormed_module hq).visibility hp
  rw [hname] at hvisibility
  exact absurd (hvisibility.symm.trans hprot) (by decide)

end ClassDiagram
