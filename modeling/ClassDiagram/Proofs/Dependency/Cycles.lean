import Mathlib.Data.Finset.Max
import Mathlib.Data.List.Chain
import Mathlib.Data.List.Cycle
import Mathlib.Data.String.Basic
import ClassDiagram.Dependency.Cycles
import ClassDiagram.Proofs.Closure
import ClassDiagram.Proofs.Dictionary

/-!
The cycles that are listed are all cycles of the modules' dependencies, each once.

* `mem_waysBack`, `nodup_waysBack`: the search finds the ways back through free names, each once;
* `mem_cyclesFrom`: names that are left out beforehand are on no cycle;
* `mem_cycles`: the cycles begin with their first name in alphabetical order, so two of them that
  are rotations of each other are one (`eq_of_mem_cycles`);
* `cycles_enumerate`: read up to rotation, the cycles are those without repetition of `DependsOn`.
-/

namespace ClassDiagram.Dependency

/-! ## Closed chains -/

section ClosedChain

variable {α : Type} {r : α → α → Prop}

/-- A list that repeats an item holds a part between two places of that item. -/
theorem exists_repetition {l : List α} (h : ¬ l.Nodup) : ∃ x t, x :: t ++ [x] <:+: l := by
  induction l with
  | nil => exact absurd List.nodup_nil h
  | cons y l ih =>
    by_cases hy : y ∈ l
    · obtain ⟨t, u, rfl⟩ := List.append_of_mem hy
      exact ⟨y, t, [], u, by simp⟩
    · have hl : ¬ l.Nodup := fun hl => h (List.nodup_cons.mpr ⟨hy, hl⟩)
      obtain ⟨x, t, hpart⟩ := ih hl
      exact ⟨x, t, hpart.trans (List.suffix_cons y l).isInfix⟩

/-- A closed chain holds one without repetition. -/
theorem exists_nodup_chain {x : α} {t : List α} (h : (x :: t ++ [x]).IsChain r) :
    ∃ y u, (y :: u).Nodup ∧ (y :: u ++ [y]).IsChain r := by
  by_cases hnodup : (x :: t).Nodup
  · exact ⟨x, t, hnodup, h⟩
  · obtain ⟨y, u, hpart⟩ := exists_repetition hnodup
    have hlength := hpart.length_le
    have hshorter : u.length < t.length := by
      simp only [List.length_append, List.length_cons, List.length_nil] at hlength
      omega
    have hchain := h.infix (hpart.trans (List.prefix_append _ _).isInfix)
    exact exists_nodup_chain hchain
termination_by t.length

theorem exists_chain_of_transGen {a : α} (h : Relation.TransGen r a a) :
    ∃ t, (a :: t ++ [a]).IsChain r := by
  obtain ⟨b, hpath, hlast⟩ := Relation.TransGen.tail'_iff.mp h
  obtain ⟨t, hchain, rfl⟩ := List.exists_isChain_cons_of_relationReflTransGen hpath
  refine ⟨t, List.isChain_append.mpr ⟨hchain, List.isChain_singleton a, ?_⟩⟩
  intro x hx y hy
  rw [List.getLast?_eq_some_getLast (List.cons_ne_nil a t), Option.mem_some_iff] at hx
  rw [List.head?_singleton, Option.mem_some_iff] at hy
  rw [← hx, ← hy]
  exact hlast

theorem transGen_of_chain {c : Cycle α} (h : c.Chain r) {a : α} (ha : a ∈ c) :
    Relation.TransGen r a a := by
  have htrans : c.Chain (Relation.TransGen r) := h.imp fun _ _ => Relation.TransGen.single
  exact Cycle.chain_iff_pairwise.mp htrans a ha a ha

/-- A rotation that keeps the first item moves nothing, if no item is repeated. -/
theorem eq_of_isRotated {a : α} {s t : List α} (hnodup : (a :: s).Nodup)
    (h : (a :: s) ~r (a :: t)) : s = t := by
  obtain ⟨n, hn, hrotate⟩ := List.isRotated_iff_mod.mp h
  rcases Nat.lt_or_ge n (a :: s).length with hlt | hge
  · have hhead : (a :: s)[n]? = some a := by
      rw [← List.head?_rotate hlt, hrotate, List.head?_cons]
    have hn0 : n = 0 := by
      obtain ⟨hi, hget⟩ := List.getElem?_eq_some_iff.mp hhead
      have hfirst : (a :: s)[n] = (a :: s)[0] := hget
      exact hnodup.getElem_inj_iff.mp hfirst
    rw [hn0, List.rotate_zero] at hrotate
    exact (List.cons.inj hrotate).2
  · have hfull : n = (a :: s).length := by omega
    rw [hfull, List.rotate_length] at hrotate
    exact (List.cons.inj hrotate).2

end ClosedChain

/-! ## The search -/

section Search

variable {next : String → List String} {start : String}

theorem mem_waysBack_step {name : String} {free : List String} {w : List String} :
    w ∈ waysBack next start name free ↔ (start ∈ next name ∧ w = [name]) ∨
      ∃ n ∈ free, n ∈ next name ∧ ∃ v ∈ waysBack next start n (free.erase n), w = name :: v := by
  rw [waysBack, List.mem_append, List.mem_flatMap]
  refine or_congr ?_ ⟨?_, ?_⟩
  · split <;> simp [*]
  · rintro ⟨⟨n, hn⟩, hmem, hw⟩
    obtain ⟨v, hv, rfl⟩ := List.mem_map.mp hw
    exact ⟨n, hn, by simpa using (List.mem_filter.mp hmem).2, v, hv, rfl⟩
  · rintro ⟨n, hn, hnext, v, hv, rfl⟩
    refine ⟨⟨n, hn⟩, List.mem_filter.mpr ⟨List.mem_attach _ _, by simpa using hnext⟩, ?_⟩
    exact List.mem_map.mpr ⟨v, hv, rfl⟩

/-- The ways back go through free names, through none twice. -/
theorem mem_waysBack {name : String} {free : List String} (hfree : free.Nodup) {w : List String} :
    w ∈ waysBack next start name free ↔
      ∃ rest, w = name :: rest ∧ rest.Nodup ∧ rest ⊆ free ∧
        (name :: rest ++ [start]).IsChain (fun a b => b ∈ next a) := by
  induction name, free using waysBack.induct generalizing w with
  | case1 name free ih =>
    rw [mem_waysBack_step]
    constructor
    · rintro (⟨hstart, rfl⟩ | ⟨n, hn, hnext, v, hv, rfl⟩)
      · exact ⟨[], rfl, List.nodup_nil, List.nil_subset _, by simpa using hstart⟩
      · obtain ⟨rest, rfl, hnodup, hsubset, hchain⟩ := (ih n hn (hfree.erase n)).mp hv
        have hn' : n ∉ rest := fun h => hfree.not_mem_erase (hsubset h)
        refine ⟨n :: rest, rfl, List.nodup_cons.mpr ⟨hn', hnodup⟩, ?_, ?_⟩
        · exact List.cons_subset.mpr ⟨hn, fun x hx => List.mem_of_mem_erase (hsubset hx)⟩
        · exact List.isChain_cons_cons.mpr ⟨hnext, hchain⟩
    · rintro ⟨rest, rfl, hnodup, hsubset, hchain⟩
      cases rest with
      | nil => exact .inl ⟨(List.isChain_cons_cons.mp hchain).1, rfl⟩
      | cons n rest =>
        obtain ⟨hn, hnodup⟩ := List.nodup_cons.mp hnodup
        obtain ⟨hfirst, hsubset⟩ := List.cons_subset.mp hsubset
        obtain ⟨hnext, hchain⟩ := List.isChain_cons_cons.mp hchain
        have herase : rest ⊆ free.erase n := fun x hx =>
          (List.mem_erase_of_ne (fun h : x = n => hn (h ▸ hx))).mpr (hsubset hx)
        exact .inr ⟨n, hfirst, hnext, n :: rest,
          (ih n hfirst (hfree.erase n)).mpr ⟨rest, rfl, hnodup, herase, hchain⟩, rfl⟩

theorem nodup_waysBack {name : String} {free : List String} (hfree : free.Nodup) :
    (waysBack next start name free).Nodup := by
  induction name, free using waysBack.induct with
  | case1 name free ih =>
    have hhead : ∀ {n : String} {w : List String}, w ∈ waysBack next start n (free.erase n) →
        w.head? = some n := by
      intro n w hw
      obtain ⟨rest, rfl, -⟩ := (mem_waysBack (hfree.erase n)).mp hw
      rfl
    rw [waysBack, List.nodup_append]
    refine ⟨?_, List.nodup_flatMap.mpr ⟨?_, ?_⟩, ?_⟩
    · split <;> simp
    · rintro ⟨n, hn⟩ -
      exact (ih n hn (hfree.erase n)).map (List.cons_injective)
    · refine ((List.nodup_attach.mpr hfree).filter _).imp ?_
      rintro ⟨m, hm⟩ ⟨n, hn⟩ hne w hwm hwn
      obtain ⟨v, hv, rfl⟩ := List.mem_map.mp hwm
      obtain ⟨v', hv', heq⟩ := List.mem_map.mp hwn
      rw [(List.cons.inj heq).2] at hv'
      have hsame : m = n := Option.some.inj ((hhead hv).symm.trans (hhead hv'))
      exact hne (Subtype.ext hsame)
    · intro w hw v hv heq
      obtain ⟨⟨n, hn⟩, -, hv⟩ := List.mem_flatMap.mp hv
      obtain ⟨u, hu, rfl⟩ := List.mem_map.mp hv
      have hw : w = [name] := by
        split at hw
        · exact List.mem_singleton.mp hw
        · exact absurd hw List.not_mem_nil
      rw [hw] at heq
      rw [← (List.cons.inj heq).2] at hu
      exact absurd (hhead hu) (Option.some_ne_none n).symm

end Search

/-! ## Dependencies -/

/-- A module of the first name has a dependency of the second, which a module has for a name. -/
def DependsOn (modules : List Module) (a b : String) : Prop :=
  (∃ m ∈ modules, m.name = a ∧ b ∈ m.dependencyNames) ∧ ∃ m ∈ modules, m.name = b

variable {modules : List Module} {a b : String}

theorem mem_successors : b ∈ successors modules a ↔ DependsOn modules a b := by
  simp [successors, DependsOn, and_assoc]

theorem mem_table {links : String × List String} :
    links ∈ table modules ↔
      (∃ m ∈ modules, m.name = links.1) ∧ links.2 = successors modules links.1 := by
  rw [table, List.mem_map]
  constructor
  · rintro ⟨name, hname, rfl⟩
    exact ⟨List.mem_map.mp (Text.mem_alphabetical.mp hname), rfl⟩
  · rintro ⟨hname, hlinks⟩
    exact ⟨links.1, Text.mem_alphabetical.mpr (List.mem_map.mpr hname), Prod.ext rfl hlinks.symm⟩

theorem nodup_table_names : ((table modules).map Prod.fst).Nodup := by
  rw [table, List.map_map]
  show (List.map id _).Nodup
  rw [List.map_id]
  exact Text.nodup_alphabetical _

theorem mem_lookup_table : b ∈ ((table modules).lookup a).getD [] ↔ DependsOn modules a b := by
  have hlookup : ∀ {links : List String}, (table modules).lookup a = some links ↔
      (∃ m ∈ modules, m.name = a) ∧ links = successors modules a :=
    (Dictionary.get?_eq_some_iff nodup_table_names).trans mem_table
  cases h : (table modules).lookup a with
  | some links =>
    rw [Option.getD_some, (hlookup.mp h).2, mem_successors]
  | none =>
    have hnone : ¬ DependsOn modules a b := by
      rintro ⟨⟨m, hm, hname, -⟩, -⟩
      have hsome := hlookup.mpr ⟨⟨m, hm, hname⟩, rfl⟩
      rw [h] at hsome
      cases hsome
    simp [hnone]

/-! ## Cycles from a name -/

/-- The names behind the start in alphabetical order, with their successors. -/
def later (modules : List Module) (start : String) : List (String × List String) :=
  (table modules).filter fun (name, _) => start < name

/-- The start and the later names from which a way leads back to it. -/
def back (modules : List Module) (start : String) : List String :=
  Closure.closure (predecessors (later modules start)) (later modules start).length [start]

/-- The names that the search goes through. -/
def free (modules : List Module) (start : String) : List String :=
  ((later modules start).map Prod.fst).filter (back modules start).contains

variable {start : String}

theorem start_lt_of_mem_free (h : a ∈ free modules start) : start < a := by
  obtain ⟨links, hlinks, rfl⟩ := List.mem_map.mp (List.mem_filter.mp h).1
  simpa using (List.mem_filter.mp hlinks).2

theorem nodup_free : (free modules start).Nodup :=
  (nodup_table_names.sublist ((List.filter_sublist ..).map _)).filter _

theorem mem_predecessors_later :
    a ∈ predecessors (later modules start) b ↔ start < a ∧ DependsOn modules a b := by
  simp only [predecessors, later, List.mem_map, List.mem_filter, Prod.exists, mem_table]
  constructor
  · rintro ⟨name, links, ⟨⟨⟨hname, rfl⟩, hlater⟩, hlinks⟩, rfl⟩
    exact ⟨by simpa using hlater, mem_successors.mp (by simpa using hlinks)⟩
  · rintro ⟨hlater, hdepends⟩
    obtain ⟨⟨m, hm, hname, -⟩, -⟩ := id hdepends
    refine ⟨a, successors modules a, ⟨⟨⟨⟨m, hm, hname⟩, rfl⟩, by simpa using hlater⟩, ?_⟩, rfl⟩
    simpa using mem_successors.mpr hdepends

theorem mem_free_of_dependsOn (hb : b ∈ back modules start) (hlater : start < a)
    (hdepends : DependsOn modules a b) : a ∈ free modules start := by
  have hitems : ∀ b, ∀ a ∈ predecessors (later modules start) b,
      a ∈ (later modules start).map Prod.fst :=
    fun b a ha => ((List.filter_sublist ..).map _).subset ha
  have ha := mem_predecessors_later.mpr ⟨hlater, hdepends⟩
  have hback : a ∈ back modules start :=
    Closure.mem_closure_of_next hitems (Nat.le_of_eq (List.length_map _)) hb ha
  exact List.mem_filter.mpr ⟨hitems b a ha, List.contains_iff_mem.mpr hback⟩

/-- No name is left out that a chain through later names leads back from. -/
theorem subset_free_of_chain {l : List String} (hlater : ∀ n ∈ l, start < n)
    (hchain : (l ++ [start]).IsChain (DependsOn modules)) : l ⊆ free modules start := by
  induction l with
  | nil => exact List.nil_subset _
  | cons a l ih =>
    have hrest := ih (fun n hn => hlater n (List.mem_cons_of_mem a hn)) hchain.tail
    refine List.cons_subset.mpr ⟨?_, hrest⟩
    have hfirst : start < a := hlater a List.mem_cons_self
    cases l with
    | nil =>
      have hstart : start ∈ back modules start :=
        Closure.mem_grow _ _ (List.mem_singleton_self start)
      exact mem_free_of_dependsOn hstart hfirst (List.isChain_cons_cons.mp hchain).1
    | cons b l =>
      have hb : b ∈ back modules start :=
        List.contains_iff_mem.mp (List.mem_filter.mp (hrest List.mem_cons_self)).2
      exact mem_free_of_dependsOn hb hfirst (List.isChain_cons_cons.mp hchain).1

/-- The cycles from a name are those on which it comes first in alphabetical order. -/
theorem mem_cyclesFrom {c : List String} :
    c ∈ cyclesFrom (table modules) start ↔ ∃ rest, c = start :: rest ∧ rest.Nodup ∧
      (∀ n ∈ rest, start < n) ∧ (start :: rest ++ [start]).IsChain (DependsOn modules) := by
  have hchain : ∀ {l : List String},
      l.IsChain (fun a b => b ∈ ((table modules).lookup a).getD []) ↔
        l.IsChain (DependsOn modules) := by
    intro l
    exact ⟨fun h => h.imp fun a b => mem_lookup_table.mp,
      fun h => h.imp fun a b => mem_lookup_table.mpr⟩
  show c ∈ waysBack _ start start (free modules start) ↔ _
  rw [mem_waysBack nodup_free]
  refine exists_congr fun rest => and_congr_right fun _ => and_congr_right fun _ => ?_
  rw [hchain]
  refine and_congr_left fun hrest => ⟨fun hfree n hn => start_lt_of_mem_free (hfree hn), ?_⟩
  intro hlater
  exact subset_free_of_chain hlater hrest.tail

theorem nodup_cyclesFrom : (cyclesFrom (table modules) start).Nodup :=
  nodup_waysBack nodup_free

/-! ## All cycles -/

theorem mem_cycles {c : List String} :
    c ∈ cycles modules ↔ ∃ start rest, c = start :: rest ∧ rest.Nodup ∧
      (∀ n ∈ rest, start < n) ∧ (start :: rest ++ [start]).IsChain (DependsOn modules) := by
  rw [cycles, List.mem_flatMap]
  constructor
  · rintro ⟨links, -, hc⟩
    exact ⟨links.1, mem_cyclesFrom.mp hc⟩
  · rintro ⟨start, rest, hc⟩
    have hstart : ∃ m ∈ modules, m.name = start := by
      obtain ⟨-, -, -, hchain⟩ := hc
      cases rest with
      | nil => exact (List.isChain_cons_cons.mp hchain).1.2
      | cons n rest =>
        obtain ⟨⟨m, hm, hname, -⟩, -⟩ := (List.isChain_cons_cons.mp hchain).1
        exact ⟨m, hm, hname⟩
    exact ⟨(start, successors modules start), mem_table.mpr ⟨hstart, rfl⟩,
      mem_cyclesFrom.mpr ⟨rest, hc⟩⟩

theorem nodup_cycles : (cycles modules).Nodup := by
  refine List.nodup_flatMap.mpr ⟨fun links _ => nodup_cyclesFrom, ?_⟩
  refine (List.pairwise_map.mp nodup_table_names).imp fun {first second} hne c hc hc' => ?_
  obtain ⟨rest, rfl, -⟩ := mem_cyclesFrom.mp hc
  obtain ⟨rest', heq, -⟩ := mem_cyclesFrom.mp hc'
  exact hne (List.cons.inj heq).1

/-- Cycles that are rotations of each other are the same: both begin with their first name. -/
theorem eq_of_mem_cycles {c d : List String} (hc : c ∈ cycles modules) (hd : d ∈ cycles modules)
    (h : c ~r d) : c = d := by
  obtain ⟨a, s, rfl, hs, hfirst, -⟩ := mem_cycles.mp hc
  obtain ⟨b, t, rfl, -, hfirst', -⟩ := mem_cycles.mp hd
  have hab : a = b := by
    rcases List.mem_cons.mp (h.mem_iff.mp List.mem_cons_self) with hab | ha
    · exact hab
    · rcases List.mem_cons.mp (h.mem_iff.mpr List.mem_cons_self) with hba | hb
      · exact hba.symm
      · exact absurd (hfirst b hb) (lt_asymm (hfirst' a ha))
  subst hab
  have hnodup : (a :: s).Nodup :=
    List.nodup_cons.mpr ⟨fun ha => lt_irrefl a (hfirst a ha), hs⟩
  rw [eq_of_isRotated hnodup h]

theorem exists_min {l : List String} (h : l ≠ []) : ∃ a ∈ l, ∀ b ∈ l, a ≤ b := by
  obtain ⟨a, ha, hmin⟩ := l.toFinset.exists_min_image id (List.toFinset_nonempty_iff l |>.mpr h)
  exact ⟨a, List.mem_toFinset.mp ha, fun b hb => hmin b (List.mem_toFinset.mpr hb)⟩

/-- Read up to rotation, the cycles are all closed chains without repetition. -/
theorem coe_mem_cycles {c : Cycle String} :
    c ∈ (cycles modules).map Cycle.ofList ↔
      c ≠ Cycle.nil ∧ c.Nodup ∧ c.Chain (DependsOn modules) := by
  rw [List.mem_map]
  constructor
  · rintro ⟨l, hl, rfl⟩
    obtain ⟨start, rest, rfl, hnodup, hfirst, hchain⟩ := mem_cycles.mp hl
    have hstart : start ∉ rest := fun h => lt_irrefl start (hfirst start h)
    refine ⟨?_, Cycle.nodup_coe_iff.mpr (List.nodup_cons.mpr ⟨hstart, hnodup⟩), hchain⟩
    exact fun h => List.cons_ne_nil start rest ((Cycle.coe_eq_nil _).mp h)
  · induction c using Quotient.inductionOn' with
    | h l =>
      rintro ⟨hne, hnodup, hchain⟩
      obtain ⟨a, ha, hmin⟩ := exists_min (l := l) fun h => hne ((Cycle.coe_eq_nil l).mpr h)
      obtain ⟨s, t, rfl⟩ := List.append_of_mem ha
      -- the rotation that begins with the first name
      have hrotate : ((s ++ a :: t : List String) : Cycle String) = ((a :: t ++ s : List String)) :=
        Cycle.coe_eq_coe.mpr List.isRotated_append
      have hnodup' : (a :: (t ++ s)).Nodup := Cycle.nodup_coe_iff.mp (hrotate ▸ hnodup)
      have hclosed : Cycle.Chain (DependsOn modules) ((a :: t ++ s : List String)) :=
        hrotate ▸ hchain
      obtain ⟨ha, hrest⟩ := List.nodup_cons.mp hnodup'
      have hfirst : ∀ n ∈ t ++ s, a < n := by
        intro n hn
        have hn' : n ∈ s ++ a :: t := by
          rcases List.mem_append.mp hn with hn | hn <;> simp [hn]
        exact lt_of_le_of_ne (hmin n hn') fun h => ha (h ▸ hn)
      exact ⟨a :: (t ++ s), mem_cycles.mpr ⟨a, t ++ s, rfl, hrest, hfirst, hclosed⟩, hrotate.symm⟩

/-- **The listed cycles are the cycles of the dependencies.** Read up to rotation, none is listed
twice, and listed are the closed chains of `DependsOn` that repeat no name; so none is listed just
if no name depends on itself through others. -/
theorem cycles_enumerate (modules : List Module) :
    ((cycles modules).map Cycle.ofList).Nodup ∧
      (∀ c : Cycle String, c ∈ (cycles modules).map Cycle.ofList ↔
        c ≠ Cycle.nil ∧ c.Nodup ∧ c.Chain (DependsOn modules)) ∧
      (cycles modules = [] ↔ ∀ a, ¬ Relation.TransGen (DependsOn modules) a a) := by
  refine ⟨?_, fun c => coe_mem_cycles, ?_, ?_⟩
  · refine List.Nodup.map_on (fun c hc d hd h => ?_) nodup_cycles
    exact eq_of_mem_cycles hc hd (Cycle.coe_eq_coe.mp h)
  · intro hnone a ha
    obtain ⟨t, hclosed⟩ := exists_chain_of_transGen ha
    obtain ⟨y, u, hnodup, hchain⟩ := exists_nodup_chain hclosed
    have hlisted : (↑(y :: u) : Cycle String) ∈ (cycles modules).map Cycle.ofList :=
      coe_mem_cycles.mpr ⟨fun h => List.cons_ne_nil y u ((Cycle.coe_eq_nil _).mp h),
        Cycle.nodup_coe_iff.mpr hnodup, hchain⟩
    rw [hnone] at hlisted
    exact List.not_mem_nil hlisted
  · intro hacyclic
    refine List.eq_nil_iff_forall_not_mem.mpr fun c hc => ?_
    obtain ⟨start, rest, rfl, -, -, hchain⟩ := mem_cycles.mp hc
    have hclosed : Cycle.Chain (DependsOn modules) ↑(start :: rest) := hchain
    exact hacyclic start (transGen_of_chain hclosed (Cycle.mem_coe_iff.mpr List.mem_cons_self))

end ClassDiagram.Dependency
