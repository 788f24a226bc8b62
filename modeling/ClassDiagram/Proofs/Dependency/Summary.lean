import Mathlib.Data.List.Perm.Basic
import Mathlib.Data.List.Sort
import ClassDiagram.Dependency.Summary

/-!
The summary of modules as a canonical form. It has a line for each module, by name and stably so,
and a line lists what its module depends on in strict order. Modules of different names have the
summary of others just if they are the same up to their order, and up to the order and number of
each one's dependencies (`ofModules_canonical`).
-/

namespace ClassDiagram

/-- Two modules of one name that depend on the same names, in whatever order and however often. -/
structure SameDependencies (m n : Module) : Prop where
  name : m.name = n.name
  mem_iff : ∀ d, d ∈ m.dependencyNames ↔ d ∈ n.dependencyNames

/-- Lists of modules that differ in the order of the modules, and in the order and number of the
dependencies of each. -/
def Rearranged (ms ns : List Module) : Prop :=
  ∃ others, List.Forall₂ SameDependencies ms others ∧ others.Perm ns

namespace DependencySummary

/-- A line that tells what a module depends on. -/
structure Tells (m : Module) (line : DependencySummary) : Prop where
  name : line.name = m.name
  increasing : line.dependencies.Pairwise (· < ·)
  mem_iff : ∀ d, d ∈ line.dependencies ↔ d ∈ m.dependencyNames

theorem tells_ofModule (m : Module) : Tells m (ofModule m) where
  name := rfl
  increasing := Text.pairwise_alphabetical m.dependencyNames
  mem_iff _ := Text.mem_alphabetical

theorem Tells.eq {m n : Module} {line other : DependencySummary} (hm : Tells m line)
    (hn : Tells n other) (h : SameDependencies m n) : line = other := by
  have hname : line.name = other.name := by rw [hm.name, hn.name, h.name]
  have hdependencies : line.dependencies = other.dependencies := by
    apply hm.increasing.eq_of_mem_iff hn.increasing
    intro d
    rw [hm.mem_iff, hn.mem_iff, h.mem_iff]
  cases line
  cases other
  simp_all

theorem ofModule_eq_iff {m n : Module} : ofModule m = ofModule n ↔ SameDependencies m n := by
  constructor
  · intro h
    refine ⟨congrArg DependencySummary.name h, fun d => ?_⟩
    rw [← (tells_ofModule m).mem_iff, ← (tells_ofModule n).mem_iff, h]
  · exact (tells_ofModule m).eq (tells_ofModule n)

theorem map_ofModule_eq_iff {ms ns : List Module} :
    ms.map ofModule = ns.map ofModule ↔ List.Forall₂ SameDependencies ms ns := by
  rw [← List.forall₂_eq_eq_eq, List.forall₂_map_left_iff, List.forall₂_map_right_iff]
  simp only [ofModule_eq_iff]

theorem ofModules_perm (ms : List Module) : (ofModules ms).Perm (ms.map ofModule) :=
  (Text.sortBy_perm Module.name ms).map ofModule

theorem pairwise_ofModules {ms : List Module} (h : (ms.map Module.name).Nodup) :
    (ofModules ms).Pairwise fun a b => a.name < b.name :=
  List.pairwise_map.mpr (Text.pairwise_lt_sortBy h)

theorem rearranged_iff {ms ns : List Module} :
    Rearranged ms ns ↔ (ms.map ofModule).Perm (ns.map ofModule) := by
  constructor
  · rintro ⟨others, hsame, hperm⟩
    rw [map_ofModule_eq_iff.mpr hsame]
    exact hperm.map ofModule
  · intro h
    have hlines : List.Forall₂ (fun line n => line = ofModule n) (ns.map ofModule) ns :=
      List.forall₂_map_left_iff.mpr (List.forall₂_same.mpr fun n _ => rfl)
    obtain ⟨others, hothers, hperm⟩ := List.perm_comp_forall₂ h hlines
    refine ⟨others, ?_, hperm⟩
    apply (List.forall₂_map_left_iff.mp hothers).imp
    intro m n
    exact ofModule_eq_iff.mp

/-- With different names there is one order of the lines only. -/
theorem ofModules_eq_iff_perm {ms ns : List Module} (hms : (ms.map Module.name).Nodup) :
    ofModules ms = ofModules ns ↔ (ms.map ofModule).Perm (ns.map ofModule) := by
  constructor
  · intro h
    have hperm := ofModules_perm ns
    rw [← h] at hperm
    exact (ofModules_perm ms).symm.trans hperm
  · intro h
    have hnames : (ms.map Module.name).Perm (ns.map Module.name) := by
      simpa [List.map_map, Function.comp_def, ofModule] using h.map DependencySummary.name
    have hns : (ns.map Module.name).Nodup := hnames.nodup_iff.mp hms
    have hperm : (ofModules ms).Perm (ofModules ns) :=
      ((ofModules_perm ms).trans h).trans (ofModules_perm ns).symm
    apply hperm.eq_of_pairwise _ (pairwise_ofModules hms) (pairwise_ofModules hns)
    intro a b _ _ hab hba
    exact absurd (String.lt_trans hab hba) (String.lt_irrefl a.name)

/-- **The summary is a canonical form of the modules' dependencies.** It tells of each module, in
the order of the names, what it depends on, each name once and in order. Modules of different names
have one summary with others just if these are the same ones rearranged. -/
theorem ofModules_canonical (ms : List Module) :
    (∃ sorted : List Module, sorted.Perm ms ∧
      sorted.Pairwise (fun m n => m.name ≤ n.name) ∧
      (∀ name, sorted.filter (·.name = name) = ms.filter (·.name = name)) ∧
      List.Forall₂ Tells sorted (ofModules ms)) ∧
    ((ms.map Module.name).Nodup → ∀ ns, ofModules ms = ofModules ns ↔ Rearranged ms ns) := by
  constructor
  · refine ⟨Text.sortBy Module.name ms, Text.sortBy_perm Module.name ms,
      Text.pairwise_sortBy Module.name ms, Text.filter_sortBy Module.name ms, ?_⟩
    apply List.forall₂_map_right_iff.mpr
    apply List.forall₂_same.mpr
    intro m _
    exact tells_ofModule m
  · intro hms ns
    rw [ofModules_eq_iff_perm hms, rearranged_iff]

/-- Two modules, found in one order and in the other; their imports differ in order and number. -/
def harbour : List Module :=
  [.importing "Zeta" ["os", "abc", "os"], .importing "Alpha" ["sys", "json"]]

def harbourAgain : List Module :=
  [.importing "Alpha" ["json", "sys", "json"], .importing "Zeta" ["abc", "os"]]

theorem ofModules_canonical_harbour :
    (harbour.map Module.name).Nodup ∧ ofModules harbour = ofModules harbourAgain := by
  have hnames : (harbour.map Module.name).Nodup := by decide
  have hrearranged : Rearranged harbour harbourAgain := by
    refine ⟨harbourAgain.reverse, .cons ⟨rfl, ?_⟩ (.cons ⟨rfl, ?_⟩ .nil), List.reverse_perm _⟩
    · grind [Module.dependencyNames, Module.importing]
    · grind [Module.dependencyNames, Module.importing]
  exact ⟨hnames, ((ofModules_canonical harbour).2 hnames harbourAgain).mpr hrearranged⟩

end DependencySummary

end ClassDiagram
