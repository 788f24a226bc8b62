import Mathlib.Data.List.Forall2
import ClassDiagram.Proofs.Diagram.Forest
import ClassDiagram.Proofs.Log

/-!
The order in which members are listed.

* `sort_perm`, `inOrder_sort`, `filter_sort`: sorting by visibility loses and repeats no member,
  puts private members first and public ones last, and keeps the order within each visibility;
* `eq_sort_iff`: these laws leave one list only;
* `combine?_eq_ok_iff`, `combine?_eq_error_iff`: the text of the members is that of their lines in
  this order, each with its end, or there is none, because of the first member without a line;
* `members_stably_partitioned`: all of this.
-/

namespace ClassDiagram

theorem except_mapM_eq_ok {ε α β : Type} {f : α → Except ε β} {as : List α} {bs : List β} :
    as.mapM f = .ok bs ↔ List.Forall₂ (fun a b => f a = .ok b) as bs := by
  induction as generalizing bs with
  | nil => cases bs <;> simp [Pure.pure, Except.pure]
  | cons a as ih =>
    simp only [List.mapM_cons, except_bind_eq_ok, ih]
    constructor
    · rintro ⟨b, hb, rest, hrest, h⟩
      cases h
      exact .cons hb hrest
    · intro h
      cases h with
      | cons hb hrest => exact ⟨_, hb, _, hrest, rfl⟩

/-- A list has no image because of the first item that has none. -/
theorem except_mapM_eq_error {ε α β : Type} {f : α → Except ε β} {as : List α} {e : ε} :
    as.mapM f = .error e ↔ ∃ before a after, as = before ++ a :: after ∧
      (∀ b ∈ before, Succeeds (f b)) ∧ f a = .error e := by
  induction as with
  | nil => simp [Pure.pure, Except.pure]
  | cons a as ih =>
    rw [List.mapM_cons]
    cases ha : f a with
    | error e' =>
      constructor
      · intro h
        cases h
        exact ⟨[], a, as, rfl, List.forall_mem_nil _, ha⟩
      · rintro ⟨before, b, after, hsplit, hbefore, hb⟩
        cases before with
        | nil =>
          cases hsplit
          cases ha.symm.trans hb
          rfl
        | cons c before =>
          cases hsplit
          have hc := hbefore a List.mem_cons_self
          simp [ha] at hc
    | ok b =>
      have htail : (Except.ok b >>= fun b => as.mapM f >>= fun bs => pure (b :: bs)) = .error e ↔
          as.mapM f = .error e := by
        cases as.mapM f <;> simp [Bind.bind, Except.bind, Pure.pure, Except.pure]
      rw [htail, ih]
      constructor
      · rintro ⟨before, c, after, rfl, hbefore, hc⟩
        refine ⟨a :: before, c, after, rfl, ?_, hc⟩
        exact List.forall_mem_cons.mpr ⟨⟨b, ha⟩, hbefore⟩
      · rintro ⟨before, c, after, hsplit, hbefore, hc⟩
        cases before with
        | nil =>
          cases hsplit
          cases ha.symm.trans hc
        | cons d before =>
          cases hsplit
          exact ⟨before, c, after, rfl, (List.forall_mem_cons.mp hbefore).2, hc⟩

namespace Visibility

variable {α : Type} {visibility : α → Visibility} {members : List α}

/-- The place of a visibility in the listing of members. -/
def rank : Visibility → Nat
  | priv => 0
  | prot => 1
  | pub => 2

/-- Private members come before protected ones, and these before public ones. -/
def InOrder (visibility : α → Visibility) (members : List α) : Prop :=
  members.Pairwise fun a b => (visibility a).rank ≤ (visibility b).rank

theorem sort_eq_append (visibility : α → Visibility) (members : List α) :
    sort visibility members = members.filter (visibility · = priv) ++
      (members.filter (visibility · = prot) ++ members.filter (visibility · = pub)) := by
  simp [sort, all]

theorem sort_perm (visibility : α → Visibility) (members : List α) :
    (sort visibility members).Perm members := by
  induction members with
  | nil => simp [sort]
  | cons a members ih =>
    rw [sort_eq_append] at ih ⊢
    cases ha : visibility a with
    | priv => simpa [ha] using ih
    | prot =>
      simp only [ha, List.filter_cons, reduceCtorEq, decide_true, decide_false, if_true,
        Bool.false_eq_true, if_false]
      exact List.perm_middle.trans (ih.cons a)
    | pub =>
      simp only [ha, List.filter_cons, reduceCtorEq, decide_true, decide_false, if_true,
        Bool.false_eq_true, if_false]
      rw [← List.append_assoc] at ih ⊢
      exact List.perm_middle.trans (ih.cons a)

theorem inOrder_sort (visibility : α → Visibility) (members : List α) :
    InOrder visibility (sort visibility members) := by
  rw [InOrder, sort_eq_append]
  simp only [List.pairwise_append, List.mem_append, List.mem_filter, decide_eq_true_eq]
  have hblock : ∀ v, (members.filter (visibility · = v)).Pairwise fun a b =>
      (visibility a).rank ≤ (visibility b).rank := by
    intro v
    apply List.pairwise_of_forall_mem_list
    intro a ha b hb
    simp only [List.mem_filter, decide_eq_true_eq] at ha hb
    exact Nat.le_of_eq (by rw [ha.2, hb.2])
  refine ⟨hblock priv, ⟨hblock prot, hblock pub, ?_⟩, ?_⟩
  · rintro a ⟨-, ha⟩ b ⟨-, hb⟩
    simp [ha, hb, rank]
  · rintro a ⟨-, ha⟩ b -
    simp [ha, rank]

/-- The members of each visibility keep their order. -/
theorem filter_sort (visibility : α → Visibility) (members : List α) (v : Visibility) :
    (sort visibility members).filter (visibility · = v) = members.filter (visibility · = v) := by
  have hblock : ∀ u, (members.filter (visibility · = u)).filter (visibility · = v) =
      if u = v then members.filter (visibility · = v) else [] := by
    intro u
    split
    · rename_i huv
      simp [huv]
    · rename_i huv
      rw [List.filter_eq_nil_iff]
      intro a ha hav
      simp only [List.mem_filter, decide_eq_true_eq] at ha hav
      exact huv (ha.2.symm.trans hav)
  rw [sort_eq_append, List.filter_append, List.filter_append, hblock, hblock, hblock]
  cases v <;> simp

theorem sort_congr {others : List α} (h : ∀ v, members.filter (visibility · = v) =
    others.filter (visibility · = v)) : sort visibility members = sort visibility others := by
  simp only [sort, h]

/-- What is in order already stays as it is. -/
theorem sort_of_inOrder (h : InOrder visibility members) : sort visibility members = members := by
  induction members with
  | nil => simp [sort]
  | cons a members ih =>
    rw [InOrder, List.pairwise_cons] at h
    have hsort := ih h.2
    -- no member behind the first one belongs before it
    have hnone : ∀ v : Visibility, v.rank < (visibility a).rank →
        members.filter (visibility · = v) = [] := by
      intro v hv
      rw [List.filter_eq_nil_iff]
      intro b hb hvb
      have hab := h.1 b hb
      rw [of_decide_eq_true hvb] at hab
      omega
    rw [sort_eq_append] at hsort ⊢
    cases ha : visibility a with
    | priv => simpa [ha] using hsort
    | prot =>
      have hpriv := hnone priv (by simp [ha, rank])
      simpa [ha, hpriv] using hsort
    | pub =>
      have hpriv := hnone priv (by simp [ha, rank])
      have hprot := hnone prot (by simp [ha, rank])
      simpa [ha, hpriv, hprot] using hsort

/-- There is one list in order that has the same members of each visibility in their order. -/
theorem eq_sort_iff {sorted : List α} : sorted = sort visibility members ↔
    InOrder visibility sorted ∧
      ∀ v, sorted.filter (visibility · = v) = members.filter (visibility · = v) := by
  constructor
  · rintro rfl
    exact ⟨inOrder_sort visibility members, filter_sort visibility members⟩
  · rintro ⟨horder, hfilter⟩
    rw [← sort_congr hfilter, sort_of_inOrder horder]

theorem sort_sort (visibility : α → Visibility) (members : List α) :
    sort visibility (sort visibility members) = sort visibility members :=
  sort_of_inOrder (inOrder_sort visibility members)

theorem sort_append (visibility : α → Visibility) (members more : List α) :
    sort visibility (members ++ more) = all.flatMap fun v =>
      (sort visibility members).filter (visibility · = v) ++
        (sort visibility more).filter (visibility · = v) := by
  simp only [filter_sort, ← List.filter_append]
  rfl

end Visibility

namespace Signature

open Visibility (sort InOrder)

variable {ε α : Type} {visibility : α → Visibility} {members : List α}

theorem combine?_eq_ok_iff {line : α → Except ε String} {text : String} :
    combine? visibility line members = .ok text ↔ ∃ lines,
      List.Forall₂ (fun a l => line a = .ok l) (sort visibility members) lines ∧
        text = String.join (lines.map (· ++ lineBreak)) := by
  simp only [combine?, except_bind_eq_ok, except_mapM_eq_ok]
  apply exists_congr
  intro lines
  exact and_congr_right' ⟨fun h => (Except.ok.inj h).symm, fun h => h ▸ rfl⟩

theorem combine?_eq_error_iff {line : α → Except ε String} {e : ε} :
    combine? visibility line members = .error e ↔ ∃ before a after,
      sort visibility members = before ++ a :: after ∧
        (∀ b ∈ before, Succeeds (line b)) ∧ line a = .error e := by
  rw [← except_mapM_eq_error, combine?]
  cases (sort visibility members).mapM line <;>
    simp [Bind.bind, Except.bind, Pure.pure, Except.pure]

/-- Where each member has a line, the lines are those of `combine`. -/
theorem combine?_ok (visibility : α → Visibility) (line : α → String) (members : List α) :
    combine? visibility (fun a => (.ok (line a) : Except ε String)) members =
      .ok (combine visibility line members) := by
  rw [combine?_eq_ok_iff]
  refine ⟨(sort visibility members).map line, ?_, ?_⟩
  · exact List.forall₂_map_right_iff.mpr (List.forall₂_same.mpr fun _ _ => rfl)
  · rw [List.map_map]
    rfl

theorem combine?_empty_iff {line : α → Except ε String} :
    combine? visibility line members = .ok "" ↔ members = [] := by
  constructor
  · intro h
    obtain ⟨lines, hlines, htext⟩ := combine?_eq_ok_iff.mp h
    -- the end of a line alone is text already
    have hnone : lines = [] := by
      cases lines with
      | nil => rfl
      | cons l lines =>
        have htext := congrArg String.toList htext
        simp [lineBreak] at htext
    rw [hnone, List.forall₂_nil_right_iff] at hlines
    have hperm := Visibility.sort_perm visibility members
    rw [hlines] at hperm
    exact hperm.symm.eq_nil
  · rintro rfl
    rfl

/-- **Members are listed by a stable partition.** Sorting them gives a permutation in order, that
keeps the order within each visibility; it is the only such list, does nothing the second time, and
puts the blocks of lists together. The text of members has one line for each, in this order; it is
empty just if there are none. -/
theorem members_stably_partitioned (visibility : α → Visibility) (members : List α) :
    (sort visibility members).Perm members ∧
    (∀ sorted, sorted = sort visibility members ↔ InOrder visibility sorted ∧
      ∀ v, sorted.filter (visibility · = v) = members.filter (visibility · = v)) ∧
    sort visibility (sort visibility members) = sort visibility members ∧
    (∀ more, sort visibility (members ++ more) = Visibility.all.flatMap fun v =>
      (sort visibility members).filter (visibility · = v) ++
        (sort visibility more).filter (visibility · = v)) ∧
    (∀ line : α → Except ε String,
      (∀ text, combine? visibility line members = .ok text ↔ ∃ lines,
        List.Forall₂ (fun a l => line a = .ok l) (sort visibility members) lines ∧
          text = String.join (lines.map (· ++ "\\l"))) ∧
      (∀ e, combine? visibility line members = .error e ↔ ∃ before a after,
        sort visibility members = before ++ a :: after ∧
          (∀ b ∈ before, Succeeds (line b)) ∧ line a = .error e) ∧
      (combine? visibility line members = .ok "" ↔ members = [])) ∧
    ∀ line : α → String,
      combine? visibility (fun a => (.ok (line a) : Except ε String)) members =
        .ok (combine visibility line members) ∧
      (combine visibility line members = "" ↔ members = []) := by
  refine ⟨Visibility.sort_perm visibility members, fun _ => Visibility.eq_sort_iff,
    Visibility.sort_sort visibility members, Visibility.sort_append visibility members, ?_, ?_⟩
  · intro line
    exact ⟨fun _ => combine?_eq_ok_iff, fun _ => combine?_eq_error_iff, combine?_empty_iff⟩
  · intro line
    exact ⟨combine?_ok visibility line members,
      Diagram.combine_eq_empty visibility line members⟩

end Signature

end ClassDiagram
