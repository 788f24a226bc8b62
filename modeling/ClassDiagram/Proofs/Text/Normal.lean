import ClassDiagram.Text.Normal

/-!
Normalization form KC on words. A word stays one: each character decomposes into characters of words
(`word_decompose`), the marks change places (`perm_order`), and compositions are characters of words
again (`word_compose`).
-/

namespace ClassDiagram.Text.Normal

/-- The code points of a word. -/
structure WordCodes (cs : List CodePoint) : Prop where
  nonempty : cs ≠ []
  codes : ∀ c ∈ cs, isWordCode c = true

theorem isWordCode_of_le {c : Nat} (h : 128 ≤ c) (hc : c < 0xD800) : isWordCode c = true := by
  rw [isWordCode, if_neg (Nat.not_lt.mpr h)]
  exact decide_eq_true (.inl hc)

/-! ## Decomposition -/

theorem bounds_of_isSyllable {c : Nat} (h : isSyllable c = true) : 0xAC00 ≤ c ∧ c < 0xD7A4 := by
  simp only [isSyllable, Bool.and_eq_true, decide_eq_true_iff] at h
  exact h

theorem word_syllableParts {c : Nat} (h : isSyllable c = true) : WordCodes (syllableParts c) := by
  obtain ⟨hfirst, hlast⟩ := bounds_of_isSyllable h
  have hlead : isWordCode (0x1100 + (c - 0xAC00) / 588) = true :=
    isWordCode_of_le (by omega) (by omega)
  have hvowel : isWordCode (0x1161 + (c - 0xAC00) % 588 / 28) = true :=
    isWordCode_of_le (by omega) (by omega)
  have htrail : isWordCode (0x11A7 + (c - 0xAC00) % 28) = true :=
    isWordCode_of_le (by omega) (by omega)
  simp only [syllableParts]
  split
  · exact ⟨List.cons_ne_nil _ _, List.forall_mem_cons.mpr
      ⟨hlead, List.forall_mem_singleton.mpr hvowel⟩⟩
  · exact ⟨List.cons_ne_nil _ _, List.forall_mem_cons.mpr
      ⟨hlead, List.forall_mem_cons.mpr ⟨hvowel, List.forall_mem_singleton.mpr htrail⟩⟩⟩

theorem word_decompose {c : CodePoint} (h : isWordCode c = true) : WordCodes (decompose c) := by
  rw [decompose]
  have hself : WordCodes [c] := ⟨List.cons_ne_nil _ _, List.forall_mem_singleton.mpr h⟩
  split
  · rename_i hsyllable
    exact word_syllableParts hsyllable
  · split
    · rename_i d _
      split
      · exact ⟨d.nonempty, d.word⟩
      · exact hself
    · exact hself

/-! ## Order -/

theorem perm_insertMark (c : CodePoint) (ds : List CodePoint) :
    (insertMark c ds).Perm (c :: ds) := by
  induction ds with
  | nil => exact .refl _
  | cons d ds ih =>
    rw [insertMark]
    split
    · exact (ih.cons d).trans (.swap ..)
    · exact .refl _

theorem perm_order (cs : List CodePoint) : (order cs).Perm cs := by
  have hfold : ∀ acc, (cs.foldl (fun acc c => insertMark c acc) acc).Perm (cs.reverse ++ acc) := by
    induction cs with
    | nil => exact fun acc => .refl _
    | cons c cs ih =>
      intro acc
      rw [List.foldl_cons, List.reverse_cons, List.append_assoc]
      exact (ih _).trans ((perm_insertMark c acc).append_left _)
  have hreversed := (hfold []).trans (.of_eq (List.append_nil _))
  exact (List.reverse_perm _).trans (hreversed.trans (List.reverse_perm cs))

/-! ## Composition -/

theorem word_composeSyllable {a b whole : Nat} (h : composeSyllable a b = some whole) :
    isWordCode whole = true := by
  rw [composeSyllable] at h
  split at h
  · rename_i hrange
    simp only [Bool.and_eq_true, decide_eq_true_iff] at hrange
    have hrange : ((0x1100 ≤ a ∧ a < 0x1113) ∧ 0x1161 ≤ b) ∧ b < 0x1176 := hrange
    have hwhole : 0xAC00 + ((a - 0x1100) * 21 + (b - 0x1161)) * 28 = whole := Option.some.inj h
    exact isWordCode_of_le (by omega) (by omega)
  · split at h
    · rename_i hrange
      simp only [Bool.and_eq_true, decide_eq_true_iff] at hrange
      obtain ⟨hfirst, hlast⟩ := bounds_of_isSyllable hrange.1.1.1
      have hb : b < 0x11C3 := hrange.2
      have hwhole : a + (b - 0x11A7) = whole := Option.some.inj h
      exact isWordCode_of_le (by omega) (by omega)
    · cases h

theorem word_wholeIn {table : Array Composition} {a b whole : CodePoint}
    (h : wholeIn table a b = some whole) : isWordCode whole = true := by
  simp only [wholeIn] at h
  split at h
  · rename_i row _
    split at h
    · rw [← Option.some.inj h]
      exact row.word
    · cases h
  · cases h

theorem word_composition? {a b whole : CodePoint} (h : composition? a b = some whole) :
    isWordCode whole = true := by
  unfold composition? at h
  cases hsyllable : composeSyllable a b with
  | some c =>
    simp only [hsyllable] at h
    exact word_composeSyllable (hsyllable.trans h)
  | none =>
    simp only [hsyllable] at h
    exact word_wholeIn h

theorem word_freeComposition? {starter c whole : CodePoint} {held : List CodePoint}
    (h : freeComposition? starter held c = some whole) : isWordCode whole = true := by
  cases held with
  | nil => exact word_composition? h
  | cons d held =>
    by_cases hfree : combiningClass d < combiningClass c
    · exact word_composition? ((if_pos hfree).symm.trans h)
    · cases (if_neg hfree).symm.trans h

theorem word_composeFrom {cs held : List CodePoint} {starter : CodePoint}
    (hstarter : isWordCode starter = true) (hheld : ∀ c ∈ held, isWordCode c = true)
    (hcs : ∀ c ∈ cs, isWordCode c = true) : WordCodes (composeFrom starter held cs) := by
  have hkept : ∀ c ∈ starter :: held.reverse, isWordCode c = true :=
    List.forall_mem_cons.mpr ⟨hstarter, fun c hc => hheld c (List.mem_reverse.mp hc)⟩
  induction cs generalizing starter held with
  | nil =>
    rw [composeFrom]
    exact ⟨List.cons_ne_nil _ _, hkept⟩
  | cons c cs ih =>
    obtain ⟨hc, hcs⟩ := List.forall_mem_cons.mp hcs
    rw [composeFrom]
    split
    · rename_i whole hwhole
      have hword := word_freeComposition? hwhole
      refine ih hword hheld hcs (List.forall_mem_cons.mpr ⟨hword, ?_⟩)
      exact (List.forall_mem_cons.mp hkept).2
    · split
      · have hrest : WordCodes (composeFrom c [] cs) :=
          ih hc (List.forall_mem_nil _) hcs (List.forall_mem_singleton.mpr hc)
        exact ⟨List.cons_ne_nil _ _, List.forall_mem_append.mpr ⟨hkept, hrest.codes⟩⟩
      · refine ih hstarter (List.forall_mem_cons.mpr ⟨hc, hheld⟩) hcs ?_
        refine List.forall_mem_cons.mpr ⟨hstarter, fun d hd => ?_⟩
        rcases List.mem_cons.mp (List.mem_reverse.mp hd) with rfl | hd
        · exact hc
        · exact hheld d hd

theorem word_compose {cs : List CodePoint} (h : WordCodes cs) : WordCodes (compose cs) := by
  obtain ⟨hne, hcs⟩ := h
  induction cs with
  | nil => exact absurd rfl hne
  | cons c cs ih =>
    obtain ⟨hc, hrest⟩ := List.forall_mem_cons.mp hcs
    rw [compose]
    split
    · exact word_composeFrom hc (List.forall_mem_nil _) hrest
    · refine ⟨List.cons_ne_nil _ _, List.forall_mem_cons.mpr ⟨hc, ?_⟩⟩
      by_cases hnil : cs = []
      · rw [hnil]
        exact List.forall_mem_nil _
      · exact (ih hnil hrest).codes

theorem toNat_ofNat_of_word {c : CodePoint} (h : isWordCode c = true) :
    (Char.ofNat c).toNat = c := by
  have hvalid : c.isValidChar := by
    rw [isWordCode] at h
    split at h
    · rename_i hascii
      exact .inl (Nat.lt_trans hascii (by decide))
    · exact of_decide_eq_true h
  rw [Char.ofNat, dif_pos hvalid]
  rfl

theorem word_flatMap_decompose {cs : List Char} (h : WordCodes (cs.map Char.toNat)) :
    WordCodes (cs.flatMap fun c => decompose c.toNat) := by
  obtain ⟨hne, hcs⟩ := h
  have hword : ∀ c ∈ cs, WordCodes (decompose c.toNat) := fun c hc =>
    word_decompose (hcs _ (List.mem_map_of_mem hc))
  obtain ⟨first, rest, rfl⟩ := List.exists_cons_of_ne_nil (mt List.map_eq_nil_iff.mpr hne)
  refine ⟨?_, fun d hd => ?_⟩
  · rw [List.flatMap_cons]
    exact List.append_ne_nil_of_left_ne_nil (hword first List.mem_cons_self).nonempty _
  · obtain ⟨c, hc, hd⟩ := List.mem_flatMap.mp hd
    exact (hword c hc).codes d hd

theorem word_order {cs : List CodePoint} (h : WordCodes cs) : WordCodes (order cs) where
  nonempty hnil := h.nonempty ((perm_order cs).symm.trans (.of_eq hnil)).eq_nil
  codes c hc := h.codes c ((perm_order cs).mem_iff.mp hc)

/-- **Normalized, a word is a word.** -/
theorem word_normalizeChars {cs : List Char} (h : WordCodes (cs.map Char.toNat)) :
    WordCodes ((normalizeChars cs).map Char.toNat) := by
  rw [normalizeChars]
  split
  · exact h
  · have hcomposed := word_compose (word_order (word_flatMap_decompose h))
    have hback : ((compose (order (cs.flatMap fun c => decompose c.toNat))).map Char.ofNat).map
        Char.toNat = compose (order (cs.flatMap fun c => decompose c.toNat)) := by
      rw [List.map_map]
      refine (List.map_congr_left fun c hc => ?_).trans (List.map_id _)
      exact toNat_ofNat_of_word (hcomposed.codes c hc)
    rw [hback]
    exact hcomposed

end ClassDiagram.Text.Normal
