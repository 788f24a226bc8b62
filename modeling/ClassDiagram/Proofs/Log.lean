import ClassDiagram.Log

/-!
Results of computations that log. A sequence succeeds just if its parts do
(`result_bind_eq_ok`), whatever they log, and fails just as the first part that does
(`result_bind_eq_error`); where the second part succeeds or not whatever the first
one gives, the two can be looked at apart (`succeeds_bind`, `succeeds_result_bind`).
-/

namespace ClassDiagram

theorem except_bind_eq_ok {ε α β : Type} {x : Except ε α} {f : α → Except ε β} {b : β} :
    x >>= f = .ok b ↔ ∃ a, x = .ok a ∧ f a = .ok b := by
  cases x <;> simp [Bind.bind, Except.bind]

theorem except_map_eq_ok {ε α β : Type} {x : Except ε α} {f : α → β} {b : β} :
    x.map f = .ok b ↔ ∃ a, x = .ok a ∧ f a = b := by
  cases x <;> simp [Except.map]

/-- A computation gives a result. -/
def Succeeds {ε α : Type} (x : Except ε α) : Prop := ∃ a, x = .ok a

@[simp] theorem succeeds_ok {ε α : Type} (a : α) : Succeeds (.ok a : Except ε α) := ⟨a, rfl⟩

@[simp] theorem succeeds_pure {ε α : Type} (a : α) : Succeeds (pure a : Except ε α) := ⟨a, rfl⟩

@[simp] theorem not_succeeds_error {ε α : Type} (e : ε) : ¬ Succeeds (.error e : Except ε α) := by
  rintro ⟨a, h⟩
  cases h

theorem succeeds_bind {ε α β : Type} {x : Except ε α} {f : α → Except ε β} {p : Prop}
    (h : ∀ a, Succeeds (f a) ↔ p) : Succeeds (x >>= f) ↔ Succeeds x ∧ p := by
  constructor
  · rintro ⟨b, hb⟩
    obtain ⟨a, ha, hf⟩ := except_bind_eq_ok.mp hb
    exact ⟨⟨a, ha⟩, (h a).mp ⟨b, hf⟩⟩
  · rintro ⟨⟨a, ha⟩, hp⟩
    obtain ⟨b, hb⟩ := (h a).mpr hp
    exact ⟨b, except_bind_eq_ok.mpr ⟨a, ha, hb⟩⟩

theorem succeeds_bind_pure {ε α β : Type} {x : Except ε α} {f : α → β} :
    Succeeds (x >>= fun a => pure (f a)) ↔ Succeeds x := by
  rw [succeeds_bind fun a => iff_true_intro (succeeds_pure (f a)), and_true]

namespace Logged

variable {ε α β : Type}

theorem result_bind (x : Logged ε α) (f : α → Logged ε β) :
    (x >>= f).result = x.result >>= fun a => (f a).result := by
  rcases x with ⟨entries, _ | a⟩ <;> rfl

theorem result_map (x : Logged ε α) (f : α → β) : (f <$> x).result = f <$> x.result := by
  rcases x with ⟨entries, _ | a⟩ <;> rfl

theorem result_bind_eq_ok {x : Logged ε α} {f : α → Logged ε β} {b : β} :
    (x >>= f).result = .ok b ↔ ∃ a, x.result = .ok a ∧ (f a).result = .ok b := by
  show (x.bind f).result = .ok b ↔ _
  rcases x with ⟨entries, _ | a⟩ <;> simp [Logged.bind]

theorem result_bind_eq_error {x : Logged ε α} {f : α → Logged ε β} {e : ε} :
    (x >>= f).result = .error e ↔
      x.result = .error e ∨ ∃ a, x.result = .ok a ∧ (f a).result = .error e := by
  show (x.bind f).result = .error e ↔ _
  rcases x with ⟨entries, _ | a⟩ <;> simp [Logged.bind]

theorem result_bind_of_ok {x : Logged ε α} {a : α} (h : x.result = .ok a) (f : α → Logged ε β) :
    (x >>= f).result = (f a).result := by
  rw [show x >>= f = _ from bind_ok h f]

theorem result_bind_pure_eq_error {x : Logged ε α} {f : α → β} {e : ε} :
    (x >>= fun a => pure (f a)).result = .error e ↔ x.result = .error e := by
  refine result_bind_eq_error.trans (or_iff_left ?_)
  rintro ⟨a, -, h⟩
  cases h

theorem succeeds_result_bind {x : Logged ε α} {f : α → Logged ε β} {p : Prop}
    (h : ∀ a, x.result = .ok a → (Succeeds (f a).result ↔ p)) :
    Succeeds (x >>= f).result ↔ Succeeds x.result ∧ p := by
  constructor
  · rintro ⟨b, hb⟩
    obtain ⟨a, ha, hf⟩ := result_bind_eq_ok.mp hb
    exact ⟨⟨a, ha⟩, (h a ha).mp ⟨b, hf⟩⟩
  · rintro ⟨⟨a, ha⟩, hp⟩
    obtain ⟨b, hb⟩ := (h a ha).mpr hp
    exact ⟨b, result_bind_eq_ok.mpr ⟨a, ha, hb⟩⟩

@[simp] theorem succeeds_result_pure (a : α) : Succeeds (pure a : Logged ε α).result := ⟨a, rfl⟩

theorem succeeds_result_bind_pure {x : Logged ε α} {f : α → β} :
    Succeeds (x >>= fun a => pure (f a)).result ↔ Succeeds x.result := by
  rw [succeeds_result_bind fun a _ => iff_true_intro (succeeds_result_pure (f a)), and_true]

theorem mk_ok_bind_pure (entries : Log) (a : α) (f : α → β) :
    ((⟨entries, .ok a⟩ : Logged ε α) >>= fun a => pure (f a)) = ⟨entries, .ok (f a)⟩ := by
  show Logged.mk (entries ++ []) (.ok (f a)) = _
  rw [List.append_nil]

theorem result_ofExcept (x : Except ε α) : (ofExcept x).result = x := rfl

theorem ofExcept_map (f : α → β) (x : Except ε α) : ofExcept (f <$> x) = f <$> ofExcept x := by
  cases x <;> rfl

theorem result_log_bind (level : LogLevel) (message : String) (x : Unit → Logged ε α) :
    (Logged.log level message >>= x).result = (x ()).result := rfl

theorem mapError_pure {ε' : Type} (g : ε → ε') (a : α) :
    (pure a : Logged ε α).mapError g = pure a := rfl

theorem mapError_bind {ε' : Type} (g : ε → ε') (x : Logged ε α) (f : α → Logged ε β) :
    (x >>= f).mapError g = x.mapError g >>= fun a => (f a).mapError g := by
  rcases x with ⟨entries, _ | a⟩ <;> rfl

end Logged

end ClassDiagram
