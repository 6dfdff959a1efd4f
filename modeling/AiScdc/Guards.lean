import Mathlib.Logic.Basic

namespace AiScdc

section except

variable {ε α β : Type}

theorem bind_eq_ok {m : Except ε α} {f : α → Except ε β} {b : β} :
    m >>= f = .ok b ↔ ∃ a, m = .ok a ∧ f a = .ok b := by
  cases m with
  | error e => simp [bind,Except.bind]
  | ok a => simp [bind,Except.bind]

theorem mapError_eq_ok {δ : Type} {m : Except ε α} {f : ε → δ} {a : α} :
    m.mapError f = .ok a ↔ m = .ok a := by
  cases m with
  | error e => exact ⟨fun h => (by cases h),fun h => (by cases h)⟩
  | ok b =>
    change (Except.ok b : Except δ α) = .ok a ↔ (Except.ok b : Except ε α) = .ok a
    rw [Except.ok.injEq,Except.ok.injEq]

@[simp] theorem pure_eq_ok {a b : α} : (pure a : Except ε α) = .ok b ↔ a = b := by
  simp [pure,Except.pure]

end except

section guards

variable {c : Prop} [Decidable c]

theorem ok_of_guard {ε α : Type} {e : ε} {x : Except ε α} {a : α}
    (h : (if c then .error e else x) = .ok a) : ¬ c ∧ x = .ok a := by
  split at h
  · cases h
  · next hc => exact ⟨hc,h⟩

theorem true_of_guard {x : Bool} (h : (if c then false else x) = true) : ¬ c ∧ x = true := by
  split at h
  · cases h
  · next hc => exact ⟨hc,h⟩

end guards

end AiScdc
