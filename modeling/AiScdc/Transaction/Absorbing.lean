import AiScdc.Transaction.Footprint

namespace Transaction

variable {K : Type} {V : K → Type} {T ε α G : Type} {P : Course V G} {x : G}

-- A phase that every statement is allowed in and none leaves.
structure Absorbing (P : Course V G) (x : G) : Prop where
  update : ∀ k g s, P.update x k g s x
  flush : ∀ k l n, P.flush x k l n x
  commit : P.commit x x
  rollback : P.rollback x x

theorem Absorbing.obeys (h : Absorbing P x) (m : Prog V T ε α) : Obeys P (fun y => y = x) m := by
  induction m with
  | pure a => exact .pure a
  | throw e => exact .raise e
  | utcNow k ih => exact .utcNow ih
  | freshId k ih => exact .freshId ih
  | select k ih => exact .select ih
  | update key g s k ih =>
    refine .update ?_ ih
    rintro _ rfl
    exact ⟨_,rfl,h.update key g s⟩
  | flush key l n k ih =>
    refine .flush ?_ ih
    rintro _ _ rfl
    exact ⟨_,rfl,h.flush key l n⟩
  | commit k ih =>
    refine .commit ?_ ih
    rintro _ rfl
    exact ⟨_,rfl,h.commit⟩
  | rollback k ih =>
    refine .rollback ?_ ih
    rintro _ rfl
    exact ⟨_,rfl,h.rollback⟩

theorem Absorbing.writes (h : Absorbing P x) (m : Prog V T ε α) {Q : α → G → Prop} {E : ε → G → Prop}
    (hQ : ∀ a, Q a x) (hE : ∀ e, E e x) : Writes P x m Q E :=
  (h.obeys m x rfl).mono (fun a _ hy => hy ▸ hQ a) fun e _ hy => hy ▸ hE e

end Transaction
