import Mathlib.Tactic.Linarith
import Mathlib.Tactic.Ring
import Mathlib.Data.Nat.Log

namespace Binary64

-- To the nearest, ties to even.
def roundQuotient (n d : ℕ) : ℕ :=
  if 2 * (n % d) < d ∨ 2 * (n % d) = d ∧ n / d % 2 = 0 then n / d else n / d + 1

-- The whole part of the double next to n / d, for quotients below 2 ^ 53.
def wholePart (n d : ℕ) : ℕ :=
  let bits := 52 - Nat.log2 (n / d)
  roundQuotient (n * 2 ^ bits) d / 2 ^ bits

theorem le_roundQuotient (n d : ℕ) : n / d ≤ roundQuotient n d := by
  rw [roundQuotient]
  split
  · exact le_refl _
  · exact Nat.le_succ _

theorem roundQuotient_le (n d : ℕ) : 2 * (d * roundQuotient n d) ≤ 2 * n + d := by
  have hsplit : d * (n / d) + n % d = n := Nat.div_add_mod n d
  rw [roundQuotient]
  split
  · omega
  · next hup =>
    have hhalf : d ≤ 2 * (n % d) := by omega
    rw [Nat.mul_succ]
    omega

theorem scaled_le_roundQuotient {n d : ℕ} (hd : 0 < d) (b : ℕ) : n / d * b ≤ roundQuotient (n * b) d := by
  apply le_trans _ (le_roundQuotient _ _)
  rw [Nat.le_div_iff_mul_le hd,Nat.mul_right_comm]
  exact Nat.mul_le_mul_right b (Nat.div_mul_le_self n d)

theorem succ_le_quotient {n d : ℕ} (hd : 0 < d) : n + 1 ≤ d * (n / d + 1) := by
  have hdivide : d * (n / d) + n % d = n := Nat.div_add_mod n d
  have hmod : n % d < d := Nat.mod_lt n hd
  rw [Nat.mul_succ]
  omega

theorem le_wholePart {n d : ℕ} (hd : 0 < d) : n / d ≤ wholePart n d := by
  rw [wholePart,Nat.le_div_iff_mul_le (Nat.two_pow_pos _)]
  exact scaled_le_roundQuotient hd _

theorem wholePart_le {n d : ℕ} (hd : 0 < d) : wholePart n d ≤ n / d + 1 := by
  rw [wholePart]
  generalize 2 ^ (52 - Nat.log2 (n / d)) = b
  have hround := roundQuotient_le (n * b) d
  have hup : (n + 1) * b ≤ d * (n / d + 1) * b := Nat.mul_le_mul_right b (succ_le_quotient hd)
  have hlt : d * roundQuotient (n * b) d < d * ((n / d + 1) * b + 1) := by
    rw [Nat.mul_succ,← Nat.mul_assoc]
    nlinarith
  apply Nat.div_le_of_le_mul
  rw [Nat.mul_comm b]
  exact Nat.le_of_lt_succ (Nat.lt_of_mul_lt_mul_left hlt)

-- Doubles below 2 ^ 34 lie so dense that no fraction of a small denominator rounds up to the next number.
theorem wholePart_exact {n d : ℕ} (hd : 0 < d) (h : n / d < 2 ^ 34) (hd' : d < 2 ^ 20) :
    wholePart n d = n / d := by
  have hlog : Nat.log2 (n / d) < 34 := by
    by_cases hzero : n / d = 0
    · rw [hzero]
      decide
    · exact (Nat.log2_lt hzero).mpr h
  rw [wholePart]
  generalize hb : 2 ^ (52 - Nat.log2 (n / d)) = b
  have hlarge : 2 ^ 19 ≤ b := by
    rw [← hb]
    exact Nat.pow_le_pow_right (by decide) (by omega)
  apply Nat.div_eq_of_lt_le
  · exact scaled_le_roundQuotient hd b
  · have hround := roundQuotient_le (n * b) d
    have hup : (n + 1) * b ≤ d * (n / d + 1) * b := Nat.mul_le_mul_right b (succ_le_quotient hd)
    have hlt : d * roundQuotient (n * b) d < d * ((n / d + 1) * b) := by
      rw [← Nat.mul_assoc]
      nlinarith
    exact Nat.lt_of_mul_lt_mul_left hlt

end Binary64
