import Mathlib.Algebra.Group.Nat.Defs
import Mathlib.Data.Nat.Notation
import Mathlib.Data.Int.Notation

namespace Decimal

-- The default limit on the digits of a text that is read as a number.
def maxDigits : ℕ := 4300

def digits (text : List Char) : Option (List Char) :=
  if (text.splitOn '_').all fun part => part ≠ [] && part.all Char.isDigit then
    some (text.splitOn '_').flatten
  else none

def parseNat (text : List Char) : Option ℕ :=
  (digits text).bind fun digits =>
    if digits.length ≤ maxDigits then some (Nat.ofDigitChars 10 digits 0) else none

def parseInt : List Char → Option ℤ
  | '-' :: text => (parseNat text).map fun n : ℕ => -(n : ℤ)
  | '+' :: text => (parseNat text).map fun n : ℕ => (n : ℤ)
  | text => (parseNat text).map fun n : ℕ => (n : ℤ)

def ofInt : ℤ → List Char
  | .ofNat n => Nat.toDigits 10 n
  | .negSucc n => '-' :: Nat.toDigits 10 (n + 1)

theorem digit_of_mem {n : ℕ} {c : Char} (h : c ∈ Nat.toDigits 10 n) : c.isDigit = true :=
  Nat.isDigit_of_mem_toDigits (by decide) (by decide) h

theorem toDigits_injective : Function.Injective (Nat.toDigits 10) := by
  intro n m h
  have hread := congrArg (fun digits => Nat.ofDigitChars 10 digits 0) h
  simpa using hread

theorem digits_toDigits (n : ℕ) : digits (Nat.toDigits 10 n) = some (Nat.toDigits 10 n) := by
  have hsplit : (Nat.toDigits 10 n).splitOn '_' = [Nat.toDigits 10 n] :=
    List.splitOn_eq_singleton fun hmem => absurd (digit_of_mem hmem) (by decide)
  rw [digits,hsplit]
  simp only [List.all_cons,List.all_nil,Bool.and_true,List.flatten_cons,List.flatten_nil,List.append_nil]
  rw [if_pos]
  simp only [Bool.and_eq_true,decide_eq_true_eq,List.all_eq_true]
  exact ⟨Nat.toDigits_ne_nil,fun c hc => digit_of_mem hc⟩

theorem parseNat_toDigits {n k : ℕ} (hk : 0 < k) (hmax : k ≤ maxDigits) (h : n < 10 ^ k) :
    parseNat (Nat.toDigits 10 n) = some n := by
  have hlength : (Nat.toDigits 10 n).length ≤ maxDigits :=
    Nat.le_trans ((Nat.length_toDigits_le_iff (by decide) hk).mpr h) hmax
  rw [parseNat,digits_toDigits,Option.bind_some,if_pos hlength,Nat.ofDigitChars_ten_toDigits]

theorem parseInt_toDigits (n : ℕ) :
    parseInt (Nat.toDigits 10 n) = (parseNat (Nat.toDigits 10 n)).map fun n : ℕ => (n : ℤ) := by
  cases hdigits : Nat.toDigits 10 n with
  | nil => exact absurd hdigits Nat.toDigits_ne_nil
  | cons c rest =>
    have hdigit : c.isDigit = true := digit_of_mem (hdigits ▸ List.mem_cons_self)
    rw [parseInt.eq_3]
    · rintro text heq
      rw [(List.cons.inj heq).1] at hdigit
      exact absurd hdigit (by decide)
    · rintro text heq
      rw [(List.cons.inj heq).1] at hdigit
      exact absurd hdigit (by decide)

theorem parseInt_ofInt {n : ℤ} {k : ℕ} (hk : 0 < k) (hmax : k ≤ maxDigits) (h : n.natAbs < 10 ^ k) :
    parseInt (ofInt n) = some n := by
  cases n with
  | ofNat n =>
    have hbound : n < 10 ^ k := h
    rw [ofInt,parseInt_toDigits,parseNat_toDigits hk hmax hbound]
    rfl
  | negSucc n =>
    have hbound : n + 1 < 10 ^ k := h
    rw [ofInt,parseInt,parseNat_toDigits hk hmax hbound]
    rfl

theorem digit_or_sign {n : ℤ} {c : Char} (h : c ∈ ofInt n) : c = '-' ∨ c.isDigit = true := by
  cases n with
  | ofNat n => exact Or.inr (digit_of_mem h)
  | negSucc n =>
    rcases List.mem_cons.mp h with rfl | h
    · exact Or.inl rfl
    · exact Or.inr (digit_of_mem h)

end Decimal
