import Mathlib.Data.List.Basic

namespace Base64Url

def alphabet : List Char := "ABCDEFGHIJKLMNOPQRSTUVWXYZabcdefghijklmnopqrstuvwxyz0123456789-_".toList

def digit (n : ℕ) : Char := alphabet.getD n 'A'

def value (c : Char) : Option ℕ := alphabet.idxOf? c

-- Without the padding.
def encode : List UInt8 → List Char
  | a :: b :: c :: rest =>
    let n := a.toNat * 65536 + b.toNat * 256 + c.toNat
    digit (n / 262144) :: digit (n / 4096 % 64) :: digit (n / 64 % 64) :: digit (n % 64) :: encode rest
  | [a,b] =>
    let n := a.toNat * 256 + b.toNat
    [digit (n / 1024),digit (n / 16 % 64),digit (n % 16 * 4)]
  | [a] => [digit (a.toNat / 4),digit (a.toNat % 4 * 16)]
  | [] => []

def decode : List Char → Option (List UInt8)
  | w :: x :: y :: z :: rest => do
    let n := (← value w) * 262144 + (← value x) * 4096 + (← value y) * 64 + (← value z)
    let bytes ← decode rest
    return UInt8.ofNat (n / 65536) :: UInt8.ofNat (n / 256 % 256) :: UInt8.ofNat (n % 256) :: bytes
  | [w,x,y] => do
    let n := (← value w) * 1024 + (← value x) * 16 + (← value y) / 4
    return [UInt8.ofNat (n / 256),UInt8.ofNat (n % 256)]
  | [w,x] => do
    return [UInt8.ofNat ((← value w) * 4 + (← value x) / 16)]
  | [_] => none
  | [] => some []

theorem value_digit {n : ℕ} (h : n < 64) : value (digit n) = some n := by
  revert n
  decide +kernel

theorem digit_mem (n : ℕ) : digit n ∈ alphabet := by
  rw [digit,List.getD_eq_getElem?_getD]
  rcases h : alphabet[n]? with _ | c
  · decide
  · exact List.mem_of_getElem? h

theorem encode_mem (bytes : List UInt8) : ∀ c ∈ encode bytes, c ∈ alphabet := by
  induction bytes using encode.induct with
  | case1 a b c rest ih =>
    intro d hd
    simp only [encode,List.mem_cons] at hd
    rcases hd with rfl | rfl | rfl | rfl | hd
    · exact digit_mem _
    · exact digit_mem _
    · exact digit_mem _
    · exact digit_mem _
    · exact ih d hd
  | case2 a b =>
    intro d hd
    simp only [encode,List.mem_cons,List.not_mem_nil,or_false] at hd
    rcases hd with rfl | rfl | rfl <;> exact digit_mem _
  | case3 a =>
    intro d hd
    simp only [encode,List.mem_cons,List.not_mem_nil,or_false] at hd
    rcases hd with rfl | rfl <;> exact digit_mem _
  | case4 => simp [encode]

theorem encode_ne_nil {bytes : List UInt8} (h : bytes ≠ []) : encode bytes ≠ [] := by
  cases bytes using encode.induct with
  | case4 => exact absurd rfl h
  | _ => simp [encode]

theorem ofNat_eq {a : UInt8} {n : ℕ} (h : n = a.toNat) : UInt8.ofNat n = a := by
  rw [h,UInt8.ofNat_toNat]

theorem decode_encode (bytes : List UInt8) : decode (encode bytes) = some bytes := by
  induction bytes using encode.induct with
  | case1 a b c rest ih =>
    have ha := a.toNat_lt
    have hb := b.toNat_lt
    have hc := c.toNat_lt
    have hfirst : (a.toNat * 65536 + b.toNat * 256 + c.toNat) / 262144 < 64 := by omega
    have hrest (k : ℕ) : k % 64 < 64 := Nat.mod_lt _ (by decide)
    simp only [encode,decode,ih,value_digit hfirst,value_digit (hrest _),Option.pure_def,
      Option.bind_eq_bind,Option.bind_some,Option.some.injEq,List.cons.injEq,and_true]
    exact ⟨ofNat_eq (by omega),ofNat_eq (by omega),ofNat_eq (by omega)⟩
  | case2 a b =>
    have ha := a.toNat_lt
    have hb := b.toNat_lt
    have hfirst : (a.toNat * 256 + b.toNat) / 1024 < 64 := by omega
    have hlast : (a.toNat * 256 + b.toNat) % 16 * 4 < 64 := by omega
    have hmid (k : ℕ) : k % 64 < 64 := Nat.mod_lt _ (by decide)
    simp only [encode,decode,value_digit hfirst,value_digit (hmid _),value_digit hlast,
      Option.pure_def,Option.bind_eq_bind,Option.bind_some,Option.some.injEq,List.cons.injEq,and_true]
    exact ⟨ofNat_eq (by omega),ofNat_eq (by omega)⟩
  | case3 a =>
    have ha := a.toNat_lt
    have hfirst : a.toNat / 4 < 64 := by omega
    have hlast : a.toNat % 4 * 16 < 64 := by omega
    simp only [encode,decode,value_digit hfirst,value_digit hlast,Option.pure_def,
      Option.bind_eq_bind,Option.bind_some,Option.some.injEq,List.cons.injEq,and_true]
    exact ofNat_eq (by omega)
  | case4 => rfl

end Base64Url
