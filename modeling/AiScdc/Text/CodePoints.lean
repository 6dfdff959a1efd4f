import Mathlib.Data.List.Basic

namespace CodePoints

-- A text as a list of code points, which may hold lone surrogates.
def codes (text : String) : List ℕ := text.toList.map Char.toNat

def isDigit (code : ℕ) : Bool := 48 ≤ code && code ≤ 57

def isSurrogate (code : ℕ) : Bool := 0xD800 ≤ code && code < 0xE000

def IsScalar (code : ℕ) : Prop := code < 0xD800 ∨ (0xE000 ≤ code ∧ code < 0x110000)

def Ascii (text : List ℕ) : Prop := ∀ code ∈ text, code < 128

theorem codes_injective : Function.Injective codes := by
  intro s t h
  exact String.toList_inj.mp (List.map_injective_iff.mpr (fun _ _ => Char.toNat_inj.mp) h)

theorem scalar_codes (text : String) : ∀ code ∈ codes text, IsScalar code := by
  intro code hcode
  obtain ⟨c,_,rfl⟩ := List.mem_map.mp hcode
  rcases c.valid with h | h
  · exact .inl h
  · exact .inr ⟨Nat.succ_le_of_lt h.1,h.2⟩

theorem scalar_isSurrogate {code : ℕ} (h : IsScalar code) : isSurrogate code = false := by
  simp only [isSurrogate,Bool.and_eq_false_iff,decide_eq_false_iff_not]
  unfold IsScalar at h
  omega

theorem ascii_nil : Ascii [] := fun _ hc => absurd hc List.not_mem_nil

theorem ascii_cons {code : ℕ} {text : List ℕ} (hcode : code < 128) (h : Ascii text) :
    Ascii (code :: text) := by
  intro c hc
  rcases List.mem_cons.mp hc with rfl | hc
  · exact hcode
  · exact h c hc

theorem ascii_append {front back : List ℕ} (hf : Ascii front) (hb : Ascii back) : Ascii (front ++ back) := by
  intro c hc
  rcases List.mem_append.mp hc with hc | hc
  · exact hf c hc
  · exact hb c hc

end CodePoints
