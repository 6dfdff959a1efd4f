import Mathlib.Data.List.Basic
import Mathlib.Tactic

namespace Journal

section entries

variable {α : Type}

-- The entries of a journal kept in numbered slots, in the order of their numbers.
def entries (f : ℕ → Option α) (n : ℕ) : List α := (List.range n).filterMap f

theorem entries_congr {f g : ℕ → Option α} (h : ∀ i, f i = g i) (n : ℕ) :
    entries f n = entries g n := by
  rw [show f = g from funext h]

theorem entries_bump {f : ℕ → Option α} {n : ℕ} (h : f n = none) : entries f (n+1) = entries f n := by
  simp [entries,List.range_succ,h]

theorem entries_last {f : ℕ → Option α} {n : ℕ} {a : α} (h : f n = some a) :
    entries f (n+1) = entries f n ++ [a] := by
  simp [entries,List.range_succ,h]

theorem entries_beyond {f : ℕ → Option α} {n k : ℕ} (h : ∀ i, n ≤ i → f i = none) :
    entries f (n+k) = entries f n := by
  induction k with
  | zero => rfl
  | succ k ih => rw [← Nat.add_assoc,entries_bump (h _ (Nat.le_add_right n k)),ih]

-- A new entry in a slot above all the others comes last.
theorem entries_snoc {f g : ℕ → Option α} {i n : ℕ} {a : α} (hi : i < n) (hg : g i = some a)
    (hsame : ∀ j, j ≠ i → g j = f j) (hlast : ∀ j, f j ≠ none → j < i) :
    entries g n = entries f n ++ [a] := by
  obtain ⟨k,rfl⟩ := Nat.exists_eq_add_of_le (Nat.succ_le_of_lt hi)
  have hf : ∀ j, i ≤ j → f j = none := fun j hj => by
    by_contra hne
    exact absurd (hlast j hne) (Nat.not_lt.mpr hj)
  have hbelow : entries g i = entries f i := by
    refine List.filterMap_congr fun j hj => hsame j ?_
    exact Nat.ne_of_lt (List.mem_range.mp hj)
  have habove : ∀ j, i + 1 ≤ j → g j = none := fun j hj => by
    rw [hsame j (Nat.ne_of_gt hj)]
    exact hf j (Nat.le_of_succ_le hj)
  calc entries g (i.succ + k) = entries g (i+1) := entries_beyond habove
    _ = entries f i ++ [a] := by rw [entries_last hg,hbelow]
    _ = entries f (i.succ + k) ++ [a] := by
      rw [entries_beyond fun j hj => hf j (Nat.le_of_succ_le hj),entries_bump (hf i le_rfl)]

end entries

section paths

variable {S : Type} {R : S → S → Prop}

-- The entries lead from one state to another, each along an edge of R.
def Path (R : S → S → Prop) : S → List (S × S) → S → Prop
  | s, [], t => s = t
  | s, (a,b) :: rest, t => a = s ∧ R a b ∧ Path R b rest t

theorem Path.snoc {s t u : S} {l : List (S × S)} (h : Path R s l t) (ht : R t u) :
    Path R s (l ++ [(t,u)]) u := by
  induction l generalizing s with
  | nil =>
    cases h
    exact ⟨rfl,ht,rfl⟩
  | cons e rest ih => exact ⟨h.1,h.2.1,ih h.2.2⟩

theorem Path.after {s t u : S} {l l' : List (S × S)} (h : Path R s l t) (h' : Path R s (l ++ l') u) :
    Path R t l' u := by
  induction l generalizing s with
  | nil =>
    cases h
    exact h'
  | cons e rest ih => exact ih h.2.2 h'.2.2

end paths

end Journal
