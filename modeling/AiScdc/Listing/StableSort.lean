import Mathlib.Data.List.Sort

namespace Listing

variable {α : Type} (key : α → ℕ)

def Descending (a b : α) : Prop := key b ≤ key a

instance : DecidableRel (Descending key) := fun a b => inferInstanceAs (Decidable (key b ≤ key a))

instance : Std.Total (Descending key) := ⟨fun a b => le_total (key b) (key a)⟩

instance : IsTrans α (Descending key) := ⟨fun _ _ _ h h' => le_trans h' h⟩

def ofKey (n : ℕ) (l : List α) : List α := l.filter fun a => key a = n

theorem ofKey_cons (n : ℕ) (a : α) (l : List α) :
    ofKey key n (a :: l) = if key a = n then a :: ofKey key n l else ofKey key n l := by
  simp [ofKey,List.filter_cons]

theorem mem_ofKey {n : ℕ} {a : α} {l : List α} : a ∈ ofKey key n l ↔ a ∈ l ∧ key a = n := by
  simp [ofKey]

-- The sort keeps the order of elements with one key.
theorem ofKey_insertionSort (n : ℕ) (l : List α) :
    ofKey key n (l.insertionSort (Descending key)) = ofKey key n l := by
  have hequal : (ofKey key n l).Pairwise (Descending key) := by
    apply List.pairwise_of_forall_mem_list
    intro a ha b hb
    exact le_of_eq (((mem_ofKey key).mp hb).2.trans ((mem_ofKey key).mp ha).2.symm)
  have hsub : (ofKey key n l).Sublist (l.insertionSort (Descending key)) :=
    List.sublist_insertionSort hequal List.filter_sublist
  have hkept : ofKey key n (ofKey key n l) = ofKey key n l := by simp [ofKey]
  have hfilter : (ofKey key n l).Sublist (ofKey key n (l.insertionSort (Descending key))) := by
    rw [← hkept]
    exact hsub.filter _
  have hlength := ((List.perm_insertionSort (Descending key) l).filter fun a => key a = n).length_eq
  exact (hfilter.eq_of_length hlength.symm).symm

theorem descending_eq {l l' : List α} (h : l.Pairwise (Descending key)) (h' : l'.Pairwise (Descending key))
    (hkeys : ∀ n, ofKey key n l = ofKey key n l') : l = l' := by
  induction l generalizing l' with
  | nil =>
    cases l' with
    | nil => rfl
    | cons b l' =>
      have hb := hkeys (key b)
      simp [ofKey] at hb
  | cons a l ih =>
    cases l' with
    | nil =>
      have ha := hkeys (key a)
      simp [ofKey] at ha
    | cons b l' =>
      obtain ⟨hfirst,hrest⟩ := List.pairwise_cons.mp h
      obtain ⟨hfirst',hrest'⟩ := List.pairwise_cons.mp h'
      have hle : key b ≤ key a := by
        have hb : b ∈ ofKey key (key b) (a :: l) := by
          rw [hkeys]
          exact (mem_ofKey key).mpr ⟨List.mem_cons_self,rfl⟩
        rcases List.mem_cons.mp ((mem_ofKey key).mp hb).1 with rfl | hmem
        · exact le_refl _
        · exact hfirst b hmem
      have hge : key a ≤ key b := by
        have ha : a ∈ ofKey key (key a) (b :: l') := by
          rw [← hkeys]
          exact (mem_ofKey key).mpr ⟨List.mem_cons_self,rfl⟩
        rcases List.mem_cons.mp ((mem_ofKey key).mp ha).1 with rfl | hmem
        · exact le_refl _
        · exact hfirst' a hmem
      have hkey : key a = key b := le_antisymm hge hle
      have hhead := hkeys (key a)
      rw [ofKey_cons,ofKey_cons,if_pos rfl,if_pos hkey.symm] at hhead
      obtain ⟨rfl,_⟩ := List.cons.inj hhead
      congr 1
      apply ih hrest hrest'
      intro n
      have hn := hkeys n
      rw [ofKey_cons,ofKey_cons] at hn
      split at hn
      · exact (List.cons.inj hn).2
      · exact hn

theorem insertionSort_congr {l l' : List α} (h : ∀ n, ofKey key n l = ofKey key n l') :
    l.insertionSort (Descending key) = l'.insertionSort (Descending key) := by
  apply descending_eq key (List.pairwise_insertionSort _ l) (List.pairwise_insertionSort _ l')
  intro n
  rw [ofKey_insertionSort,ofKey_insertionSort,h]

end Listing
