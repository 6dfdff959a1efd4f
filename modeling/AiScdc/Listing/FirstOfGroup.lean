import Mathlib.Data.List.Nodup
import Mathlib.Data.List.Range

namespace Listing

variable {α κ : Type} [DecidableEq κ] (key : α → Option κ)

-- The place of the first element of every group; an element without a key is in none.
def minPositions (l : List α) : List ℕ :=
  (l.filter fun a => key a ≠ none).map fun a => l.findIdx fun b => key b = key a

def keepFirst (l : List α) : List α :=
  (l.zipIdx.filter fun entry => key entry.1 = none ∨ entry.2 ∈ minPositions key l).map Prod.fst

def Distinct (l : List α) : Prop := l.Pairwise fun a b => key a = none ∨ key a ≠ key b

variable {key} {l : List α} {a : α} {i : ℕ}

theorem findIdx_key_iff (h : l[i]? = some a) :
    (l.findIdx fun b => key b = key a) = i ↔ ∀ j b, j < i → l[j]? = some b → key b ≠ key a := by
  obtain ⟨hi,rfl⟩ := List.getElem?_eq_some_iff.mp h
  rw [List.findIdx_eq hi]
  constructor
  · rintro ⟨_,hbefore⟩ j b hj hb
    obtain ⟨hj',rfl⟩ := List.getElem?_eq_some_iff.mp hb
    simpa using hbefore j hj
  · intro hbefore
    constructor
    · simp
    · intro j hj
      simpa using hbefore j _ hj (List.getElem?_eq_getElem (hj.trans hi))

theorem mem_minPositions (h : l[i]? = some a) :
    i ∈ minPositions key l ↔ key a ≠ none ∧ ∀ j b, j < i → l[j]? = some b → key b ≠ key a := by
  rw [← findIdx_key_iff h,minPositions,List.mem_map]
  constructor
  · rintro ⟨b,hb,hfirst⟩
    have hsame : key a = key b := by
      rw [← hfirst] at h
      simpa using List.findIdx_of_getElem?_eq_some h
    rw [hsame]
    exact ⟨by simpa using (List.mem_filter.mp hb).2,hfirst⟩
  · rintro ⟨hkey,hfirst⟩
    exact ⟨a,List.mem_filter.mpr ⟨List.mem_of_getElem? h,by simpa using hkey⟩,hfirst⟩

def Kept (key : α → Option κ) (l : List α) (i : ℕ) (a : α) : Prop :=
  key a = none ∨ ∀ j b, j < i → l[j]? = some b → key b ≠ key a

theorem kept_iff (h : l[i]? = some a) :
    key a = none ∨ i ∈ minPositions key l ↔ Kept key l i a := by
  rw [mem_minPositions h,Kept]
  tauto

theorem mem_keepFirst : a ∈ keepFirst key l ↔ ∃ i, l[i]? = some a ∧ Kept key l i a := by
  simp only [keepFirst,List.mem_map,List.mem_filter,Prod.exists,List.mem_zipIdx_iff_getElem?,decide_eq_true_eq]
  constructor
  · rintro ⟨b,i,⟨hb,hkept⟩,rfl⟩
    exact ⟨i,hb,(kept_iff hb).mp hkept⟩
  · rintro ⟨i,ha,hkept⟩
    exact ⟨a,i,⟨ha,(kept_iff ha).mpr hkept⟩,rfl⟩

theorem keepFirst_sublist (key : α → Option κ) (l : List α) : (keepFirst key l).Sublist l := by
  have hall : l.zipIdx.map Prod.fst = l := by simp
  have hsub := (List.filter_sublist (l := l.zipIdx)
    (p := fun entry => decide (key entry.1 = none ∨ entry.2 ∈ minPositions key l))).map Prod.fst
  rw [hall] at hsub
  exact hsub

theorem distinct_keepFirst (key : α → Option κ) (l : List α) : Distinct key (keepFirst key l) := by
  rw [Distinct,keepFirst,List.pairwise_map]
  have horder : l.zipIdx.Pairwise fun x y => x.2 < y.2 := by
    rw [← List.pairwise_map,List.zipIdx_map_snd]
    exact List.pairwise_lt_range'
  apply (horder.filter _).imp_of_mem
  rintro ⟨a,i⟩ ⟨b,j⟩ ha hb hij
  simp only [List.mem_filter,List.mem_zipIdx_iff_getElem?,decide_eq_true_eq] at ha hb
  rcases (kept_iff hb.1).mp hb.2 with hnone | hfirst
  · by_cases hkey : key a = none
    · exact Or.inl hkey
    · exact Or.inr fun hsame => hkey (hsame.trans hnone)
  · exact Or.inr (hfirst i a hij ha.1)

theorem keepFirst_of_distinct (h : Distinct key l) : keepFirst key l = l := by
  rw [keepFirst,List.filter_eq_self.mpr]
  · simp
  · rintro ⟨a,i⟩ ha
    have ha : l[i]? = some a := List.mem_zipIdx_iff_getElem?.mp ha
    rw [decide_eq_true_eq,kept_iff ha]
    by_cases hkey : key a = none
    · exact Or.inl hkey
    · right
      intro j b hj hb
      obtain ⟨hi,rfl⟩ := List.getElem?_eq_some_iff.mp ha
      obtain ⟨hj',rfl⟩ := List.getElem?_eq_some_iff.mp hb
      rcases List.pairwise_iff_getElem.mp h j i hj' hi hj with hnone | hne
      · exact fun hsame => hkey (hsame ▸ hnone)
      · exact hne

theorem mem_keepFirst_split {before after : List α} (hnodup : (before ++ a :: after).Nodup) :
    a ∈ keepFirst key (before ++ a :: after) ↔ key a = none ∨ ∀ b ∈ before, key b ≠ key a := by
  have hplace : (before ++ a :: after)[before.length]? = some a := by simp
  have hkept : Kept key (before ++ a :: after) before.length a ↔
      key a = none ∨ ∀ b ∈ before, key b ≠ key a := by
    apply or_congr_right
    constructor
    · intro h b hb
      obtain ⟨j,hj,rfl⟩ := List.getElem_of_mem hb
      exact h j _ hj (by rw [List.getElem?_append_left hj,List.getElem?_eq_getElem hj])
    · intro h j b hj hb
      rw [List.getElem?_append_left hj] at hb
      exact h b (List.mem_of_getElem? hb)
  rw [mem_keepFirst,← hkept]
  constructor
  · rintro ⟨i,hi,h⟩
    obtain ⟨hlt,hi⟩ := List.getElem?_eq_some_iff.mp hi
    obtain ⟨hlt',hplace⟩ := List.getElem?_eq_some_iff.mp hplace
    have hsame : i = before.length := (List.Nodup.getElem_inj_iff hnodup).mp (hi.trans hplace.symm)
    rw [← hsame]
    exact h
  · intro h
    exact ⟨_,hplace,h⟩

end Listing
