import Mathlib.Data.List.Sort
import Mathlib.Order.Defs.LinearOrder

namespace Listing

variable {α κ : Type} [LinearOrder κ] (key : α → κ)

def Ascending (a b : α) : Prop := key a ≤ key b

instance : DecidableRel (Ascending key) := fun a b => inferInstanceAs (Decidable (key a ≤ key b))

instance : Std.Total (Ascending key) := ⟨fun a b => le_total (key a) (key b)⟩

instance : IsTrans α (Ascending key) := ⟨fun _ _ _ h h' => le_trans h h'⟩

def ordered (rows : List α) : List α := rows.insertionSort (Ascending key)

def Strict (rows : List α) : Prop := rows.Pairwise fun a b => key a < key b

def following (after : Option κ) (rows : List α) : List α :=
  match after with
  | none => rows
  | some k => rows.filter fun a => k < key a

theorem ordered_perm (rows : List α) : (ordered key rows).Perm rows :=
  List.perm_insertionSort (Ascending key) rows

theorem mem_ordered {rows : List α} {a : α} : a ∈ ordered key rows ↔ a ∈ rows :=
  (ordered_perm key rows).mem_iff

theorem strict_ordered {rows : List α} (h : (rows.map key).Nodup) : Strict key (ordered key rows) := by
  have hsorted : (ordered key rows).Pairwise (Ascending key) :=
    List.pairwise_insertionSort (Ascending key) rows
  have hkeys : (ordered key rows).Pairwise fun a b => key a ≠ key b := by
    have hn : ((ordered key rows).map key).Nodup := (((ordered_perm key rows).map key).nodup_iff).mpr h
    exact List.pairwise_map.mp hn
  exact (hsorted.and hkeys).imp fun hab => lt_of_le_of_ne hab.1 hab.2

theorem strict_eq {l l' : List α} (hp : l.Perm l') (h : Strict key l) (h' : Strict key l') :
    l = l' :=
  hp.eq_of_pairwise (fun _ _ _ _ hab hba => absurd (lt_trans hab hba) (lt_irrefl _)) h h'

theorem strict_following (after : Option κ) {rows : List α} (h : Strict key rows) :
    Strict key (following key after rows) := by
  cases after with
  | none => exact h
  | some k => exact h.filter _

theorem following_perm (after : Option κ) {l l' : List α} (h : l.Perm l') :
    (following key after l).Perm (following key after l') := by
  cases after with
  | none => exact h
  | some k => exact h.filter _

-- Selecting before sorting gives what selecting from the sorted rows gives.
theorem ordered_following (after : Option κ) {rows : List α} (h : (rows.map key).Nodup) :
    ordered key (following key after rows) = following key after (ordered key rows) := by
  apply strict_eq key
  · exact (ordered_perm key _).trans (following_perm key after (ordered_perm key rows).symm)
  · apply strict_ordered
    cases after with
    | none => exact h
    | some k => exact h.sublist (List.filter_sublist.map key)
  · exact strict_following key after (strict_ordered key h)

theorem following_split {l r : List α} {a : α} (h : Strict key (l ++ a :: r)) :
    following key (some (key a)) (l ++ a :: r) = r := by
  obtain ⟨_,hr,hl⟩ := List.pairwise_append.mp h
  obtain ⟨har,_⟩ := List.pairwise_cons.mp hr
  have hleft : l.filter (fun b => decide (key a < key b)) = [] := by
    apply List.filter_eq_nil_iff.mpr
    intro b hb
    have hlt := hl b hb a List.mem_cons_self
    simpa using le_of_lt hlt
  have hright : r.filter (fun b => decide (key a < key b)) = r := by
    apply List.filter_eq_self.mpr
    intro b hb
    simpa using har b hb
  simp only [following,List.filter_append,hleft,List.nil_append,List.filter_cons,lt_irrefl,
    decide_false,Bool.false_eq_true,if_false,hright]

theorem following_getElem {rows : List α} (h : Strict key rows) {n : ℕ} (hn : n < rows.length) :
    following key (some (key rows[n])) rows = rows.drop (n + 1) := by
  have hsplit : rows.take n ++ rows[n] :: rows.drop (n + 1) = rows := by simp
  have hs := following_split key (l := rows.take n) (a := rows[n]) (r := rows.drop (n + 1)) (by rwa [hsplit])
  rwa [hsplit] at hs

theorem ordered_append_last {rows : List α} {a : α} (h : (rows.map key).Nodup)
    (ha : ∀ b ∈ rows, key b < key a) : ordered key (rows ++ [a]) = ordered key rows ++ [a] := by
  have hstrict : Strict key (ordered key rows ++ [a]) := by
    apply List.pairwise_append.mpr
    refine ⟨strict_ordered key h,List.pairwise_singleton _ _,?_⟩
    intro b hb c hc
    rw [List.mem_singleton.mp hc]
    exact ha b ((mem_ordered key).mp hb)
  have hp : (ordered key (rows ++ [a])).Perm (ordered key rows ++ [a]) :=
    (ordered_perm key _).trans ((ordered_perm key rows).symm.append_right [a])
  apply strict_eq key hp _ hstrict
  apply strict_ordered
  have hmap := (hp.symm.trans (ordered_perm key _)).map key
  exact hmap.nodup_iff.mp (List.pairwise_map.mpr (hstrict.imp fun hab => ne_of_lt hab))

theorem filter_zipIdx (lines : List α) (start first : ℕ) :
    (lines.zipIdx first).filter (fun found => start ≤ found.2) =
      (lines.zipIdx first).drop (start - first) := by
  induction lines generalizing first with
  | nil => simp
  | cons line lines ih =>
    rw [List.zipIdx_cons,List.filter_cons]
    by_cases h : start ≤ first
    · have hkeep := ih (first + 1)
      rw [show start - (first + 1) = 0 by omega,List.drop_zero] at hkeep
      simp [h,hkeep,show start - first = 0 by omega]
    · rw [show start - first = start - (first + 1) + 1 by omega,List.drop_succ_cons]
      simp [h,ih (first + 1)]

end Listing
