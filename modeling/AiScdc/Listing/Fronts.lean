import Mathlib.Data.List.Sort
import Mathlib.Data.List.TakeWhile

namespace Fronts

variable {α : Type} {p r : α → Bool} {l : List α}

-- Dropping elements that the front would keep commutes with cutting the list at the front's end.
theorem front_filter (h : ∀ a ∈ l, p a = false → r a = true) :
    (l.filter p).takeWhile r = (l.takeWhile r).filter p := by
  induction l with
  | nil => rfl
  | cons a l ih =>
    have hrest := ih fun b hb => h b (List.mem_cons_of_mem a hb)
    cases hp : p a with
    | false =>
      have hr : r a = true := h a List.mem_cons_self hp
      simpa [hp,hr] using hrest
    | true =>
      cases hr : r a with
      | false => simp [hp,hr]
      | true => simpa [hp,hr] using hrest

theorem back_filter (h : ∀ a ∈ l, p a = false → r a = true) :
    (l.filter p).dropWhile r = (l.dropWhile r).filter p := by
  induction l with
  | nil => rfl
  | cons a l ih =>
    have hrest := ih fun b hb => h b (List.mem_cons_of_mem a hb)
    cases hp : p a with
    | false =>
      have hr : r a = true := h a List.mem_cons_self hp
      simpa [hp,hr] using hrest
    | true =>
      cases hr : r a with
      | false => simp [hp,hr]
      | true => simpa [hp,hr] using hrest

theorem sort_filter {le : α → α → Prop} [DecidableRel le] [Std.Total le] [IsTrans α le]
    (h : ∀ a ∈ l, ∀ b ∈ l, le a b → le b a → a = b) :
    (l.filter p).insertionSort le = (l.insertionSort le).filter p := by
  have hperm : (l.filter p).insertionSort le |>.Perm ((l.insertionSort le).filter p) :=
    (List.perm_insertionSort le _).trans ((List.perm_insertionSort le l).symm.filter p)
  refine hperm.eq_of_pairwise (fun a b ha hb hab hba => ?_) (List.pairwise_insertionSort le _)
    ((List.pairwise_insertionSort le l).sublist List.filter_sublist)
  have hmem {a : α} (ha : a ∈ (l.filter p).insertionSort le) : a ∈ l :=
    (List.mem_filter.mp ((List.mem_insertionSort le).mp ha)).1
  exact h a (hmem ha) b ((List.mem_insertionSort le).mp (List.mem_filter.mp hb).1) hab hba

end Fronts
