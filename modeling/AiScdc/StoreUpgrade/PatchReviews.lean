import AiScdc.Sandbox
import AiScdc.Text.Decimal
import Mathlib.Data.Char
import Mathlib.Data.List.Lex
import Mathlib.Data.List.Sort
import Mathlib.Data.Finset.Card

namespace AiScdc.StoreUpgrade

structure PatchReview where
  id : Text
  workspaceId : Text
  projectId : Text
  taskId : Text
  localRunId : Text
  patchArtifactId : Text
  testRunId : Option Text
  reviewerKind : Text
  verdict : Text
  issues : Text
  requiredChanges : Text
  createdAt : Text
  deriving DecidableEq, Repr

structure PatchReviewTable where
  rows : List PatchReview
  primaryKey : (rows.map PatchReview.id).Nodup

namespace PatchReview

def pair (row : PatchReview) : Text × Text := (row.patchArtifactId,row.reviewerKind)

def age (row : PatchReview) : List Text := [row.createdAt,row.id]

def rank (row : PatchReview) : List Text := [row.patchArtifactId,row.reviewerKind,row.createdAt,row.id]

def withKind (row : PatchReview) (kind : Text) : PatchReview := { row with reviewerKind := kind }

def legacyKind (row : PatchReview) : Text :=
  "legacy_duplicate:".toList ++ row.reviewerKind ++ ':' :: row.id

end PatchReview

-- ROW_NUMBER() over the rows of one pair.
def duplicatePosition (rows : List PatchReview) (row : PatchReview) : ℕ :=
  rows.countP fun other => other.pair = row.pair ∧ other.age ≤ row.age

def duplicateCandidates (rows : List PatchReview) : List PatchReview :=
  rows.insertionSort fun a b => a.rank ≤ b.rank

def reviewerKindsByArtifact (candidates : List PatchReview) (artifactId : Text) : List Text :=
  (candidates.filter fun row => row.patchArtifactId = artifactId).map PatchReview.reviewerKind

def suffixed (baseKind : Text) (suffix : ℕ) : Text := baseKind ++ ':' :: Decimal.ofInt suffix

-- The while loop; it has no answer when the fuel is used up.
def freeKind (taken : List Text) (baseKind : Text) : ℕ → Text → ℕ → Option Text
  | 0, _, _ => none
  | fuel + 1, kind, suffix =>
    if kind ∈ taken then freeKind taken baseKind fuel (suffixed baseKind suffix) (suffix + 1)
    else some kind

structure Reclassification where
  reviewerKinds : Text → List Text
  rows : List PatchReview

namespace Reclassification

def update (s : Reclassification) (row : PatchReview) (kind : Text) : Reclassification where
  reviewerKinds := Function.update s.reviewerKinds row.patchArtifactId
    (kind :: s.reviewerKinds row.patchArtifactId)
  rows := s.rows.map fun other => if other.id = row.id then other.withKind kind else other

end Reclassification

def reclassifyRow (fuel : ℕ) (rows : List PatchReview) (s : Reclassification) (row : PatchReview) :
    Option Reclassification :=
  if duplicatePosition rows row = 1 then some s
  else
    (freeKind (s.reviewerKinds row.patchArtifactId) row.legacyKind fuel row.legacyKind 2).map
      fun kind => s.update row kind

def reclassifyPatchReviewDuplicates (fuel : ℕ) (rows : List PatchReview) : Option (List PatchReview) :=
  let candidates := duplicateCandidates rows
  (candidates.foldlM (reclassifyRow fuel rows) ⟨reviewerKindsByArtifact candidates,rows⟩).map
    Reclassification.rows

def review (id reviewerKind : String) : PatchReview where
  id := id.toList
  workspaceId := []
  projectId := []
  taskId := []
  localRunId := []
  patchArtifactId := []
  testRunId := none
  reviewerKind := reviewerKind.toList
  verdict := []
  issues := []
  requiredChanges := []
  createdAt := []

-- The invented kind is taken by another row.
example : reclassifyPatchReviewDuplicates 7
    [review "1" "k",review "2" "k",review "3" "legacy_duplicate:k:2"] =
      some [review "1" "k",review "2" "legacy_duplicate:k:2:2",review "3" "legacy_duplicate:k:2"] := by
  decide

def uniqueIndexAccepts (rows : List PatchReview) : Prop := (rows.map PatchReview.pair).Nodup

def kindAt (baseKind : Text) : ℕ → Text
  | 0 => baseKind
  | k + 1 => suffixed baseKind (k + 2)

theorem suffixed_ne (baseKind : Text) (suffix : ℕ) : suffixed baseKind suffix ≠ baseKind := by
  intro h
  have hlength := congrArg List.length h
  simp [suffixed] at hlength

theorem kindAt_injective (baseKind : Text) : Function.Injective (kindAt baseKind) := by
  intro n m h
  cases n with
  | zero =>
    cases m with
    | zero => rfl
    | succ m => exact absurd h.symm (suffixed_ne _ _)
  | succ n =>
    cases m with
    | zero => exact absurd h (suffixed_ne _ _)
    | succ m =>
      have hdigits : Nat.toDigits 10 (n + 2) = Nat.toDigits 10 (m + 2) :=
        (List.cons.inj (List.append_cancel_left h)).2
      have hnumber := Decimal.toDigits_injective hdigits
      omega

theorem exists_free (taken : List Text) (baseKind : Text) :
    ∃ j ≤ taken.length, kindAt baseKind j ∉ taken := by
  have hcard : taken.toFinset.card < ((Finset.range (taken.length + 1)).image (kindAt baseKind)).card := by
    rw [Finset.card_image_of_injective _ (kindAt_injective baseKind),Finset.card_range]
    exact Nat.lt_succ_of_le (List.toFinset_card_le taken)
  obtain ⟨kind,hkind,hfree⟩ := Finset.exists_mem_notMem_of_card_lt_card hcard
  obtain ⟨j,hj,rfl⟩ := Finset.mem_image.mp hkind
  exact ⟨j,Nat.le_of_lt_succ (Finset.mem_range.mp hj),fun hmem => hfree (List.mem_toFinset.mpr hmem)⟩

section naming

variable {taken : List Text} {baseKind kind found : Text} {fuel suffix : ℕ}

theorem freeKind_free (h : freeKind taken baseKind fuel kind suffix = some found) : found ∉ taken := by
  induction fuel generalizing kind suffix with
  | zero => exact absurd h (by simp [freeKind])
  | succ fuel ih =>
    rw [freeKind] at h
    split at h
    · exact ih h
    · next hfree =>
      rw [← Option.some.inj h]
      exact hfree

theorem freeKind_succ (h : freeKind taken baseKind fuel kind suffix = some found) :
    freeKind taken baseKind (fuel + 1) kind suffix = some found := by
  induction fuel generalizing kind suffix with
  | zero => exact absurd h (by simp [freeKind])
  | succ fuel ih =>
    rw [freeKind] at h ⊢
    split
    · next htaken =>
      rw [if_pos htaken] at h
      exact ih h
    · next hfree =>
      rw [if_neg hfree] at h
      exact h

theorem freeKind_of_le {more : ℕ} (hmore : fuel ≤ more)
    (h : freeKind taken baseKind fuel kind suffix = some found) :
    freeKind taken baseKind more kind suffix = some found := by
  induction hmore with
  | refl => exact h
  | step _ ih => exact freeKind_succ ih

theorem freeKind_ends {j : ℕ} (k : ℕ) (hfuel : j < fuel) (hfree : kindAt baseKind (k + j) ∉ taken) :
    ∃ found, freeKind taken baseKind fuel (kindAt baseKind k) (k + 2) = some found := by
  induction j generalizing fuel k with
  | zero =>
    cases fuel with
    | zero => omega
    | succ fuel => exact ⟨_,if_neg hfree⟩
  | succ j ih =>
    cases fuel with
    | zero => omega
    | succ fuel =>
      rw [freeKind]
      split
      · have hnext : k + (j + 1) = k + 1 + j := by omega
        rw [hnext] at hfree
        exact ih (k + 1) (by omega) hfree
      · exact ⟨_,rfl⟩

variable (baseKind) in
theorem freeKind_found (hfuel : taken.length < fuel) :
    ∃ found, freeKind taken baseKind fuel baseKind 2 = some found := by
  obtain ⟨j,hj,hfree⟩ := exists_free taken baseKind
  rw [← Nat.zero_add j] at hfree
  exact freeKind_ends 0 (by omega) hfree

end naming

section partitions

variable {rows : List PatchReview} {row other : PatchReview}

theorem first_of_pair (hrow : row ∈ rows) (hfirst : duplicatePosition rows row = 1)
    (hother : other ∈ rows) (hpair : other.pair = row.pair) (hage : other.age ≤ row.age) : other = row := by
  rw [duplicatePosition,List.countP_eq_length_filter,List.length_eq_one_iff] at hfirst
  obtain ⟨only,honly⟩ := hfirst
  have hmem : ∀ r ∈ rows, r.pair = row.pair → r.age ≤ row.age → r = only := by
    intro r hr hp ha
    rw [← List.mem_singleton,← honly,List.mem_filter]
    exact ⟨hr,decide_eq_true ⟨hp,ha⟩⟩
  exact (hmem other hother hpair hage).trans (hmem row hrow rfl (le_refl _)).symm

theorem firsts_of_pair (hrow : row ∈ rows) (hfirst : duplicatePosition rows row = 1) (hother : other ∈ rows)
    (hfirst' : duplicatePosition rows other = 1) (hpair : other.pair = row.pair) : other = row := by
  rcases le_total other.age row.age with hage | hage
  · exact first_of_pair hrow hfirst hother hpair hage
  · exact (first_of_pair hother hfirst' hrow hpair.symm hage).symm

theorem age_injective (h : other.age = row.age) : other.id = row.id := by
  simp only [PatchReview.age,List.cons.injEq] at h
  exact h.2.1

theorem position_of_first (hids : (rows.map PatchReview.id).Nodup) (hrow : row ∈ rows)
    (hfirst : ∀ other ∈ rows, other.pair = row.pair → row.age ≤ other.age) :
    duplicatePosition rows row = 1 := by
  have hnodup : rows.Nodup := List.Nodup.of_map _ hids
  rw [duplicatePosition,← List.count_eq_one_of_mem hnodup hrow,List.count]
  apply List.countP_congr
  intro other hother
  simp only [decide_eq_true_eq,beq_iff_eq]
  constructor
  · rintro ⟨hpair,hage⟩
    have hid := age_injective (le_antisymm hage (hfirst other hother hpair))
    exact List.inj_on_of_nodup_map hids hother hrow hid
  · rintro rfl
    exact ⟨rfl,le_refl _⟩

end partitions

-- What holds once the rows of `done` are passed, where `kindOf` is the kind each row has by then.
structure Reclassified (rows done : List PatchReview) (s : Reclassification) (kindOf : PatchReview → Text) :
    Prop where
  table : s.rows = rows.map fun row => row.withKind (kindOf row)
  kept : ∀ row ∈ rows, row ∉ done ∨ duplicatePosition rows row = 1 → kindOf row = row.reviewerKind
  taken : ∀ row ∈ rows, kindOf row ∈ s.reviewerKinds row.patchArtifactId
  few : ∀ artifactId, (s.reviewerKinds artifactId).length ≤ rows.length + done.length
  apart : ∀ row ∈ rows, ∀ other ∈ rows, row ∈ done → duplicatePosition rows row ≠ 1 → other ≠ row →
    other.patchArtifactId = row.patchArtifactId → kindOf other ≠ kindOf row

section loop

variable {rows done : List PatchReview} {s : Reclassification} {kindOf : PatchReview → Text}
  {row : PatchReview} {kind : Text}

theorem Reclassified.start (rows : List PatchReview) : Reclassified rows []
    ⟨reviewerKindsByArtifact (duplicateCandidates rows),rows⟩ PatchReview.reviewerKind where
  table := (List.map_id rows).symm
  kept _ _ _ := rfl
  taken row hrow := by
    apply List.mem_map_of_mem
    rw [List.mem_filter,duplicateCandidates,List.mem_insertionSort]
    exact ⟨hrow,decide_eq_true rfl⟩
  few artifactId := by
    simp only [reviewerKindsByArtifact,List.length_map]
    apply (List.length_filter_le _ _).trans
    rw [duplicateCandidates,List.length_insertionSort]
    exact Nat.le_add_right _ _
  apart _ _ _ _ hdone := absurd hdone List.not_mem_nil

theorem Reclassified.pass (h : Reclassified rows done s kindOf) (hfirst : duplicatePosition rows row = 1) :
    Reclassified rows (done ++ [row]) s kindOf where
  table := h.table
  kept other hother hcase := by
    apply h.kept other hother
    rcases hcase with hdone | hposition
    · exact Or.inl fun hmem => hdone (List.mem_append_left _ hmem)
    · exact Or.inr hposition
  taken := h.taken
  few artifactId := by
    have hfew := h.few artifactId
    rw [List.length_append]
    omega
  apart renamed hrenamed other hother hdone hposition := by
    rcases List.mem_append.mp hdone with hdone | hlast
    · exact h.apart renamed hrenamed other hother hdone hposition
    · rw [List.mem_singleton.mp hlast] at hposition
      exact absurd hfirst hposition

theorem update_rows (hids : (rows.map PatchReview.id).Nodup) (hrow : row ∈ rows)
    (h : s.rows = rows.map fun row => row.withKind (kindOf row)) :
    (s.update row kind).rows =
      rows.map fun other => other.withKind (Function.update kindOf row kind other) := by
  rw [Reclassification.update,h,List.map_map]
  apply List.map_congr_left
  intro other hother
  by_cases heq : other = row
  · subst heq
    rw [Function.update_self]
    exact if_pos rfl
  · rw [Function.update_of_ne heq]
    exact if_neg fun hid => heq (List.inj_on_of_nodup_map hids hother hrow hid)

theorem mem_update (artifactId : Text) (known : Text) (h : known ∈ s.reviewerKinds artifactId) :
    known ∈ (s.update row kind).reviewerKinds artifactId := by
  simp only [Reclassification.update,Function.update_apply]
  split
  · next heq =>
    rw [heq] at h
    exact List.mem_cons_of_mem _ h
  · exact h

theorem Reclassified.rename (h : Reclassified rows done s kindOf)
    (hids : (rows.map PatchReview.id).Nodup) (hrow : row ∈ rows) (hlate : duplicatePosition rows row ≠ 1)
    (hfree : kind ∉ s.reviewerKinds row.patchArtifactId) :
    Reclassified rows (done ++ [row]) (s.update row kind) (Function.update kindOf row kind) where
  table := update_rows hids hrow h.table
  kept other hother hcase := by
    have hne : other ≠ row := by
      rintro rfl
      rcases hcase with hdone | hposition
      · exact hdone (List.mem_append_right _ (List.mem_singleton_self _))
      · exact hlate hposition
    rw [Function.update_of_ne hne]
    apply h.kept other hother
    rcases hcase with hdone | hposition
    · exact Or.inl fun hmem => hdone (List.mem_append_left _ hmem)
    · exact Or.inr hposition
  taken other hother := by
    by_cases heq : other = row
    · subst heq
      simp [Reclassification.update]
    · rw [Function.update_of_ne heq]
      exact mem_update _ _ (h.taken other hother)
  few artifactId := by
    have hfew := h.few artifactId
    simp only [Reclassification.update,Function.update_apply,List.length_append,List.length_singleton]
    split
    · next heq =>
      rw [heq] at hfew
      simp only [List.length_cons]
      omega
    · omega
  apart renamed hrenamed other hother hdone hposition hne hartifact := by
    by_cases hnew : renamed = row
    · subst hnew
      rw [Function.update_self,Function.update_of_ne hne]
      intro hsame
      exact hfree (hsame ▸ hartifact ▸ h.taken other hother)
    · rw [Function.update_of_ne hnew]
      by_cases hother' : other = row
      · subst hother'
        rw [Function.update_self]
        intro hsame
        exact hfree (hsame ▸ hartifact ▸ h.taken renamed hrenamed)
      · rw [Function.update_of_ne hother']
        rcases List.mem_append.mp hdone with hdone | hlast
        · exact h.apart renamed hrenamed other hother hdone hposition hne hartifact
        · exact absurd (List.mem_singleton.mp hlast) hnew

theorem reclassifyRow_step {fuel : ℕ} (h : Reclassified rows done s kindOf)
    (hids : (rows.map PatchReview.id).Nodup) (hrow : row ∈ rows) (hfuel : rows.length + done.length < fuel) :
    ∃ s' kindOf', reclassifyRow fuel rows s row = some s' ∧ Reclassified rows (done ++ [row]) s' kindOf' := by
  rw [reclassifyRow]
  split
  · next hfirst => exact ⟨s,kindOf,rfl,h.pass hfirst⟩
  · next hlate =>
    obtain ⟨kind,hkind⟩ := freeKind_found row.legacyKind
      (Nat.lt_of_le_of_lt (h.few row.patchArtifactId) hfuel)
    rw [hkind]
    exact ⟨_,_,rfl,h.rename hids hrow hlate (freeKind_free hkind)⟩

theorem reclassifyRow_loop {fuel : ℕ} {todo : List PatchReview} (h : Reclassified rows done s kindOf)
    (hids : (rows.map PatchReview.id).Nodup) (hrows : ∀ row ∈ todo, row ∈ rows)
    (hfuel : rows.length + (done.length + todo.length) < fuel + 1) :
    ∃ s' kindOf', todo.foldlM (reclassifyRow fuel rows) s = some s' ∧
      Reclassified rows (done ++ todo) s' kindOf' := by
  induction todo generalizing done s kindOf with
  | nil => exact ⟨s,kindOf,rfl,by simpa using h⟩
  | cons row todo ih =>
    simp only [List.length_cons] at hfuel
    have hfuel₁ : rows.length + done.length < fuel := by omega
    obtain ⟨s',kindOf',hstep,h'⟩ := reclassifyRow_step h hids (hrows row List.mem_cons_self) hfuel₁
    have hfuel' : rows.length + ((done ++ [row]).length + todo.length) < fuel + 1 := by
      simp only [List.length_append,List.length_singleton]
      omega
    obtain ⟨last,kinds,hrun,hlast⟩ := ih h' (fun r hr => hrows r (List.mem_cons_of_mem _ hr)) hfuel'
    rw [List.append_assoc] at hlast
    refine ⟨last,kinds,?_,hlast⟩
    rw [List.foldlM_cons,hstep]
    exact hrun

theorem Reclassified.unique (h : Reclassified rows done s kindOf)
    (hids : (rows.map PatchReview.id).Nodup) (hdone : ∀ row ∈ rows, row ∈ done) : uniqueIndexAccepts s.rows := by
  rw [uniqueIndexAccepts,h.table,List.map_map]
  apply (List.Nodup.of_map _ hids).map_on
  intro row hrow other hother hpair
  obtain ⟨hartifact,hkind⟩ := Prod.mk.inj hpair
  by_contra hne
  by_cases hlate : duplicatePosition rows row = 1
  · by_cases hlate' : duplicatePosition rows other = 1
    · have hkind' : row.reviewerKind = other.reviewerKind := by
        rw [← h.kept row hrow (Or.inr hlate),← h.kept other hother (Or.inr hlate')]
        exact hkind
      exact hne (firsts_of_pair hother hlate' hrow hlate (Prod.ext hartifact hkind'))
    · exact h.apart other hother row hrow (hdone other hother) hlate' hne hartifact hkind
  · exact h.apart row hrow other hother (hdone row hrow) hlate (Ne.symm hne) hartifact.symm hkind.symm

theorem Reclassified.others (h : Reclassified rows done s kindOf) :
    List.Forall₂ (fun row row' => row' = row.withKind row'.reviewerKind) rows s.rows := by
  rw [h.table,List.forall₂_map_right_iff]
  exact List.forall₂_same.mpr fun _ _ => rfl

theorem Reclassified.first_kept (h : Reclassified rows done s kindOf)
    (hrow : row ∈ rows) (hfirst : duplicatePosition rows row = 1) : row ∈ s.rows := by
  rw [h.table]
  apply List.mem_map.mpr
  refine ⟨row,hrow,?_⟩
  rw [h.kept row hrow (Or.inr hfirst)]
  rfl

theorem reclassify_ends {fuel : ℕ} (hids : (rows.map PatchReview.id).Nodup) (hfuel : 2 * rows.length < fuel) :
    ∃ s kindOf, reclassifyPatchReviewDuplicates fuel rows = some s.rows ∧
      Reclassified rows (duplicateCandidates rows) s kindOf := by
  have hlength : (duplicateCandidates rows).length = rows.length := List.length_insertionSort _ _
  have hfuel' : rows.length + (([] : List PatchReview).length + (duplicateCandidates rows).length) < fuel + 1 := by
    rw [hlength,List.length_nil]
    omega
  have hrows : ∀ row ∈ duplicateCandidates rows, row ∈ rows := fun row hrow =>
    (List.mem_insertionSort _).mp hrow
  obtain ⟨s,kindOf,hrun,h⟩ := reclassifyRow_loop (Reclassified.start rows) hids hrows hfuel'
  refine ⟨s,kindOf,?_,h⟩
  rw [reclassifyPatchReviewDuplicates,hrun]
  rfl

end loop

section fuel

variable {rows : List PatchReview} {fuel more : ℕ}

theorem reclassifyRow_of_le {s s' : Reclassification} {row : PatchReview} (hmore : fuel ≤ more)
    (h : reclassifyRow fuel rows s row = some s') : reclassifyRow more rows s row = some s' := by
  rw [reclassifyRow] at h ⊢
  split
  · next hfirst =>
    rw [if_pos hfirst] at h
    exact h
  · next hlate =>
    rw [if_neg hlate,Option.map_eq_some_iff] at h
    obtain ⟨kind,hkind,rfl⟩ := h
    rw [freeKind_of_le hmore hkind]
    rfl

theorem foldlM_of_le {s s' : Reclassification} {todo : List PatchReview} (hmore : fuel ≤ more)
    (h : todo.foldlM (reclassifyRow fuel rows) s = some s') :
    todo.foldlM (reclassifyRow more rows) s = some s' := by
  induction todo generalizing s with
  | nil => exact h
  | cons row todo ih =>
    rw [List.foldlM_cons] at h ⊢
    obtain ⟨next,hstep,hrest⟩ := Option.bind_eq_some_iff.mp h
    rw [reclassifyRow_of_le hmore hstep]
    exact ih hrest

theorem reclassify_of_le {after : List PatchReview} (hmore : fuel ≤ more)
    (h : reclassifyPatchReviewDuplicates fuel rows = some after) :
    reclassifyPatchReviewDuplicates more rows = some after := by
  obtain ⟨s,hrun,hrows⟩ := Option.map_eq_some_iff.mp h
  rw [reclassifyPatchReviewDuplicates,foldlM_of_le hmore hrun]
  exact congrArg some hrows

end fuel

theorem duplicates_reclassified (table : PatchReviewTable) : ∃ after,
    (∀ fuel, 2 * table.rows.length < fuel →
      reclassifyPatchReviewDuplicates fuel table.rows = some after) ∧
    uniqueIndexAccepts after ∧
    List.Forall₂ (fun row row' => row' = row.withKind row'.reviewerKind) table.rows after ∧
    (∀ row ∈ table.rows, (∀ other ∈ table.rows, other.pair = row.pair → row.age ≤ other.age) → row ∈ after) ∧
    ∀ row ∈ table.rows, (∀ other ∈ table.rows, other.pair = row.pair → other = row) → row ∈ after := by
  obtain ⟨s,kindOf,hrun,h⟩ := reclassify_ends table.primaryKey (Nat.lt_succ_self (2 * table.rows.length))
  have hfirst : ∀ row ∈ table.rows,
      (∀ other ∈ table.rows, other.pair = row.pair → row.age ≤ other.age) → row ∈ s.rows :=
    fun row hrow hage => h.first_kept hrow (position_of_first table.primaryKey hrow hage)
  refine ⟨s.rows,?_,?_,h.others,hfirst,?_⟩
  · intro fuel hfuel
    exact reclassify_of_le hfuel hrun
  · exact h.unique table.primaryKey fun row hrow => (List.mem_insertionSort _).mpr hrow
  · intro row hrow halone
    apply hfirst row hrow
    intro other hother hpair
    rw [halone other hother hpair]

end AiScdc.StoreUpgrade
