import Mathlib.Algebra.GroupWithZero.Nat
import Mathlib.Data.List.Basic

namespace LexicalPath

variable {α : Type*} [DecidableEq α] {slash dot : α} {path part : List α}
  {parts reached resolved : List (List α)}

structure Proper (dot : α) (part : List α) : Prop where
  ne_nil : part ≠ []
  ne_dot : part ≠ [dot]
  ne_up : part ≠ [dot,dot]

-- The directories entered so far are kept innermost first.
def resolveParts (dot : α) : List (List α) → List (List α) → Option (List (List α))
  | reached, [] => some reached.reverse
  | reached, part :: parts =>
    if part = [] ∨ part = [dot] then resolveParts dot reached parts
    else if part = [dot,dot] then
      match reached with
      | [] => none
      | _ :: outer => resolveParts dot outer parts
    else resolveParts dot (part :: reached) parts

def resolve (slash dot : α) (path : List α) : Option (List (List α)) :=
  if path.head? = some slash then none else resolveParts dot [] (path.splitOn slash)

def joined (slash : α) (parts : List (List α)) : List α := [slash].intercalate parts

def Canonical (slash dot : α) (path : List α) : Prop :=
  (resolve slash dot path).map (joined slash) = some path

instance : Decidable (Canonical slash dot path) :=
  inferInstanceAs (Decidable ((resolve slash dot path).map (joined slash) = some path))

theorem resolveParts_of_proper (h : ∀ part ∈ parts, Proper dot part) :
    resolveParts dot reached parts = some (reached.reverse ++ parts) := by
  induction parts generalizing reached with
  | nil => simp [resolveParts]
  | cons part parts ih =>
    have hpart := h part List.mem_cons_self
    have hrest : resolveParts dot (part :: reached) parts = some ((part :: reached).reverse ++ parts) :=
      ih fun p hp => h p (List.mem_cons_of_mem _ hp)
    simp [resolveParts,hpart.ne_nil,hpart.ne_dot,hpart.ne_up,hrest]

theorem proper_of_resolveParts (hreached : ∀ part ∈ reached, Proper dot part)
    (h : resolveParts dot reached parts = some resolved) : ∀ part ∈ resolved, Proper dot part := by
  induction parts generalizing reached with
  | nil =>
    intro part hpart
    simp only [resolveParts,Option.some.injEq] at h
    exact hreached part (by simpa [← h] using hpart)
  | cons part parts ih =>
    simp only [resolveParts] at h
    split at h
    · exact ih hreached h
    · rename_i hstays
      push Not at hstays
      split at h
      · cases reached with
        | nil => cases h
        | cons inner outer => exact ih (fun p hp => hreached p (List.mem_cons_of_mem _ hp)) h
      · rename_i hup
        apply ih _ h
        intro p hp
        rcases List.mem_cons.mp hp with rfl | hp
        · exact ⟨hstays.1,hstays.2,hup⟩
        · exact hreached p hp

theorem resolveParts_sublist (h : resolveParts dot reached parts = some resolved) :
    List.Sublist resolved (reached.reverse ++ parts) := by
  induction parts generalizing reached with
  | nil =>
    simp only [resolveParts,Option.some.injEq] at h
    simp [← h]
  | cons part parts ih =>
    simp only [resolveParts] at h
    split at h
    · exact (ih h).trans ((List.sublist_cons_self part parts).append_left reached.reverse)
    · split at h
      · cases reached with
        | nil => cases h
        | cons inner outer =>
          have hdrop : List.Sublist outer.reverse (inner :: outer).reverse := by simp
          exact (ih h).trans (hdrop.append (List.sublist_cons_self part parts))
      · simpa using ih h

theorem not_mem_of_mem_splitOn (h : part ∈ path.splitOn slash) : slash ∉ part := by
  induction path generalizing part with
  | nil => simp_all
  | cons c rest ih =>
    rw [List.splitOn_cons_eq_if_modifyHead] at h
    split at h
    · rcases List.mem_cons.mp h with rfl | h
      · exact List.not_mem_nil
      · exact ih h
    · rename_i hc
      obtain ⟨first,parts,hsplit⟩ := List.exists_cons_of_ne_nil (List.splitOn_ne_nil slash rest)
      rw [hsplit,List.modifyHead_cons] at h
      rcases List.mem_cons.mp h with rfl | h
      · have hfirst : slash ∉ first := ih (by simp [hsplit])
        simpa [Ne.symm (by simpa using hc : c ≠ slash)] using hfirst
      · exact ih (by simp [hsplit,h])

omit [DecidableEq α] in
theorem joined_append (hleft : parts ≠ []) (hright : resolved ≠ []) :
    joined slash (parts ++ resolved) = joined slash parts ++ slash :: joined slash resolved := by
  induction parts with
  | nil => exact (hleft rfl).elim
  | cons part parts ih =>
    cases parts with
    | nil => simp [joined,List.intercalate_cons_of_ne_nil hright]
    | cons next parts =>
      have hrest := ih (by simp)
      have hcons (rest : List (List α)) (hrest : rest ≠ []) :
          joined slash (part :: rest) = part ++ slash :: joined slash rest := by
        simp [joined,List.intercalate_cons_of_ne_nil hrest]
      rw [List.cons_append,hcons _ (by simp),hrest,hcons _ (by simp),List.append_assoc,List.cons_append]

-- Where a part begins and ends: at a separator or at an end of the path.
structure Around (slash : α) (before after : List α) : Prop where
  left : before = [] ∨ ∃ outer, before = outer ++ [slash]
  right : after = [] ∨ ∃ inner, after = slash :: inner

theorem around_of_mem_splitOn (h : part ∈ path.splitOn slash) :
    ∃ before after, path = before ++ part ++ after ∧ Around slash before after := by
  obtain ⟨outer,inner,hsplit⟩ := List.append_of_mem h
  have hpath : joined slash (outer ++ part :: inner) = path := by
    rw [← hsplit,joined,List.intercalate_splitOn]
  have hinner : ∃ after, joined slash (part :: inner) = part ++ after ∧
      (after = [] ∨ ∃ deeper, after = slash :: deeper) := by
    cases inner with
    | nil => exact ⟨[],by simp [joined],Or.inl rfl⟩
    | cons next inner =>
      exact ⟨slash :: joined slash (next :: inner),
        (joined_append (List.cons_ne_nil part []) (by simp)).trans (by simp [joined]),Or.inr ⟨_,rfl⟩⟩
  obtain ⟨after,hafter,hright⟩ := hinner
  cases outer with
  | nil => exact ⟨[],after,by simpa [← hpath] using hafter,Or.inl rfl,hright⟩
  | cons first outer =>
    rw [joined_append (by simp) (by simp),hafter] at hpath
    exact ⟨joined slash (first :: outer) ++ [slash],after,by simp [← hpath],Or.inr ⟨_,rfl⟩,hright⟩

theorem mem_splitOn_of_around {before after : List α} (hpart : slash ∉ part)
    (h : Around slash before after) : part ∈ (before ++ part ++ after).splitOn slash := by
  have hright : part ∈ (part ++ after).splitOn slash := by
    rcases h.right with rfl | ⟨inner,rfl⟩
    · simp [List.splitOn_eq_singleton hpart]
    · simp [List.splitOn_append_cons_self,List.splitOn_eq_singleton hpart]
  rcases h.left with rfl | ⟨outer,rfl⟩
  · exact hright
  · have hsplit := List.splitOn_append_cons_self (a := slash) outer (part ++ after)
    simp only [List.append_assoc,List.cons_append,List.nil_append] at hsplit ⊢
    rw [hsplit]
    exact List.mem_append_right _ hright

theorem head_ne_slash (h : ∀ part ∈ path.splitOn slash, part ≠ []) : path.head? ≠ some slash := by
  cases path with
  | nil => simp
  | cons c rest =>
    intro hc
    obtain rfl : c = slash := by simpa using hc
    exact h [] (by simp [List.splitOn_cons_eq_if_modifyHead]) rfl

theorem resolve_of_proper (h : ∀ part ∈ path.splitOn slash, Proper dot part) :
    resolve slash dot path = some (path.splitOn slash) := by
  have hhead := head_ne_slash fun part hpart => (h part hpart).ne_nil
  rw [resolve,if_neg hhead,resolveParts_of_proper h]
  rfl

theorem resolve_sublist (h : resolve slash dot path = some resolved) :
    List.Sublist resolved (path.splitOn slash) := by
  rw [resolve] at h
  split at h
  · cases h
  · exact resolveParts_sublist h

theorem resolve_proper (h : resolve slash dot path = some resolved) :
    ∀ part ∈ resolved, Proper dot part := by
  rw [resolve] at h
  split at h
  · cases h
  · exact proper_of_resolveParts (by simp) h

theorem splitOn_joined (h : resolve slash dot path = some resolved) (hne : resolved ≠ []) :
    (joined slash resolved).splitOn slash = resolved :=
  List.splitOn_intercalate slash
    (fun _ hpart => not_mem_of_mem_splitOn ((resolve_sublist h).subset hpart)) hne

theorem canonical_nil : Canonical slash dot [] := by
  simp [Canonical,resolve,resolveParts,joined]

theorem canonical_of_proper (h : ∀ part ∈ path.splitOn slash, Proper dot part) :
    Canonical slash dot path := by
  simp [Canonical,resolve_of_proper h,joined]

theorem proper_of_canonical (h : Canonical slash dot path) (hne : path ≠ []) :
    ∀ part ∈ path.splitOn slash, Proper dot part := by
  obtain ⟨resolved,hresolved,hjoined⟩ := Option.map_eq_some_iff.mp h
  have hparts : resolved ≠ [] := by
    rintro rfl
    exact hne (by simpa [joined] using hjoined.symm)
  have hsplit := splitOn_joined hresolved hparts
  rw [hjoined] at hsplit
  rw [hsplit]
  exact resolve_proper hresolved

theorem resolve_canonical (h : Canonical slash dot path) (hne : path ≠ []) :
    resolve slash dot path = some (path.splitOn slash) :=
  resolve_of_proper (proper_of_canonical h hne)

-- One more than the length of the joined parts, unless there are none.
def weight (parts : List (List α)) : ℕ := (parts.map fun part => part.length + 1).sum

omit [DecidableEq α] in
theorem weight_joined (hne : parts ≠ []) : (joined slash parts).length + 1 = weight parts := by
  induction parts with
  | nil => exact (hne rfl).elim
  | cons part parts ih =>
    cases parts with
    | nil => simp [joined,weight]
    | cons next parts =>
      have hrest := ih (by simp)
      simp only [joined,weight,List.map_cons,List.sum_cons] at hrest ⊢
      rw [List.intercalate_cons_of_ne_nil (by simp)]
      simp only [List.length_append,List.length_cons,List.length_nil]
      omega

theorem weight_lt (h : List.Sublist parts resolved) (hne : parts ≠ resolved) :
    weight parts < weight resolved := by
  induction h with
  | slnil => exact (hne rfl).elim
  | @cons parts resolved part h ih =>
    by_cases heq : parts = resolved
    · subst heq
      simp [weight]
    · have := ih heq
      simp only [weight,List.map_cons,List.sum_cons] at this ⊢
      omega
  | @cons_cons parts resolved part h ih =>
    have := ih fun heq => hne (by rw [heq])
    simp only [weight,List.map_cons,List.sum_cons] at this ⊢
    omega

theorem joined_shorter (h : resolve slash dot path = some resolved)
    (hpath : ¬ Canonical slash dot path) : (joined slash resolved).length < path.length := by
  have hne : path ≠ [] := by
    rintro rfl
    exact hpath canonical_nil
  have hsplit : resolved ≠ path.splitOn slash := by
    rintro rfl
    exact hpath (by simp [Canonical,h,joined])
  have hlt := weight_lt (resolve_sublist h) hsplit
  have hwhole : (joined slash (path.splitOn slash)).length + 1 = weight (path.splitOn slash) :=
    weight_joined (List.splitOn_ne_nil slash path)
  rw [joined,List.intercalate_splitOn] at hwhole
  by_cases hparts : resolved = []
  · subst hparts
    simpa [joined] using List.length_pos_of_ne_nil hne
  · have : (joined slash resolved).length + 1 = weight resolved := weight_joined hparts
    omega

end LexicalPath
