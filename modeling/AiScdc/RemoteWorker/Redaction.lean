import AiScdc.Listing.StableSort
import AiScdc.Sandbox

namespace AiScdc

-- The remote worker's own copy of redact_secrets.
def RemoteWorker.redactText (text : String) (secrets : List String) : String :=
  let ordered := ((secrets.map String.toList).filter fun s => s ≠ []).insertionSort
    fun a b => b.length ≤ a.length
  String.ofList (ordered.foldl (fun t s => replaceAll t s "[redacted]".toList) text.toList)

section occurrences

variable {α : Type} {u a b : List α} {c : α}

theorem infix_cons_of_not_mem (hc : c ∉ u) (hu : u ≠ []) (h : u <:+: c :: b) : u <:+: b := by
  rcases List.infix_cons_iff.mp h with hprefix | hinfix
  · cases u with
    | nil => exact (hu rfl).elim
    | cons d u =>
      obtain ⟨rfl,_⟩ := List.cons_prefix_cons.mp hprefix
      exact (hc List.mem_cons_self).elim
  · exact hinfix

theorem prefix_of_prefix_append (hc : c ∉ u) (h : u <+: a ++ c :: b) : u <+: a := by
  induction a generalizing u with
  | nil =>
    cases u with
    | nil => exact List.nil_prefix
    | cons d u =>
      obtain ⟨rfl,_⟩ := List.cons_prefix_cons.mp h
      exact (hc List.mem_cons_self).elim
  | cons d a ih =>
    cases u with
    | nil => exact List.nil_prefix
    | cons e u =>
      obtain ⟨rfl,hrest⟩ := List.cons_prefix_cons.mp h
      exact List.cons_prefix_cons.mpr ⟨rfl,ih (fun hmem => hc (List.mem_cons_of_mem _ hmem)) hrest⟩

-- What does not hold the separator stands on one side of it.
theorem infix_append_cons (hc : c ∉ u) (hu : u ≠ []) (h : u <:+: a ++ c :: b) : u <:+: a ∨ u <:+: b := by
  induction a with
  | nil => exact Or.inr (infix_cons_of_not_mem hc hu h)
  | cons d a ih =>
    rcases List.infix_cons_iff.mp h with hprefix | hinfix
    · exact Or.inl (prefix_of_prefix_append (a := d :: a) hc hprefix).isInfix
    · exact (ih hinfix).imp_left fun ha => List.infix_cons ha

end occurrences

def redacted : Text := "[redacted]".toList

-- A secret that no redaction mark can hold or complete.
structure Redactable (secret : Text) : Prop where
  ne_nil : secret ≠ []
  left : '[' ∉ secret
  right : ']' ∉ secret
  mark : ¬ secret <:+: "redacted".toList

section replacement

variable {s u t : Text}

theorem Redactable.redacted_append (h : Redactable u) (hu : u <:+: redacted ++ t) : u <:+: t := by
  have hmark : redacted ++ t = '[' :: ("redacted".toList ++ ']' :: t) := rfl
  rw [hmark] at hu
  have hrest := infix_cons_of_not_mem h.left h.ne_nil hu
  exact (infix_append_cons h.right h.ne_nil hrest).resolve_left h.mark

theorem prefix_replaceFrom (hu : '[' ∉ u) (h : u <+: replaceFrom s redacted 0 t) : u <+: t := by
  induction t generalizing u with
  | nil => exact h
  | cons c rest ih =>
    cases u with
    | nil => exact List.nil_prefix
    | cons d u =>
      rw [replaceFrom] at h
      split at h
      · obtain ⟨rfl,_⟩ := List.cons_prefix_cons.mp h
        exact (hu List.mem_cons_self).elim
      · obtain ⟨rfl,hrest⟩ := List.cons_prefix_cons.mp h
        exact List.cons_prefix_cons.mpr ⟨rfl,ih (fun hmem => hu (List.mem_cons_of_mem _ hmem)) hrest⟩

-- Replacing makes no new occurrence.
theorem Redactable.replaceFrom_infix (h : Redactable u) {skip : ℕ}
    (hu : u <:+: replaceFrom s redacted skip t) : u <:+: t := by
  induction t generalizing skip with
  | nil => cases skip <;> exact hu
  | cons c rest ih =>
    cases skip with
    | succ skip => exact List.infix_cons (ih hu)
    | zero =>
      rw [replaceFrom] at hu
      split at hu
      · exact List.infix_cons (ih (h.redacted_append hu))
      · rcases List.infix_cons_iff.mp hu with hprefix | hinfix
        · cases u with
          | nil => exact List.nil_infix
          | cons d u =>
            obtain ⟨rfl,hrest⟩ := List.cons_prefix_cons.mp hprefix
            have hsame := prefix_replaceFrom (fun hmem => h.left (List.mem_cons_of_mem _ hmem)) hrest
            exact (List.cons_prefix_cons.mpr ⟨rfl,hsame⟩).isInfix
        · exact List.infix_cons (ih hinfix)

theorem Redactable.not_infix_replaceFrom (h : Redactable s) (skip : ℕ) :
    ¬ s <:+: replaceFrom s redacted skip t := by
  induction t generalizing skip with
  | nil =>
    intro hs
    apply h.ne_nil
    cases skip <;> exact List.infix_nil.mp hs
  | cons c rest ih =>
    cases skip with
    | succ skip => exact ih skip
    | zero =>
      rw [replaceFrom]
      split
      · exact fun hs => ih _ (h.redacted_append hs)
      · rename_i hprefix
        intro hs
        rcases List.infix_cons_iff.mp hs with hs | hs
        · apply hprefix
          obtain ⟨d,s',rfl⟩ := List.exists_cons_of_ne_nil h.ne_nil
          obtain ⟨rfl,hrest⟩ := List.cons_prefix_cons.mp hs
          have hsame := prefix_replaceFrom (fun hmem => h.left (List.mem_cons_of_mem _ hmem)) hrest
          exact List.isPrefixOf_iff_prefix.mpr (List.cons_prefix_cons.mpr ⟨rfl,hsame⟩)
        · exact ih 0 hs

theorem replaceFrom_unchanged (h : ¬ s <:+: t) : replaceFrom s redacted 0 t = t := by
  induction t with
  | nil => rfl
  | cons c rest ih =>
    have hprefix : ¬ s.isPrefixOf (c :: rest) = true :=
      fun hp => h (List.isPrefixOf_iff_prefix.mp hp).isInfix
    rw [replaceFrom,if_neg hprefix,ih fun hs => h (List.infix_cons hs)]

theorem replaceAll_infix (h : Redactable u) (hu : u <:+: replaceAll t s redacted) : u <:+: t := by
  rw [replaceAll] at hu
  split at hu
  · exact hu
  · exact h.replaceFrom_infix hu

theorem not_infix_replaceAll (h : Redactable s) : ¬ s <:+: replaceAll t s redacted := by
  rw [replaceAll,if_neg h.ne_nil]
  exact h.not_infix_replaceFrom 0

theorem replaceAll_unchanged (h : ¬ s <:+: t) : replaceAll t s redacted = t := by
  rw [replaceAll]
  split
  · rfl
  · exact replaceFrom_unchanged h

end replacement

section redaction

def replaceEach (secrets : List Text) (text : Text) : Text :=
  secrets.foldl (fun t s => replaceAll t s redacted) text

variable {secrets : List Text} {u text : Text}

theorem replaceEach_infix (h : Redactable u) (hu : u <:+: replaceEach secrets text) : u <:+: text := by
  induction secrets generalizing text with
  | nil => exact hu
  | cons s rest ih => exact replaceAll_infix h (ih hu)

theorem not_infix_replaceEach (h : Redactable u) (hu : u ∈ secrets) :
    ¬ u <:+: replaceEach secrets text := by
  induction secrets generalizing text with
  | nil => cases hu
  | cons s rest ih =>
    rcases List.mem_cons.mp hu with rfl | hmem
    · exact fun hleft => not_infix_replaceAll h ( replaceEach_infix h hleft)
    · exact ih hmem

theorem replaceEach_unchanged (h : ∀ s ∈ secrets, ¬ s <:+: text) : replaceEach secrets text = text := by
  induction secrets with
  | nil => rfl
  | cons s rest ih =>
    rw [replaceEach,List.foldl_cons,replaceAll_unchanged (h s List.mem_cons_self)]
    exact ih fun s hs => h s (List.mem_cons_of_mem _ hs)

def present (secrets : List Text) : List Text := secrets.filter fun s => s ≠ []

def longestFirst (secrets : List Text) : List Text :=
  (present secrets).insertionSort (Listing.Descending List.length)

theorem redactText_each (text : Text) (secrets : List Text) :
    redactText text secrets = replaceEach (longestFirst secrets) text := rfl

theorem mem_longestFirst {s : Text} : s ∈ longestFirst secrets ↔ s ∈ secrets ∧ s ≠ [] := by
  rw [longestFirst,List.mem_insertionSort,present,List.mem_filter,decide_eq_true_eq]

def Safe (secrets : List Text) : Prop := ∀ s ∈ secrets, s ≠ [] → Redactable s

-- The other secrets of the list may be of any form.
theorem Redactable.not_infix_redactText {s : Text} (h : Redactable s) (hs : s ∈ secrets) :
    ¬ s <:+: redactText text secrets := by
  rw [redactText_each]
  exact not_infix_replaceEach h (mem_longestFirst.mpr ⟨hs,h.ne_nil⟩)

theorem redactText_again (h : Safe secrets) :
    redactText (redactText text secrets) secrets = redactText text secrets := by
  rw [redactText_each _ secrets]
  apply replaceEach_unchanged
  intro s hs
  obtain ⟨hmem,hne⟩ := mem_longestFirst.mp hs
  exact (h s hmem hne).not_infix_redactText hmem

theorem redactText_congr {secrets' : List Text}
    (h : ∀ n, Listing.ofKey List.length n secrets = Listing.ofKey List.length n secrets') :
    redactText text secrets = redactText text secrets' := by
  have hpresent (l : List Text) (n : ℕ) :
      Listing.ofKey List.length n (present l) = (Listing.ofKey List.length n l).filter fun s => s ≠ [] := by
    simp only [Listing.ofKey,present,List.filter_filter]
    congr 1
    funext s
    exact Bool.and_comm _ _
  have hsort : longestFirst secrets = longestFirst secrets' :=
    Listing.insertionSort_congr List.length fun n => by rw [hpresent,hpresent,h]
  rw [redactText_each,redactText_each,hsort]

end redaction

-- The same secrets of each length in the same order.
def SameByLength (secrets secrets' : List String) : Prop :=
  ∀ n, secrets.filter (fun s => s.length = n) = secrets'.filter (fun s => s.length = n)

theorem SameByLength.texts {secrets secrets' : List String} (h : SameByLength secrets secrets') (n : ℕ) :
    Listing.ofKey List.length n (secrets.map String.toList) =
      Listing.ofKey List.length n (secrets'.map String.toList) := by
  have htexts (l : List String) : Listing.ofKey List.length n (l.map String.toList) =
      (l.filter fun s => s.length = n).map String.toList := by
    rw [Listing.ofKey,List.filter_map]
    rfl
  rw [htexts,htexts,h n]

theorem redaction_complete {secrets : List String} (text : String)
    (h : ∀ s ∈ secrets, s ≠ "" → Redactable s.toList) :
    (∀ s ∈ secrets, s ≠ "" → ¬ s.toList <:+: (redactSecrets text secrets).toList) ∧
      redactSecrets (redactSecrets text secrets) secrets = redactSecrets text secrets ∧
      (∀ secrets', SameByLength secrets secrets' → redactSecrets text secrets' = redactSecrets text secrets) ∧
      RemoteWorker.redactText text secrets = redactSecrets text secrets := by
  have hsafe : Safe (secrets.map String.toList) := by
    intro t ht hne
    obtain ⟨s,hs,rfl⟩ := List.mem_map.mp ht
    exact h s hs fun hempty => hne (by rw [hempty]; rfl)
  refine ⟨fun s hs hne => ?_,?_,fun secrets' hsame => ?_,rfl⟩
  · rw [redactSecrets,String.toList_ofList]
    exact (h s hs hne).not_infix_redactText (List.mem_map_of_mem hs)
  · rw [redactSecrets,redactSecrets,String.toList_ofList,redactText_again hsafe]
  · rw [redactSecrets,redactSecrets,redactText_congr fun n => hsame.texts n]

theorem overlapping_secrets_redacted :
    ¬ "aba".toList <:+: (redactSecrets "x=ababa;ab" ["ab","","aba","ab"]).toList ∧
      redactSecrets "x=ababa;ab" ["ab","","aba","ab"] = "x=[redacted]ba;[redacted]" := by
  have hsafe : ∀ s ∈ ["ab","","aba","ab"], s ≠ "" → Redactable s.toList := by
    have hab : Redactable "ab".toList := ⟨by decide,by decide,by decide,by decide⟩
    have haba : Redactable "aba".toList := ⟨by decide,by decide,by decide,by decide⟩
    simpa using ⟨hab,haba,hab⟩
  exact ⟨(redaction_complete "x=ababa;ab" hsafe).1 "aba" (by decide) (by decide),by decide⟩

end AiScdc
