import AiScdc.ArtifactPlane.Cleanup
import AiScdc.ArtifactPlane.ReadScope
import AiScdc.Listing.Fronts

namespace AiScdc.ArtifactPlane
open Instants (Representable)

def MayDelete [UrlText] (request : CloudRunArtifactCleanupRequest) (storedObject : CloudRunStoredObject) :
    Prop :=
  inScope request storedObject = true ∧ artifactKindOrNone storedObject.kind ≠ none ∧
    localInlineObjectId storedObject.uri = some (some storedObject.id)

structure CallCorrect [UrlText] (request : CloudRunArtifactCleanupRequest) (objects : StoredObjects)
    (c : Cleanup) : Prop where
  kept : c.objects.rows.Sublist objects.rows
  few : (objects.rows.filter fun storedObject => storedObject ∉ c.objects.rows).length ≤ request.limit
  allowed : ∀ storedObject ∈ objects.rows, storedObject ∉ c.objects.rows → MayDelete request storedObject
  reportedOnce : (reportedIds (c.deleted ++ c.lifecycleOnly)).Nodup
  reported : ∀ storedObject ∈ objects.rows, storedObject ∉ c.objects.rows ↔
    ∃ item, (storedObject,item) ∈ c.deleted ++ c.lifecycleOnly ∧ item.action = .deleted

section rows

variable {request : CloudRunArtifactCleanupRequest} {objects : StoredObjects}
  {storedObject : CloudRunStoredObject}

theorem mem_expired : storedObject ∈ expiredStoredObjects objects request ↔
    storedObject ∈ objects.rows ∧ inScope request storedObject = true := by
  rw [expiredStoredObjects,List.mem_insertionSort,List.mem_filter]

theorem expired_nodup : ((expiredStoredObjects objects request).map CloudRunStoredObject.id).Nodup := by
  have hperm := (List.perm_insertionSort expiresBefore (objects.rows.filter (inScope request))).map
    CloudRunStoredObject.id
  rw [expiredStoredObjects,hperm.nodup_iff]
  exact (List.filter_sublist.map CloudRunStoredObject.id).nodup objects.distinct

theorem mem_removeObjects {ids : List String} : storedObject ∈ (removeObjects objects ids).rows ↔
    storedObject ∈ objects.rows ∧ storedObject.id ∉ ids := by
  simp [removeObjects]

theorem reportedIds_eq (reports : List Report) :
    reportedIds reports = (reports.map Prod.fst).map CloudRunStoredObject.id := by
  rw [List.map_map]
  rfl

end rows

section calls

-- What a call that returns has done.
structure Returned [UrlText] (request : CloudRunArtifactCleanupRequest) (objects : StoredObjects)
    (c : Cleanup) : Prop where
  removed : c.objects = removeObjects objects (reportedIds c.deleted)
  deletedRows : c.deleted.map Prod.fst =
    ((expiredStoredObjects objects request).filter isOwn).take request.limit
  deletedActions : ∀ r ∈ c.deleted, r.2.action = .deleted
  lifecycleRows : (c.lifecycleOnly.map Prod.fst).Sublist (expiredStoredObjects objects request)
  lifecycleActions : ∀ r ∈ c.lifecycleOnly, r.1.id ∉ reportedIds c.deleted ∧ r.2.action = .lifecycleOnly

variable [UrlText] {request : CloudRunArtifactCleanupRequest} {objects : StoredObjects} {c : Cleanup}
  {storedObject : CloudRunStoredObject}

theorem cleanup_returned [Digest] (h : cleanupExpiredCloudRunArtifacts objects request = .ok c) :
    Returned request objects c := by
  simp only [cleanupExpiredCloudRunArtifacts,bind_eq_ok,pure_eq_ok] at h
  obtain ⟨_,_,_,_,deleted,hdelete,lifecycleOnly,hlifecycle,rfl⟩ := h
  obtain ⟨hrows,hactions⟩ := deletePass_spec hdelete
  obtain ⟨hsublist,hreports⟩ := lifecyclePass_spec hlifecycle
  exact ⟨rfl,hrows,hactions,hsublist,hreports⟩

theorem deleted_mem (h : Returned request objects c) (hmem : storedObject ∈ c.deleted.map Prod.fst) :
    storedObject ∈ objects.rows ∧ inScope request storedObject = true ∧ isOwn storedObject = true := by
  rw [h.deletedRows] at hmem
  obtain ⟨hexpired,hown⟩ := List.mem_filter.mp (List.mem_of_mem_take hmem)
  obtain ⟨hrow,hscope⟩ := mem_expired.mp hexpired
  exact ⟨hrow,hscope,hown⟩

theorem removed_iff (h : Returned request objects c) (hrow : storedObject ∈ objects.rows) :
    storedObject ∉ c.objects.rows ↔ storedObject ∈ c.deleted.map Prod.fst := by
  rw [h.removed,mem_removeObjects,reportedIds_eq]
  constructor
  · intro hgone
    have hid : storedObject.id ∈ (c.deleted.map Prod.fst).map CloudRunStoredObject.id := by
      by_contra hkept
      exact hgone ⟨hrow,hkept⟩
    obtain ⟨other,hother,hsame⟩ := List.mem_map.mp hid
    rw [← Table.mem_unique (deleted_mem h hother).1 hrow hsame]
    exact hother
  · rintro hmem ⟨_,hkept⟩
    exact hkept (List.mem_map_of_mem hmem)

theorem call_correct (h : Returned request objects c) : CallCorrect request objects c where
  kept := by
    rw [h.removed]
    exact List.filter_sublist
  few := by
    have hsubset : (objects.rows.filter fun storedObject => storedObject ∉ c.objects.rows) ⊆
        c.deleted.map Prod.fst := by
      intro storedObject hmem
      obtain ⟨hrow,hgone⟩ := List.mem_filter.mp hmem
      exact (removed_iff h hrow).mp (of_decide_eq_true hgone)
    have hnodup : (objects.rows.filter fun storedObject => storedObject ∉ c.objects.rows).Nodup :=
      (List.Nodup.of_map _ objects.distinct).filter _
    calc (objects.rows.filter fun storedObject => storedObject ∉ c.objects.rows).length
        ≤ (c.deleted.map Prod.fst).length := (hnodup.subperm hsubset).length_le
      _ ≤ request.limit := by
        rw [h.deletedRows]
        exact List.length_take_le _ _
  allowed storedObject hrow hgone := by
    obtain ⟨_,hscope,hown⟩ := deleted_mem h ((removed_iff h hrow).mp hgone)
    exact ⟨hscope,own_iff.mp hown⟩
  reportedOnce := by
    have hdeleted : (reportedIds c.deleted).Nodup := by
      rw [reportedIds_eq,h.deletedRows]
      exact (((List.take_sublist _ _).trans List.filter_sublist).map _).nodup expired_nodup
    have hlifecycle : (reportedIds c.lifecycleOnly).Nodup := by
      rw [reportedIds_eq]
      exact (h.lifecycleRows.map _).nodup expired_nodup
    rw [reportedIds,List.map_append]
    apply hdeleted.append hlifecycle
    intro id hid hid'
    obtain ⟨r,hr,rfl⟩ := List.mem_map.mp hid'
    exact (h.lifecycleActions r hr).1 hid
  reported storedObject hrow := by
    rw [removed_iff h hrow,List.mem_map]
    constructor
    · rintro ⟨r,hr,rfl⟩
      exact ⟨r.2,List.mem_append_left _ hr,h.deletedActions r hr⟩
    · rintro ⟨item,hitem,haction⟩
      rcases List.mem_append.mp hitem with hr | hr
      · exact ⟨_,hr,rfl⟩
      · rw [(h.lifecycleActions _ hr).2] at haction
        exact absurd haction (by decide)

theorem may_delete_iff (request : CloudRunArtifactCleanupRequest) (storedObject : CloudRunStoredObject) :
    MayDelete request storedObject ↔ inScope request storedObject = true ∧ isOwn storedObject = true := by
  rw [MayDelete,own_iff]

instance : DecidablePred (MayDelete request) := fun _ => inferInstanceAs (Decidable (_ ∧ _ ∧ _))

theorem shrinks (h : Returned request objects c) (hsome : 0 < c.deleted.length) :
    c.objects.rows.length < objects.rows.length := by
  obtain ⟨r,hr⟩ := List.exists_mem_of_length_pos hsome
  have hmem : r.1 ∈ c.deleted.map Prod.fst := List.mem_map_of_mem hr
  have hrow := (deleted_mem h hmem).1
  have hgone := (removed_iff h hrow).mpr hmem
  rw [h.removed,removeObjects] at hgone ⊢
  rw [List.length_filter_lt_length_iff_exists]
  refine ⟨r.1,hrow,?_⟩
  rw [List.mem_filter,not_and] at hgone
  exact hgone hrow

theorem untouched (h : CallCorrect request objects c) (hremoved : c.objects = removeObjects objects (reportedIds c.deleted)) :
    (c.objects.rows.filter fun storedObject => ¬ MayDelete request storedObject) =
      objects.rows.filter fun storedObject => ¬ MayDelete request storedObject := by
  have hkeeps : ∀ storedObject ∈ objects.rows, ¬ MayDelete request storedObject →
      storedObject.id ∉ reportedIds c.deleted := by
    intro storedObject hrow hno hid
    apply hno
    apply h.allowed storedObject hrow
    rw [hremoved,mem_removeObjects]
    exact fun hkept => hkept.2 hid
  rw [hremoved,removeObjects,List.filter_filter]
  apply List.filter_congr
  intro storedObject hrow
  by_cases hno : MayDelete request storedObject
  · simp [hno]
  · simp [hno,hkeeps storedObject hrow hno]

theorem none_left (h : ∀ storedObject ∈ objects.rows, ¬ MayDelete request storedObject) :
    objects.rows.filter (fun storedObject => ¬ MayDelete request storedObject) = objects.rows :=
  List.filter_eq_self.mpr fun storedObject hrow => decide_eq_true (h storedObject hrow)

end calls

section fronts

variable [UrlText] {request : CloudRunArtifactCleanupRequest} {objects : StoredObjects} {c : Cleanup}
  {storedObject : CloudRunStoredObject}

def Readable (request : CloudRunArtifactCleanupRequest) (objects : StoredObjects) : Prop :=
  ∀ storedObject ∈ expiredStoredObjects objects request, isReadable storedObject = true

-- The expired rows that come before the first one with an uri that is refused.
def front (request : CloudRunArtifactCleanupRequest) (objects : StoredObjects) : List CloudRunStoredObject :=
  (expiredStoredObjects objects request).takeWhile isReadable

def back (request : CloudRunArtifactCleanupRequest) (objects : StoredObjects) : List CloudRunStoredObject :=
  (expiredStoredObjects objects request).dropWhile isReadable

-- Every call that has rows to delete stops at its two limits before the refused uri.
structure Spaced (request : CloudRunArtifactCleanupRequest) (objects : StoredObjects) : Prop where
  clear : ∀ storedObject ∈ back request objects, ¬ MayDelete request storedObject
  full : request.limit ∣
    ((front request objects).filter fun storedObject => MayDelete request storedObject).length
  occupied : request.limit ≤ ((front request objects).filter fun storedObject =>
    artifactKindOrNone storedObject.kind ≠ none ∧ ¬ MayDelete request storedObject).length

def Unblocked (request : CloudRunArtifactCleanupRequest) (objects : StoredObjects) : Prop :=
  (∀ storedObject ∈ objects.rows, ¬ MayDelete request storedObject) ∨
    Representable request.before.instant ∧ (Readable request objects ∨ Spaced request objects)

theorem front_append_back : front request objects ++ back request objects =
    expiredStoredObjects objects request := List.takeWhile_append_dropWhile

theorem may_delete_expired (h : storedObject ∈ expiredStoredObjects objects request) :
    MayDelete request storedObject ↔ isOwn storedObject = true := by
  rw [may_delete_iff]
  exact and_iff_right (mem_expired.mp h).2

theorem mem_front (h : storedObject ∈ front request objects) :
    storedObject ∈ expiredStoredObjects objects request ∧ isReadable storedObject = true :=
  ⟨(List.takeWhile_sublist _).subset h,List.mem_takeWhile_imp h⟩

theorem foreign_iff : isForeign storedObject = true ↔
    artifactKindOrNone storedObject.kind ≠ none ∧ isReadable storedObject = true ∧
      isOwn storedObject = false := by
  rw [isForeign,isOwn,isReadable,standing]
  cases artifactKindOrNone storedObject.kind with
  | none => simp
  | some kind =>
    cases urlsplit storedObject.uri with
    | none => simp
    | some uri => by_cases h : namedObject uri = some storedObject.id <;> simp [h]

theorem front_deletable : ((front request objects).filter fun storedObject => MayDelete request storedObject) =
    (front request objects).filter isOwn := by
  apply List.filter_congr
  intro storedObject h
  rw [Bool.eq_iff_iff,decide_eq_true_iff]
  exact may_delete_expired (mem_front h).1

theorem front_foreign : ((front request objects).filter fun storedObject =>
    artifactKindOrNone storedObject.kind ≠ none ∧ ¬ MayDelete request storedObject) =
      (front request objects).filter isForeign := by
  apply List.filter_congr
  intro storedObject h
  obtain ⟨hexpired,hreadable⟩ := mem_front h
  rw [Bool.eq_iff_iff,decide_eq_true_iff,foreign_iff,may_delete_expired hexpired,Bool.not_eq_true]
  exact and_congr_right fun _ => (and_iff_right hreadable).symm

theorem spaced_iff : Spaced request objects ↔
    (∀ storedObject ∈ back request objects, isOwn storedObject = false) ∧
      request.limit ∣ ((front request objects).filter isOwn).length ∧
      request.limit ≤ ((front request objects).filter isForeign).length := by
  have hback : (∀ storedObject ∈ back request objects, ¬ MayDelete request storedObject) ↔
      ∀ storedObject ∈ back request objects, isOwn storedObject = false := by
    refine forall₂_congr fun storedObject h => ?_
    rw [may_delete_expired ((List.dropWhile_sublist _).subset h),Bool.not_eq_true]
  rw [← hback,← front_deletable,← front_foreign]
  exact ⟨fun h => ⟨h.clear,h.full,h.occupied⟩,fun h => ⟨h.1,h.2.1,h.2.2⟩⟩

theorem own_of_none (h : ∀ storedObject ∈ objects.rows, ¬ MayDelete request storedObject)
    (hexpired : storedObject ∈ expiredStoredObjects objects request) : isOwn storedObject = false := by
  rw [← Bool.not_eq_true,← may_delete_expired hexpired]
  exact h storedObject (mem_expired.mp hexpired).1

theorem own_limit (h : Spaced request objects) (hexpired : storedObject ∈ expiredStoredObjects objects request)
    (hown : isOwn storedObject = true) : request.limit ≤ ((front request objects).filter isOwn).length := by
  obtain ⟨hclear,hfull,_⟩ := spaced_iff.mp h
  refine Nat.le_of_dvd (List.length_pos_of_mem (List.mem_filter.mpr ⟨?_,hown⟩)) hfull
  rw [← front_append_back,List.mem_append] at hexpired
  refine hexpired.resolve_right fun hback => ?_
  rw [hclear storedObject hback] at hown
  cases hown

theorem passes_of_free (h : Readable request objects ∨ Spaced request objects)
    (hexpired : storedObject ∈ expiredStoredObjects objects request) (hown : isOwn storedObject = true) :
    Passes isOwn request.limit (expiredStoredObjects objects request) ∧
      Passes isForeign request.limit (expiredStoredObjects objects request) := by
  rcases h with hreadable | hspaced
  · exact ⟨Or.inl hreadable,Or.inl hreadable⟩
  · exact ⟨Or.inr (own_limit hspaced hexpired hown),Or.inr (spaced_iff.mp hspaced).2.2⟩

end fronts

section progress

variable [UrlText] {request : CloudRunArtifactCleanupRequest} {objects : StoredObjects} {c : Cleanup}

-- The rows that a call leaves.
def left (c : Cleanup) (storedObject : CloudRunStoredObject) : Bool := storedObject.id ∉ reportedIds c.deleted

instance : Std.Total expiresBefore where
  total a b := by
    rcases lt_trichotomy (expiry a) (expiry b) with h | h | h
    · exact Or.inl (Or.inl h)
    · rcases String.le_total a.id b.id with hid | hid
      · exact Or.inl (Or.inr ⟨h,hid⟩)
      · exact Or.inr (Or.inr ⟨h.symm,hid⟩)
    · exact Or.inr (Or.inl h)

instance : IsTrans CloudRunStoredObject expiresBefore where
  trans a b c hab hbc := by
    rcases hab with hab | ⟨hab,hid⟩ <;> rcases hbc with hbc | ⟨hbc,hid'⟩
    · exact Or.inl (hab.trans hbc)
    · exact Or.inl (hbc ▸ hab)
    · exact Or.inl (hab ▸ hbc)
    · exact Or.inr ⟨hab.trans hbc,String.le_trans hid hid'⟩

theorem expired_left (h : Returned request objects c) :
    expiredStoredObjects c.objects request = (expiredStoredObjects objects request).filter (left c) := by
  have hsame : ∀ a ∈ objects.rows.filter (inScope request), ∀ b ∈ objects.rows.filter (inScope request),
      expiresBefore a b → expiresBefore b a → a = b := by
    intro a ha b hb hab hba
    apply Table.mem_unique (List.mem_filter.mp ha).1 (List.mem_filter.mp hb).1
    rcases hab with hab | ⟨hab,hid⟩ <;> rcases hba with hba | ⟨hba,hid'⟩
    · exact (lt_asymm hab hba).elim
    · exact (hab.ne hba.symm).elim
    · exact (hba.ne hab.symm).elim
    · exact String.le_antisymm hid hid'
  have hrows : c.objects.rows.filter (inScope request) = (objects.rows.filter (inScope request)).filter (left c) := by
    rw [h.removed,removeObjects,List.filter_filter,List.filter_filter]
    exact List.filter_congr fun _ _ => Bool.and_comm _ _
  rw [expiredStoredObjects,expiredStoredObjects,hrows]
  exact Fronts.sort_filter hsame

theorem gone_own (h : Returned request objects c) : ∀ storedObject ∈ expiredStoredObjects objects request,
    left c storedObject = false → isOwn storedObject = true := by
  intro storedObject hexpired hgone
  have hid : storedObject.id ∈ reportedIds c.deleted := by simpa [left] using hgone
  rw [reportedIds_eq,List.mem_map] at hid
  obtain ⟨other,hother,hsame⟩ := hid
  obtain ⟨hrow,_,hown⟩ := deleted_mem h hother
  rw [Table.mem_unique (mem_expired.mp hexpired).1 hrow hsame.symm]
  exact hown

theorem gone_readable (h : Returned request objects c) : ∀ storedObject ∈ expiredStoredObjects objects request,
    left c storedObject = false → isReadable storedObject = true :=
  fun storedObject hexpired hgone => readable_of_own (gone_own h storedObject hexpired hgone)

theorem front_left (h : Returned request objects c) :
    front request c.objects = (front request objects).filter (left c) := by
  rw [front,expired_left h]
  exact Fronts.front_filter (gone_readable h)

theorem back_left (h : Returned request objects c) :
    back request c.objects = (back request objects).filter (left c) := by
  rw [back,expired_left h]
  exact Fronts.back_filter (gone_readable h)

theorem readable_left (h : Returned request objects c) : Readable request c.objects ↔ Readable request objects := by
  rw [Readable,expired_left h]
  constructor
  · intro hreadable storedObject hexpired
    cases hleft : left c storedObject with
    | true => exact hreadable storedObject (List.mem_filter.mpr ⟨hexpired,hleft⟩)
    | false => exact gone_readable h storedObject hexpired hleft
  · exact fun hreadable storedObject hmem => hreadable storedObject (List.mem_filter.mp hmem).1

theorem foreign_left (h : Returned request objects c) :
    (front request c.objects).filter isForeign = (front request objects).filter isForeign := by
  rw [front_left h,List.filter_filter]
  apply List.filter_congr
  intro storedObject hmem
  cases hleft : left c storedObject with
  | true => exact Bool.and_true _
  | false =>
    have hown := gone_own h storedObject (mem_front hmem).1 hleft
    rw [Bool.and_false,Eq.comm,← Bool.not_eq_true,foreign_iff]
    rintro ⟨_,_,hother⟩
    rw [hown] at hother
    cases hother

-- A call whose limit is reached before the refused uri deletes as many rows as it may, all before it.
theorem own_left (h : Returned request objects c)
    (hpass : request.limit ≤ ((front request objects).filter isOwn).length) :
    (front request c.objects).filter isOwn = ((front request objects).filter isOwn).drop request.limit ∧
      back request c.objects = back request objects := by
  have hdeleted : c.deleted.map Prod.fst = ((front request objects).filter isOwn).take request.limit := by
    rw [h.deletedRows,← front_append_back,List.filter_append,List.take_append_of_le_length hpass]
  have hdistinct : ((expiredStoredObjects objects request).map CloudRunStoredObject.id).Nodup := expired_nodup
  rw [← front_append_back,List.map_append,List.nodup_append] at hdistinct
  obtain ⟨hfront,_,hapart⟩ := hdistinct
  have hgone {storedObject : CloudRunStoredObject} : left c storedObject = true ↔
      storedObject.id ∉ (((front request objects).filter isOwn).take request.limit).map CloudRunStoredObject.id := by
    rw [← hdeleted,← reportedIds_eq]
    simp [left]
  constructor
  · have hown : (((front request objects).filter isOwn).map CloudRunStoredObject.id).Nodup :=
      (List.filter_sublist.map _).nodup hfront
    have hfirst : (((front request objects).filter isOwn).take request.limit).filter (left c) = [] := by
      rw [List.filter_eq_nil_iff]
      intro storedObject hmem hleft
      exact hgone.mp hleft (List.mem_map_of_mem hmem)
    have hrest : (((front request objects).filter isOwn).drop request.limit).filter (left c) =
        ((front request objects).filter isOwn).drop request.limit := by
      rw [List.filter_eq_self]
      intro storedObject hmem
      rw [hgone]
      intro hid
      rw [← List.take_append_drop request.limit ((front request objects).filter isOwn),List.map_append,
        List.nodup_append] at hown
      exact hown.2.2 _ hid _ (List.mem_map_of_mem hmem) rfl
    rw [front_left h,List.filter_comm]
    conv_lhs => rw [← List.take_append_drop request.limit ((front request objects).filter isOwn)]
    rw [List.filter_append,hfirst,hrest,List.nil_append]
  · rw [back_left h,List.filter_eq_self]
    intro storedObject hmem
    rw [hgone]
    intro hid
    have hid' : storedObject.id ∈ (front request objects).map CloudRunStoredObject.id :=
      (((List.take_sublist _ _).trans List.filter_sublist).map _).subset hid
    exact hapart _ hid' _ (List.mem_map_of_mem hmem) rfl

theorem spaced_left (h : Returned request objects c)
    (hpass : request.limit ≤ ((front request objects).filter isOwn).length) :
    Spaced request c.objects ↔ Spaced request objects := by
  obtain ⟨hown,hback⟩ := own_left h hpass
  rw [spaced_iff,spaced_iff,foreign_left h,hback,hown,List.length_drop,
    Nat.dvd_sub_iff_left hpass (dvd_refl request.limit)]

end progress

theorem normalized_iff {request : CloudRunArtifactCleanupRequest} :
    normalized request.before = .ok () ↔ Representable request.before.instant := by
  rw [normalized,Instants.Datetime.asUtc]
  by_cases h : Representable request.before.instant <;> simp [h]

section runs

variable [UrlText] [Digest]

-- A request of a caller who may clean up.
structure AdmittedCleanup extends CloudRunArtifactCleanupRequest where
  admitted : ∀ auth, context = some auth → auth.permitted = true

structure CleansUp (request : AdmittedCleanup) (objects : StoredObjects) : Prop where
  calls : ∀ n objects' c, afterCalls objects request.toCloudRunArtifactCleanupRequest n = .ok objects' →
    cleanupExpiredCloudRunArtifacts objects' request.toCloudRunArtifactCleanupRequest = .ok c →
      CallCorrect request.toCloudRunArtifactCleanupRequest objects' c
  ends : ∃ n objects', afterCalls objects request.toCloudRunArtifactCleanupRequest n = .ok objects' ∧
    objects'.rows = objects.rows.filter fun storedObject =>
      ¬ MayDelete request.toCloudRunArtifactCleanupRequest storedObject

variable {request : CloudRunArtifactCleanupRequest} {objects objects' : StoredObjects} {n : ℕ}

theorem cleanup_returns_iff (hadmitted : ∀ auth, request.context = some auth → auth.permitted = true) :
    (∃ c, cleanupExpiredCloudRunArtifacts objects request = .ok c) ↔
      Representable request.before.instant ∧ Passes isOwn request.limit (expiredStoredObjects objects request) ∧
        Passes isForeign request.limit (expiredStoredObjects objects request) := by
  have hpermission : requireAuditedPermissionIfAuthenticated request.context = .ok () := by
    cases hcontext : request.context with
    | none => rfl
    | some auth => exact if_pos (hadmitted auth hcontext)
  have hids {deleted : List Report}
      (hdelete : deletePass request.limit (expiredStoredObjects objects request) = .ok deleted) :
      ∀ r ∈ expiredStoredObjects objects request, r.id ∈ reportedIds deleted → isOwn r = true := by
    intro r hr hid
    rw [reportedIds_eq,(deletePass_spec hdelete).1,List.mem_map] at hid
    obtain ⟨other,hother,hsame⟩ := hid
    obtain ⟨hexpired,hown⟩ := List.mem_filter.mp (List.mem_of_mem_take hother)
    rw [Table.mem_unique (mem_expired.mp hr).1 (mem_expired.mp hexpired).1 hsame.symm]
    exact hown
  simp only [cleanupExpiredCloudRunArtifacts,bind_eq_ok,pure_eq_ok]
  constructor
  · rintro ⟨_,_,_,_,hnormal,deleted,hdelete,lifecycleOnly,hlifecycle,_⟩
    exact ⟨normalized_iff.mp hnormal,deletePass_returns_iff.mp ⟨deleted,hdelete⟩,
      (lifecyclePass_returns_iff (hids hdelete)).mp ⟨lifecycleOnly,hlifecycle⟩⟩
  · rintro ⟨hnormal,hown,hforeign⟩
    obtain ⟨deleted,hdelete⟩ := deletePass_returns_iff.mpr hown
    obtain ⟨lifecycleOnly,hlifecycle⟩ := (lifecyclePass_returns_iff (hids hdelete)).mpr hforeign
    exact ⟨_,(),hpermission,(),normalized_iff.mpr hnormal,deleted,hdelete,lifecycleOnly,hlifecycle,rfl⟩

theorem afterCalls_succ : afterCalls objects request (n + 1) =
    cleanupExpiredCloudRunArtifacts objects request >>= fun c => afterCalls c.objects request n := by
  induction n with
  | zero => rfl
  | succ n ih =>
    rw [afterCalls,ih]
    cases cleanupExpiredCloudRunArtifacts objects request with
    | error e => rfl
    | ok c => rfl

theorem unblocked_of_end (hadmitted : ∀ auth, request.context = some auth → auth.permitted = true)
    (hrun : afterCalls objects request n = .ok objects')
    (hend : objects'.rows = objects.rows.filter fun storedObject => ¬ MayDelete request storedObject) :
    Unblocked request objects := by
  induction n generalizing objects with
  | zero =>
    left
    intro storedObject hrow
    rw [← Except.ok.inj hrun] at hend
    rw [hend] at hrow
    exact of_decide_eq_true (List.mem_filter.mp hrow).2
  | succ n ih =>
    rw [afterCalls_succ,bind_eq_ok] at hrun
    obtain ⟨c,hc,hrest⟩ := hrun
    have hreturned := cleanup_returned hc
    obtain ⟨hnormal,hown,hforeign⟩ := (cleanup_returns_iff hadmitted).mp ⟨c,hc⟩
    refine Or.inr ⟨hnormal,?_⟩
    rcases hown with hreadable | hown
    · exact Or.inl hreadable
    rcases hforeign with hreadable | hforeign
    · exact Or.inl hreadable
    rw [← untouched (call_correct hreturned) hreturned.removed] at hend
    rcases ih hrest hend with hnone | ⟨_,hreadable | hspaced⟩
    · right
      rw [← spaced_left hreturned hown,spaced_iff]
      have hempty : (front request c.objects).filter isOwn = [] := by
        rw [List.filter_eq_nil_iff]
        intro storedObject hmem hown
        rw [own_of_none hnone (mem_front hmem).1] at hown
        cases hown
      refine ⟨fun storedObject hmem => own_of_none hnone ((List.dropWhile_sublist _).subset hmem),?_,?_⟩
      · rw [hempty]
        exact dvd_zero _
      · rw [foreign_left hreturned]
        exact hforeign
    · exact Or.inl ((readable_left hreturned).mp hreadable)
    · exact Or.inr ((spaced_left hreturned hown).mp hspaced)

theorem end_of_unblocked (hadmitted : ∀ auth, request.context = some auth → auth.permitted = true)
    (h : Unblocked request objects) : ∃ n objects', afterCalls objects request n = .ok objects' ∧
      objects'.rows = objects.rows.filter fun storedObject => ¬ MayDelete request storedObject := by
  induction hlength : objects.rows.length using Nat.strong_induction_on generalizing objects with
  | h size ih =>
    by_cases hleft : ∃ storedObject ∈ objects.rows, MayDelete request storedObject
    · obtain ⟨storedObject,hrow,hdeletable⟩ := hleft
      obtain ⟨hscope,hown⟩ := (may_delete_iff _ _).mp hdeletable
      have hexpired := mem_expired.mpr ⟨hrow,hscope⟩
      rcases h with hnone | ⟨hnormal,hfree⟩
      · exact (hnone storedObject hrow hdeletable).elim
      have hpasses := passes_of_free hfree hexpired hown
      obtain ⟨c,hc⟩ := (cleanup_returns_iff hadmitted).mpr ⟨hnormal,hpasses⟩
      have hreturned := cleanup_returned hc
      have hsome : 0 < c.deleted.length := by
        rw [← List.length_map Prod.fst,hreturned.deletedRows,List.length_take,lt_min_iff]
        exact ⟨request.positive,List.length_pos_of_mem (List.mem_filter.mpr ⟨hexpired,hown⟩)⟩
      have hfree' : Readable request c.objects ∨ Spaced request c.objects := by
        rcases hfree with hreadable | hspaced
        · exact Or.inl ((readable_left hreturned).mpr hreadable)
        · exact Or.inr ((spaced_left hreturned (own_limit hspaced hexpired hown)).mpr hspaced)
      obtain ⟨n,last,hrun,hlast⟩ := ih c.objects.rows.length (hlength ▸ shrinks hreturned hsome)
        (Or.inr ⟨hnormal,hfree'⟩) rfl
      refine ⟨n + 1,last,?_,?_⟩
      · rw [afterCalls_succ,hc]
        exact hrun
      · rw [hlast]
        exact untouched (call_correct hreturned) hreturned.removed
    · push Not at hleft
      exact ⟨0,objects,rfl,(none_left hleft).symm⟩

theorem cleans_up_iff (request : AdmittedCleanup) (objects : StoredObjects) : CleansUp request objects ↔
    Unblocked request.toCloudRunArtifactCleanupRequest objects := by
  constructor
  · rintro ⟨_,n,objects',hrun,hend⟩
    exact unblocked_of_end request.admitted hrun hend
  · intro h
    exact ⟨fun _ _ _ _ hc => call_correct (cleanup_returned hc),end_of_unblocked request.admitted h⟩

end runs

-- An address in brackets has both of them.
@[reducible] def bracketText : UrlText :=
  ⟨fun text => text.map Char.toLower,fun netloc => netloc.contains '[' == netloc.contains ']'⟩

def blockedObjects : StoredObjects where
  rows := [storedLog "first" "run" "oss://[bucket/key" "text",
    storedLog "second" "run" "local-inline://cloud-run-objects/second" "text"]
  distinct := by decide

def cleanupBefore (before : Instants.Datetime) : AdmittedCleanup where
  context := none
  before := before
  limit := 100
  positive := by decide
  admitted _ h := absurd h (by simp)

-- 1970-01-01T00:00:00.000010, and 9999-12-31T23:59:59-01:00.
def shortlyAfterEpoch : Instants.Datetime := ⟨10,none,by decide⟩

def pastTheEnd : Instants.Datetime := ⟨253402300799000000,some (-3600000000),by decide⟩

def expiredObjects : StoredObjects where
  rows := [storedLog "second" "run" "local-inline://cloud-run-objects/second" "text"]
  distinct := by decide

theorem not_cleansUp [UrlText] [Digest] {request : AdmittedCleanup} {objects : StoredObjects}
    {storedObject : CloudRunStoredObject}
    (hraises : (cleanupExpiredCloudRunArtifacts objects request.toCloudRunArtifactCleanupRequest).isOk = false)
    (hrow : storedObject ∈ objects.rows)
    (hdeletable : MayDelete request.toCloudRunArtifactCleanupRequest storedObject) :
    ¬ CleansUp request objects := by
  rintro ⟨_,n,objects',hrun,hend⟩
  cases n with
  | zero =>
    rw [← Except.ok.inj hrun] at hend
    rw [hend] at hrow
    exact of_decide_eq_true (List.mem_filter.mp hrow).2 hdeletable
  | succ n =>
    rw [afterCalls_succ,bind_eq_ok] at hrun
    obtain ⟨c,hc,_⟩ := hrun
    rw [hc] at hraises
    cases hraises

theorem malformed_uri_blocks :
    ¬ @CleansUp bracketText identityDigest (cleanupBefore shortlyAfterEpoch) blockedObjects ∧
      ¬ @CleansUp bracketText identityDigest (cleanupBefore pastTheEnd) expiredObjects := by
  constructor
  · exact @not_cleansUp bracketText identityDigest _ _
      (storedLog "second" "run" "local-inline://cloud-run-objects/second" "text")
      (by decide +kernel) (by decide) (by decide +kernel)
  · exact @not_cleansUp bracketText identityDigest _ _
      (storedLog "second" "run" "local-inline://cloud-run-objects/second" "text")
      (by decide +kernel) (by decide) (by decide +kernel)

end AiScdc.ArtifactPlane
