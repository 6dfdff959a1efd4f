import AiScdc.ArtifactPlane.Content
import AiScdc.Guards

namespace AiScdc.ArtifactPlane

section rules

variable {α : Type}

@[simp] theorem httpError_ne_ok {statusCode : ℕ} {detail : String} {a : α} :
    httpError statusCode detail ≠ .ok a := by
  simp [httpError]

@[simp] theorem notFound_ne_ok {a : α} : notFound ≠ .ok a := httpError_ne_ok

@[simp] theorem readError_ne_ok {detail : String} {a : α} : readError detail ≠ .ok a := by
  simp [readError]

theorem parsed_eq_ok {value : Option α} {a : α} : parsed value = .ok a ↔ value = some a := by
  cases value with
  | none => simp [parsed]
  | some value => simp [parsed]

theorem parsedRef_eq_ok {value : Option SplitResult} {a : SplitResult} :
    parsedRef value = .ok a ↔ value = some a := by
  cases value with
  | none => simp [parsedRef]
  | some value => simp [parsedRef]

end rules

section uris

variable [UrlText] {uri : String}

omit [UrlText] in
theorem providerName_local {split : SplitResult} :
    providerName split = "local_inline" ↔ String.ofList split.scheme = "local-inline" := by
  unfold providerName
  split
  · simp [*]
  · simp [*]
  · simp [*]
  · rename_i hlocal _ _
    simpa using hlocal

theorem isLocalInlineUri_true :
    isLocalInlineUri uri = some true ↔ providerNameFromUri uri = some "local_inline" := by
  unfold isLocalInlineUri providerNameFromUri
  cases urlsplit uri with
  | none => simp
  | some split => simp [providerName_local]

theorem localInlineObjectId_local {id : String} (h : localInlineObjectId uri = some (some id)) :
    isLocalInlineUri uri = some true := by
  unfold localInlineObjectId at h
  unfold isLocalInlineUri
  cases hsplit : urlsplit uri with
  | none => simp [hsplit] at h
  | some split =>
    simp only [hsplit,Option.map_some,Option.some.injEq,namedObject] at h
    by_cases hscheme : String.ofList split.scheme = "local-inline"
    · simp [hscheme]
    · simp [hscheme] at h

-- The storage provider and the artifact listing read the same object id out of a reference.
theorem parseLocalInlineObjectId_ok {id : String} (h : parseLocalInlineObjectId uri = .ok id) :
    localInlineObjectId uri = some (some id) := by
  unfold parseLocalInlineObjectId urlparse at h
  unfold localInlineObjectId
  rw [bind_eq_ok] at h
  obtain ⟨split,hsplit,hread⟩ := h
  rw [parsedRef_eq_ok,Option.map_eq_some_iff] at hsplit
  obtain ⟨split₀,hsplit₀,heq⟩ := hsplit
  have hscheme : split.scheme = split₀.scheme := by
    rw [← heq]
    split <;> rfl
  rw [hsplit₀,Option.map_some]
  by_cases hlocal : String.ofList split.scheme = "local-inline"
  · have hsame : split₀ = split := by
      rw [← heq,if_neg]
      rw [← hscheme,hlocal]
      decide
    rw [hsame]
    rw [if_neg (by simpa using hlocal)] at hread
    by_cases hnetloc : String.ofList split.netloc = "cloud-run-objects"
    · rw [if_neg (by simpa using hnetloc)] at hread
      simp only [namedObject,hlocal,hnetloc]
      cases hid : objectId split with
      | none => simp [hid] at hread
      | some storedObjectId => simpa [hid] using hread
    · simp [hnetloc] at hread
  · simp [hlocal] at hread

end uris

section sources

variable [UrlText] {store : Store} {cloudRun : CloudRun} {source : ArtifactSource}

-- A source that reads inline objects belongs to a row which its own uri names.
structure Sourced (store : Store) (cloudRun : CloudRun) (source : ArtifactSource) : Prop where
  run : source.descriptor.cloudRunId = cloudRun.id
  patch : source.patchArtifactId.isSome = true → source.descriptor.provider = "patch_artifact"
  provider : ∀ ref, source.storageRef = some ref →
    providerNameFromUri ref.uri = some source.descriptor.provider
  named : ∀ ref, source.storageRef = some ref → isLocalInlineUri ref.uri = some true →
    ∃ storedObject ∈ store.storedObjects.rows, source.storedObjectId = some storedObject.id ∧
      ref.uri = storedObject.uri ∧ localInlineObjectId storedObject.uri = some (some storedObject.id)

theorem descriptorRead_ok {kind artifactId provider uri sha256 contentType : String} {sizeBytes : ℤ}
    {createdAt expiresAt : Option Time} {retentionPolicy : Option String}
    {descriptor : CloudRunArtifactDescriptorRead}
    (h : descriptorRead cloudRun kind artifactId provider uri sha256 sizeBytes contentType createdAt
      expiresAt retentionPolicy = .ok descriptor) :
    descriptor.cloudRunId = cloudRun.id ∧ descriptor.provider = provider := by
  unfold descriptorRead at h
  rw [bind_eq_ok] at h
  obtain ⟨redactedUri,_,hread⟩ := h
  rw [pure_eq_ok] at hread
  subst hread
  exact ⟨rfl,rfl⟩

theorem sourceFromStoredObject_ok {storedObject : CloudRunStoredObject}
    (hmem : storedObject ∈ store.storedObjects.rows)
    (h : sourceFromStoredObject cloudRun storedObject = .ok (some source)) :
    Sourced store cloudRun source := by
  unfold sourceFromStoredObject at h
  cases hkind : artifactKindOrNone storedObject.kind with
  | none => simp [hkind] at h
  | some kind =>
    simp only [hkind,bind_eq_ok,parsed_eq_ok] at h
    obtain ⟨provider,hprovider,objectId,hobject,hread⟩ := h
    by_cases hforeign : provider = "local_inline" ∧ objectId ≠ some storedObject.id
    · rw [if_pos hforeign] at hread
      simp at hread
    · rw [if_neg hforeign,bind_eq_ok] at hread
      obtain ⟨descriptor,hdescriptor,hsource⟩ := hread
      obtain ⟨hrun,hname⟩ := descriptorRead_ok hdescriptor
      simp only [pure_eq_ok,Option.some.injEq] at hsource
      subst hsource
      refine ⟨hrun,fun hp => (by cases hp),fun ref href => ?_,fun ref href hlocal => ?_⟩
      · cases href
        rw [hname]
        exact hprovider
      · cases href
        rw [isLocalInlineUri_true,hprovider,Option.some.injEq] at hlocal
        have hown : objectId = some storedObject.id := by
          by_contra hne
          exact hforeign ⟨hlocal,hne⟩
        exact ⟨storedObject,hmem,rfl,rfl,hown ▸ hobject⟩

theorem patchArtifactDiffSource_ok [Digest]
    (h : patchArtifactDiffSource store cloudRun = .ok (some source)) : Sourced store cloudRun source := by
  unfold patchArtifactDiffSource at h
  cases hpatch : cloudRun.patchArtifactId.bind store.patchArtifacts.get with
  | none => simp [hpatch] at h
  | some patchArtifact =>
    simp only [hpatch] at h
    by_cases hworkspace : patchArtifact.workspaceId ≠ cloudRun.workspaceId
    · simp [hworkspace] at h
    · by_cases htask : patchArtifact.taskId ≠ cloudRun.taskId
      · simp [hworkspace,htask] at h
      · rw [if_neg hworkspace,if_neg htask,bind_eq_ok] at h
        obtain ⟨descriptor,hdescriptor,hsource⟩ := h
        obtain ⟨hrun,hname⟩ := descriptorRead_ok hdescriptor
        simp only [pure_eq_ok,Option.some.injEq] at hsource
        subst hsource
        exact ⟨hrun,fun _ => hname,fun ref href => (by cases href),fun ref href => (by cases href)⟩

theorem metadataRefSource_ok [Digest] {kind : String} {uri sha256 contentType : Option String}
    {sizeBytes : Option ℤ}
    (h : metadataRefSource store cloudRun kind uri sha256 sizeBytes contentType = .ok (some source)) :
    Sourced store cloudRun source := by
  unfold metadataRefSource at h
  split at h
  · rename_i uri sha256 sizeBytes contentType
    simp only [bind_eq_ok,parsed_eq_ok] at h
    obtain ⟨isLocal,hlocal,hread⟩ := h
    cases isLocal with
    | true =>
      simp only [if_true,bind_eq_ok] at hread
      obtain ⟨found,hfound,hread⟩ := hread
      unfold localInlineStoredObject at hfound
      simp only [bind_eq_ok,parsed_eq_ok,pure_eq_ok] at hfound
      obtain ⟨objectId,hobject,rfl⟩ := hfound
      cases hrow : objectId.bind store.storedObjects.get with
      | none => simp [hrow] at hread
      | some storedObject =>
        simp only [hrow] at hread
        split at hread
        · simp at hread
        · obtain ⟨id,_,hget⟩ := Option.bind_eq_some_iff.mp hrow
          exact sourceFromStoredObject_ok (Table.get_mem hget).1 hread
    | false =>
      simp only [Bool.false_eq_true,if_false,bind_eq_ok,parsed_eq_ok] at hread
      obtain ⟨provider,hprovider,descriptor,hdescriptor,hsource⟩ := hread
      obtain ⟨hrun,hname⟩ := descriptorRead_ok hdescriptor
      simp only [pure_eq_ok,Option.some.injEq] at hsource
      subst hsource
      refine ⟨hrun,fun hp => (by cases hp),fun ref href => ?_,fun ref href hyes => ?_⟩
      · cases href
        rw [hname]
        exact hprovider
      · cases href
        rw [hlocal] at hyes
        cases hyes
  · simp at h

theorem cloudRunMetadataRefSources_ok [Digest] {sources : List ArtifactSource}
    (h : cloudRunMetadataRefSources store cloudRun = .ok sources) :
    ∀ source ∈ sources, Sourced store cloudRun source := by
  unfold cloudRunMetadataRefSources at h
  simp only [bind_eq_ok,pure_eq_ok] at h
  obtain ⟨manifestSource,hmanifest,logSource,hlog,rfl⟩ := h
  intro source hmem
  rw [List.mem_append,Option.mem_toList,Option.mem_toList] at hmem
  rcases hmem with hmem | hmem
  · rw [hmem] at hmanifest
    exact metadataRefSource_ok hmanifest
  · rw [hmem] at hlog
    exact metadataRefSource_ok hlog

theorem addStoredObjects_ok {objects : List CloudRunStoredObject} {found found' : Found}
    (hmem : ∀ storedObject ∈ objects, storedObject ∈ store.storedObjects.rows)
    (hfound : ∀ source ∈ found.sources, Sourced store cloudRun source)
    (h : addStoredObjects cloudRun found objects = .ok found') :
    ∀ source ∈ found'.sources, Sourced store cloudRun source := by
  induction objects generalizing found with
  | nil =>
    simp only [addStoredObjects,pure_eq_ok] at h
    exact h ▸ hfound
  | cons storedObject rest ih =>
    have hrest : ∀ o ∈ rest, o ∈ store.storedObjects.rows := fun o ho => hmem o (List.mem_cons_of_mem _ ho)
    unfold addStoredObjects at h
    rw [bind_eq_ok] at h
    obtain ⟨added,hadded,h⟩ := h
    cases added with
    | none => exact ih hrest hfound h
    | some source =>
      refine ih hrest (fun source' hsource' => ?_) h
      rcases List.mem_append.mp hsource' with hold | hnew
      · exact hfound source' hold
      · rw [List.mem_singleton] at hnew
        subst hnew
        exact sourceFromStoredObject_ok (hmem storedObject List.mem_cons_self) hadded

omit [UrlText] in
theorem mem_addSource {sources : List ArtifactSource} {found : Found}
    (h : source ∈ (sources.foldl addSource found).sources) :
    source ∈ found.sources ∨ source ∈ sources := by
  induction sources generalizing found with
  | nil => exact Or.inl h
  | cons first rest ih =>
    rcases ih h with hold | hrest
    · unfold addSource at hold
      split at hold
      · exact Or.inl hold
      · rcases List.mem_append.mp hold with hold | hfirst
        · exact Or.inl hold
        · exact Or.inr (List.mem_cons.mpr (Or.inl (List.mem_singleton.mp hfirst)))
    · exact Or.inr (List.mem_cons_of_mem _ hrest)

omit [UrlText] in
theorem mem_runObjects {storedObject : CloudRunStoredObject}
    (h : storedObject ∈ runObjects store cloudRun) : storedObject ∈ store.storedObjects.rows := by
  unfold runObjects at h
  rw [List.mem_insertionSort] at h
  exact List.mem_of_mem_filter h

theorem cloudRunArtifactSources_ok [Digest] {sources : List ArtifactSource}
    (h : cloudRunArtifactSources store cloudRun = .ok sources) :
    ∀ source ∈ sources, Sourced store cloudRun source := by
  unfold cloudRunArtifactSources at h
  simp only [bind_eq_ok] at h
  obtain ⟨found,hfound,metadata,hmetadata,h⟩ := h
  have hlisted : ∀ source ∈ (metadata.foldl addSource found).sources, Sourced store cloudRun source := by
    intro source hmem
    rcases mem_addSource hmem with hrow | hreference
    · exact addStoredObjects_ok (fun _ => mem_runObjects) (by simp) hfound source hrow
    · exact cloudRunMetadataRefSources_ok hmetadata source hreference
  intro source hmem
  split at h
  · rw [pure_eq_ok] at h
    rw [← h,List.mem_insertionSort] at hmem
    exact hlisted source hmem
  · simp only [bind_eq_ok,pure_eq_ok] at h
    obtain ⟨patchSource,hpatch,h⟩ := h
    rw [← h,List.mem_insertionSort,List.mem_append,Option.mem_toList] at hmem
    rcases hmem with hmem | hmem
    · exact hlisted source hmem
    · rw [hmem] at hpatch
      exact patchArtifactDiffSource_ok hpatch

end sources

section reads

variable [UrlText] [Digest] {store : Store} {request : Request} {cloudRun : CloudRun}
  {source : ArtifactSource}

theorem localInlineReadText_ok {ref : ObjectStorageRef} {content : String}
    (h : localInlineReadText store ref = .ok content) :
    ∃ storedObject id, localInlineObjectId ref.uri = some (some id) ∧
      store.storedObjects.get id = some storedObject ∧ content = storedObject.textContent := by
  unfold localInlineReadText at h
  simp only [bind_eq_ok] at h
  obtain ⟨_,_,id,hid,h⟩ := h
  cases hrow : store.storedObjects.get id with
  | none => simp [hrow] at h
  | some storedObject =>
    refine ⟨storedObject,id,parseLocalInlineObjectId_ok hid,hrow,?_⟩
    simp only [hrow,checkContent] at h
    repeat' split at h
    all_goals simp at h
    exact h.symm

omit [UrlText] in
theorem checkContent_ok {ref : ObjectStorageRef} {content content' : String}
    (h : checkContent ref content = .ok content') : content' = content := by
  unfold checkContent at h
  split at h
  · simp at h
  · split at h
    · simp at h
    · rw [pure_eq_ok] at h
      exact h.symm

theorem aliyunOssReadText_ok {ref : ObjectStorageRef} {content : String}
    (h : aliyunOssReadText request ref = .ok content) :
    ∃ bucket objectKey, request.getObjectText bucket objectKey = .ok content := by
  unfold aliyunOssReadText at h
  simp only [bind_eq_ok] at h
  obtain ⟨_,_,_,_,⟨bucket,objectKey⟩,_,h⟩ := h
  dsimp only at h
  split at h
  · simp at h
  · split at h
    · simp at h
    · split at h
      · simp at h
      · rw [bind_eq_ok] at h
        obtain ⟨content',hreply,hcheck⟩ := h
        exact ⟨bucket,objectKey,checkContent_ok hcheck ▸ hreply⟩

omit [UrlText] [Digest] in
theorem raiseIfExpired_ok {now : Time} {expiresAt : Option Time} {u : Unit}
    (h : raiseIfExpired now expiresAt = .ok u) : ∀ t, expiresAt = some t → now < t := by
  unfold raiseIfExpired at h
  rintro t rfl
  by_contra hle
  rw [if_pos (by simpa using hle)] at h
  simp at h

-- The object read by an inline reference is the addressed run's, and still kept.
structure InlineScope (store : Store) (cloudRun : CloudRun) (source : ArtifactSource) (now : Time)
    (storedObject : CloudRunStoredObject) : Prop where
  run : storedObject.cloudRunId = cloudRun.id
  workspace : storedObject.workspaceId = cloudRun.workspaceId
  kind : storedObject.kind = source.descriptor.kind
  kept : ∀ t, storedObject.expiresAt = some t → now < t

omit [Digest] in
theorem validateLocalInlineScope_ok {ref : ObjectStorageRef} {now : Time} {u : Unit} {id : String}
    {storedObject : CloudRunStoredObject} (hid : localInlineObjectId ref.uri = some (some id))
    (hrow : store.storedObjects.get id = some storedObject)
    (h : validateLocalInlineScope store cloudRun source ref now = .ok u) :
    InlineScope store cloudRun source now storedObject ∧
      ∀ own, source.storedObjectId = some own → own = id := by
  unfold validateLocalInlineScope at h
  simp only [bind_eq_ok,parsed_eq_ok] at h
  obtain ⟨isLocal,hlocal,h⟩ := h
  rw [localInlineObjectId_local hid,Option.some.injEq] at hlocal
  subst hlocal
  simp only [if_true,bind_eq_ok,parsed_eq_ok] at h
  obtain ⟨target,htarget,h⟩ := h
  cases hid.symm.trans htarget
  dsimp only at h
  split at h
  · simp at h
  · rename_i hown
    rw [hrow] at h
    dsimp only at h
    split at h
    · simp at h
    · rename_i hscope
      rw [bind_eq_ok] at h
      obtain ⟨_,hkept,_⟩ := h
      simp only [not_or,not_not] at hscope
      refine ⟨⟨hscope.1,hscope.2.1,hscope.2.2,raiseIfExpired_ok hkept⟩,fun own ho => ?_⟩
      simp only [ho,Option.any_some,decide_eq_true_eq,not_not] at hown
      exact hown.symm

omit [UrlText] [Digest] in
theorem readPatchArtifactDiff_ok {patchArtifactId content : String}
    (h : readPatchArtifactDiff store cloudRun patchArtifactId = .ok content) :
    ∃ patchArtifact ∈ store.patchArtifacts.rows, cloudRun.patchArtifactId = some patchArtifact.id ∧
      patchArtifact.workspaceId = cloudRun.workspaceId ∧ patchArtifact.taskId = cloudRun.taskId ∧
      content = patchArtifact.diffText := by
  unfold readPatchArtifactDiff at h
  cases hrow : store.patchArtifacts.get patchArtifactId with
  | none => simp [hrow] at h
  | some patchArtifact =>
    simp only [hrow] at h
    split at h
    · simp at h
    · rename_i hid
      split at h
      · simp at h
      · rename_i hworkspace
        split at h
        · simp at h
        · rename_i htask
          rw [not_not] at hid hworkspace htask
          rw [pure_eq_ok] at h
          exact ⟨patchArtifact,(Table.get_mem hrow).1,hid.symm,hworkspace,htask,h.symm⟩

omit [UrlText] [Digest] in
theorem getCloudRunOr404_ok {cloudRunId : String}
    (h : getCloudRunOr404 store request cloudRunId = .ok cloudRun) :
    store.cloudRuns.get cloudRunId = some cloudRun := by
  unfold getCloudRunOr404 at h
  cases hrow : store.cloudRuns.get cloudRunId with
  | none => simp [hrow] at h
  | some row =>
    simp only [hrow,bind_eq_ok,pure_eq_ok] at h
    obtain ⟨_,_,rfl⟩ := h
    rfl

theorem getCloudRunArtifactSourceForRun_ok {artifactId : String}
    (h : getCloudRunArtifactSourceForRun store cloudRun artifactId = .ok source) :
    Sourced store cloudRun source ∧ source.descriptor.id = artifactId := by
  unfold getCloudRunArtifactSourceForRun at h
  rw [bind_eq_ok] at h
  obtain ⟨sources,hsources,h⟩ := h
  cases hfind : sources.find? fun source => source.descriptor.id = artifactId with
  | none => simp [hfind] at h
  | some found =>
    simp only [hfind,pure_eq_ok] at h
    subst h
    have hid := List.find?_some hfind
    exact ⟨cloudRunArtifactSources_ok hsources _ (List.mem_of_find?_eq_some hfind),of_decide_eq_true hid⟩

def FromStoredObject (store : Store) (cloudRun : CloudRun) (now : Time)
    (read : CloudRunArtifactContentRead) : Prop :=
  read.artifact.provider = "local_inline" ∧ ∃ storedObject ∈ store.storedObjects.rows,
    read.content = storedObject.textContent ∧ storedObject.cloudRunId = cloudRun.id ∧
    storedObject.workspaceId = cloudRun.workspaceId ∧ storedObject.kind = read.artifact.kind ∧
    localInlineObjectId storedObject.uri = some (some storedObject.id) ∧
    ∀ t, storedObject.expiresAt = some t → now < t

def FromPatchArtifact (store : Store) (cloudRun : CloudRun) (read : CloudRunArtifactContentRead) : Prop :=
  read.artifact.provider = "patch_artifact" ∧ ∃ patchArtifact ∈ store.patchArtifacts.rows,
    read.content = patchArtifact.diffText ∧ cloudRun.patchArtifactId = some patchArtifact.id ∧
    patchArtifact.workspaceId = cloudRun.workspaceId ∧ patchArtifact.taskId = cloudRun.taskId

def FromBucket (request : Request) (read : CloudRunArtifactContentRead) : Prop :=
  read.artifact.provider = "aliyun_oss" ∧
    ∃ bucket objectKey, request.getObjectText bucket objectKey = .ok read.content

theorem Sourced.reads {ref : ObjectStorageRef} {content : String} (h : Sourced store cloudRun source)
    (href : source.storageRef = some ref) {now : Time} {u : Unit}
    (hscope : validateLocalInlineScope store cloudRun source ref now = .ok u)
    (hread : readText store request source.descriptor.provider ref = .ok content) :
    FromStoredObject store cloudRun now ⟨source.descriptor,content⟩ ∨
      FromBucket request ⟨source.descriptor,content⟩ := by
  have hprovider := h.provider ref href
  unfold readText at hread
  split at hread
  · rename_i hlocal
    obtain ⟨storedObject,id,hid,hrow,hcontent⟩ := localInlineReadText_ok hread
    obtain ⟨hin,hown⟩ := validateLocalInlineScope_ok hid hrow hscope
    obtain ⟨named,hmem,hnamed,huri,hself⟩ := h.named ref href (localInlineObjectId_local hid)
    obtain ⟨hrowMem,hrowId⟩ := Table.get_mem hrow
    -- The row the source was listed from and the row that was read have one id.
    have hsame : named = storedObject := Table.mem_unique hmem hrowMem ((hown _ hnamed).trans hrowId.symm)
    subst hsame
    exact Or.inl ⟨hlocal,named,hrowMem,hcontent,hin.run,hin.workspace,hin.kind,hself,hin.kept⟩
  · rename_i hoss
    exact Or.inr ⟨hoss,aliyunOssReadText_ok hread⟩
  · cases hread

theorem artifact_reads_stay_in_run {cloudRunId artifactId : String} {read : CloudRunArtifactContentRead}
    (h : readCloudRunArtifactContent store request cloudRunId artifactId = .ok read) :
    ∃ cloudRun ∈ store.cloudRuns.rows, cloudRun.id = cloudRunId ∧ read.artifact.cloudRunId = cloudRunId ∧
      read.artifact.id = artifactId ∧
      (FromStoredObject store cloudRun request.scopeCheckedAt read ∨
        FromPatchArtifact store cloudRun read ∨ FromBucket request read) := by
  unfold readCloudRunArtifactContent at h
  simp only [bind_eq_ok] at h
  obtain ⟨cloudRun,hrun,source,hsource,_,_,_,_,h⟩ := h
  obtain ⟨hmem,hid⟩ := Table.get_mem (getCloudRunOr404_ok hrun)
  obtain ⟨hsourced,hartifact⟩ := getCloudRunArtifactSourceForRun_ok hsource
  refine ⟨cloudRun,hmem,hid,?_⟩
  cases hpatch : source.patchArtifactId with
  | some patchArtifactId =>
    simp only [hpatch,bind_eq_ok,pure_eq_ok] at h
    obtain ⟨content,hread,rfl⟩ := h
    obtain ⟨patchArtifact,hrow,hown,hworkspace,htask,hcontent⟩ := readPatchArtifactDiff_ok hread
    exact ⟨hsourced.run.trans hid,hartifact,Or.inr (Or.inl ⟨hsourced.patch (by simp [hpatch]),
      patchArtifact,hrow,hcontent,hown,hworkspace,htask⟩)⟩
  | none =>
    cases href : source.storageRef with
    | none => simp [hpatch,href] at h
    | some ref =>
      simp only [hpatch,href,bind_eq_ok,mapError_eq_ok,pure_eq_ok] at h
      obtain ⟨_,hscope,content,hread,rfl⟩ := h
      refine ⟨hsourced.run.trans hid,hartifact,?_⟩
      rcases hsourced.reads href hscope hread with hrow | hbucket
      · exact Or.inl hrow
      · exact Or.inr (Or.inr hbucket)

end reads

@[reducible] def asciiText : UrlText := ⟨fun text => text.map Char.toLower,fun _ => true⟩

@[reducible] def identityDigest : Digest := ⟨id⟩

def storedLog (id cloudRunId uri text : String) : CloudRunStoredObject :=
  { id, workspaceId := "ws", cloudRunId, kind := "log", uri, sha256 := text,
    sizeBytes := text.utf8ByteSize, contentType := "text/plain", textContent := text,
    expiresAt := some 10, retentionPolicy := none, createdAt := 0 }

-- The run's log is stored beside a row that names another run's object.
def sharedStore : Store where
  cloudRuns := ⟨[⟨"run","ws","task",none,some "local-inline://cloud-run-objects/theirs",some "other",
    some 5,some "text/plain",none,none,none,none⟩],by decide⟩
  storedObjects := ⟨[storedLog "ours" "run" "local-inline://cloud-run-objects/ours" "log",
    storedLog "alias" "run" "local-inline://cloud-run-objects/theirs" "other",
    storedLog "theirs" "elsewhere" "local-inline://cloud-run-objects/theirs" "other"],by decide⟩
  patchArtifacts := ⟨[],by decide⟩

def openRequest : Request := ⟨none,1,2,.error "",fun _ _ => .error (.readError "")⟩

theorem artifact_reads_stay_in_run_log :
    let _ := asciiText
    let _ := identityDigest
    ∃ cloudRun ∈ sharedStore.cloudRuns.rows, cloudRun.id = "run" ∧
      ∃ read, readCloudRunArtifactContent sharedStore openRequest "run" "log_ours" = .ok read ∧
        read.content = "log" ∧ (FromStoredObject sharedStore cloudRun 2 read ∨
          FromPatchArtifact sharedStore cloudRun read ∨ FromBucket openRequest read) := by
  intro _ _
  have hread : (readCloudRunArtifactContent sharedStore openRequest "run" "log_ours").toOption.map
      CloudRunArtifactContentRead.content = some "log" := by decide +kernel
  cases hresult : readCloudRunArtifactContent sharedStore openRequest "run" "log_ours" with
  | error e =>
    rw [hresult] at hread
    cases hread
  | ok read =>
    rw [hresult] at hread
    obtain ⟨cloudRun,hmem,hid,_,_,hscope⟩ := artifact_reads_stay_in_run hresult
    exact ⟨cloudRun,hmem,hid,read,rfl,Option.some.inj hread,hscope⟩

end AiScdc.ArtifactPlane
