import AiScdc.ArtifactPlane.Uri
import AiScdc.Session
import AiScdc.WorkerCallback

namespace AiScdc.ArtifactPlane

structure CloudRun where
  id : String
  workspaceId : String
  taskId : String
  patchArtifactId : Option String
  artifactManifestUri : Option String
  artifactManifestSha256 : Option String
  artifactManifestSizeBytes : Option ℤ
  artifactManifestContentType : Option String
  logStreamUri : Option String
  logStreamSha256 : Option String
  logStreamSizeBytes : Option ℤ
  logStreamContentType : Option String
  deriving DecidableEq, Repr

structure CloudRunStoredObject where
  id : String
  workspaceId : String
  cloudRunId : String
  kind : String
  uri : String
  sha256 : String
  sizeBytes : ℤ
  contentType : String
  textContent : String
  expiresAt : Option Time
  retentionPolicy : Option String
  createdAt : Time
  deriving DecidableEq, Repr

structure PatchArtifact where
  id : String
  workspaceId : String
  taskId : String
  diffText : String
  createdAt : Time
  deriving DecidableEq, Repr

structure Table (R : Type) (primaryKey : R → String) where
  rows : List R
  distinct : (rows.map primaryKey).Nodup

namespace Table

variable {R : Type} {primaryKey : R → String}

def get (table : Table R primaryKey) (id : String) : Option R :=
  table.rows.find? fun row => primaryKey row = id

theorem get_mem {table : Table R primaryKey} {id : String} {row : R} (h : table.get id = some row) :
    row ∈ table.rows ∧ primaryKey row = id := by
  have hid := List.find?_some h
  exact ⟨List.mem_of_find?_eq_some h,of_decide_eq_true hid⟩

theorem mem_unique {table : Table R primaryKey} {row row' : R} (h : row ∈ table.rows)
    (h' : row' ∈ table.rows) (hid : primaryKey row = primaryKey row') : row = row' :=
  List.inj_on_of_nodup_map table.distinct h h' hid

end Table

structure Store where
  cloudRuns : Table CloudRun CloudRun.id
  storedObjects : Table CloudRunStoredObject CloudRunStoredObject.id
  patchArtifacts : Table PatchArtifact PatchArtifact.id

structure ObjectStorageRef where
  kind : String
  uri : String
  sha256 : String
  sizeBytes : ℤ
  contentType : String
  deriving DecidableEq, Repr

structure CloudRunArtifactDescriptorRead where
  id : String
  cloudRunId : String
  kind : String
  label : String
  provider : String
  uri : String
  redactedUri : String
  sha256 : String
  sizeBytes : ℤ
  contentType : String
  createdAt : Option Time
  expiresAt : Option Time
  retentionPolicy : Option String
  downloadUrl : String
  deriving DecidableEq, Repr

structure ArtifactSource where
  descriptor : CloudRunArtifactDescriptorRead
  storageRef : Option ObjectStorageRef
  storedObjectId : Option String
  patchArtifactId : Option String
  deriving DecidableEq, Repr

abbrev Read (α : Type) := Except Exn α

def httpError {α : Type} (statusCode : ℕ) (detail : String) : Read α := .error (.http statusCode detail)

def notFound {α : Type} : Read α := httpError 404 "Cloud run artifact not found"

-- A text that is no URL raises out of the service.
def parsed {α : Type} : Option α → Read α
  | some value => .ok value
  | none => .error (.unhandled "ValueError")

def artifactLabels : List (String × String) :=
  [("diff","Unified diff"),("log","Log stream"),("command_result","Command result"),
    ("test_result","Test result"),("manifest","Artifact manifest")]

def artifactOrder : List (String × ℕ) :=
  [("diff",0),("log",1),("command_result",2),("test_result",3),("manifest",4)]

def artifactKindOrNone (kind : String) : Option String :=
  if (artifactLabels.lookup kind).isSome then some kind else none

section listing

variable [UrlText] [Digest]

def descriptorRead (cloudRun : CloudRun) (kind artifactId provider uri sha256 : String) (sizeBytes : ℤ)
    (contentType : String) (createdAt expiresAt : Option Time) (retentionPolicy : Option String) :
    Read CloudRunArtifactDescriptorRead := do
  let redactedUri ← parsed (redactUri uri)
  pure { id := artifactId, cloudRunId := cloudRun.id, kind,
         label := (artifactLabels.lookup kind).getD "", provider, uri := redactedUri, redactedUri,
         sha256, sizeBytes, contentType, createdAt, expiresAt, retentionPolicy,
         downloadUrl := s!"/cloud-runs/{cloudRun.id}/artifacts/{artifactId}/content" }

def sourceFromStoredObject (cloudRun : CloudRun) (storedObject : CloudRunStoredObject) :
    Read (Option ArtifactSource) :=
  match artifactKindOrNone storedObject.kind with
  | none => pure none
  | some kind => do
    let provider ← parsed (providerNameFromUri storedObject.uri)
    let objectId ← parsed (localInlineObjectId storedObject.uri)
    if provider = "local_inline" ∧ objectId ≠ some storedObject.id then pure none
    else
      let descriptor ← descriptorRead cloudRun kind s!"{kind}_{storedObject.id}" provider storedObject.uri
        storedObject.sha256 storedObject.sizeBytes storedObject.contentType (some storedObject.createdAt)
        storedObject.expiresAt storedObject.retentionPolicy
      pure (some { descriptor,
                   storageRef := some ⟨kind,storedObject.uri,storedObject.sha256,storedObject.sizeBytes,
                     storedObject.contentType⟩,
                   storedObjectId := some storedObject.id, patchArtifactId := none })

def stableArtifactId (kind uri sha256 : String) : String :=
  kind ++ "_" ++ String.ofList ((Digest.sha256 (kind ++ "\x00" ++ uri ++ "\x00" ++ sha256)).toList.take 16)

def localInlineStoredObject (store : Store) (uri : String) : Read (Option CloudRunStoredObject) := do
  let storedObjectId ← parsed (localInlineObjectId uri)
  pure (storedObjectId.bind store.storedObjects.get)

def metadataRefSource (store : Store) (cloudRun : CloudRun) (kind : String) (uri sha256 : Option String)
    (sizeBytes : Option ℤ) (contentType : Option String) : Read (Option ArtifactSource) :=
  match uri, sha256, sizeBytes, contentType with
  | some uri, some sha256, some sizeBytes, some contentType => do
    if ← parsed (isLocalInlineUri uri) then
      match ← localInlineStoredObject store uri with
      | none => pure none
      | some storedObject =>
        if storedObject.workspaceId ≠ cloudRun.workspaceId ∨ storedObject.cloudRunId ≠ cloudRun.id ∨
            storedObject.kind ≠ kind then pure none
        else sourceFromStoredObject cloudRun storedObject
    else
      let provider ← parsed (providerNameFromUri uri)
      let descriptor ← descriptorRead cloudRun kind (stableArtifactId kind uri sha256) provider uri sha256
        sizeBytes contentType none none none
      pure (some { descriptor, storageRef := some ⟨kind,uri,sha256,sizeBytes,contentType⟩,
                   storedObjectId := none, patchArtifactId := none })
  | _, _, _, _ => pure none

def cloudRunMetadataRefSources (store : Store) (cloudRun : CloudRun) : Read (List ArtifactSource) := do
  let manifestSource ← metadataRefSource store cloudRun "manifest" cloudRun.artifactManifestUri
    cloudRun.artifactManifestSha256 cloudRun.artifactManifestSizeBytes cloudRun.artifactManifestContentType
  let logSource ← metadataRefSource store cloudRun "log" cloudRun.logStreamUri cloudRun.logStreamSha256
    cloudRun.logStreamSizeBytes cloudRun.logStreamContentType
  pure (manifestSource.toList ++ logSource.toList)

def patchArtifactDiffSource (store : Store) (cloudRun : CloudRun) : Read (Option ArtifactSource) :=
  match cloudRun.patchArtifactId.bind store.patchArtifacts.get with
  | none => pure none
  | some patchArtifact =>
    if patchArtifact.workspaceId ≠ cloudRun.workspaceId then pure none
    else if patchArtifact.taskId ≠ cloudRun.taskId then pure none
    else do
      let descriptor ← descriptorRead cloudRun "diff" s!"diff_{patchArtifact.id}" "patch_artifact"
        s!"patch-artifact://{patchArtifact.id}/diff" (Digest.sha256 patchArtifact.diffText)
        patchArtifact.diffText.utf8ByteSize "text/x-diff" (some patchArtifact.createdAt) none none
      pure (some { descriptor, storageRef := none, storedObjectId := none,
                   patchArtifactId := some patchArtifact.id })

def createdBefore (a b : CloudRunStoredObject) : Prop :=
  a.createdAt < b.createdAt ∨ (a.createdAt = b.createdAt ∧ a.id ≤ b.id)

instance : DecidableRel createdBefore := fun _ _ => inferInstanceAs (Decidable (_ ∨ _))

def runObjects (store : Store) (cloudRun : CloudRun) : List CloudRunStoredObject :=
  (store.storedObjects.rows.filter fun storedObject =>
    storedObject.cloudRunId = cloudRun.id ∧ storedObject.workspaceId = cloudRun.workspaceId).insertionSort
    createdBefore

structure Found where
  sources : List ArtifactSource
  seenUris : List String

def addStoredObjects (cloudRun : CloudRun) (found : Found) : List CloudRunStoredObject → Read Found
  | [] => pure found
  | storedObject :: rest => do
    match ← sourceFromStoredObject cloudRun storedObject with
    | none => addStoredObjects cloudRun found rest
    | some source =>
      addStoredObjects cloudRun ⟨found.sources ++ [source],storedObject.uri :: found.seenUris⟩ rest

def addSource (found : Found) (source : ArtifactSource) : Found :=
  if source.descriptor.uri ∈ found.seenUris then found
  else ⟨found.sources ++ [source],source.descriptor.uri :: found.seenUris⟩

-- A missing creation time sorts as the empty text.
def createdNoLater : Option Time → Option Time → Bool
  | none, _ => true
  | some _, none => false
  | some a, some b => a ≤ b

def listedBefore (a b : ArtifactSource) : Prop :=
  let order (source : ArtifactSource) := (artifactOrder.lookup source.descriptor.kind).getD 99
  order a < order b ∨ (order a = order b ∧ createdNoLater a.descriptor.createdAt b.descriptor.createdAt ∧
    (a.descriptor.createdAt = b.descriptor.createdAt → a.descriptor.id ≤ b.descriptor.id))

instance : DecidableRel listedBefore := fun _ _ => inferInstanceAs (Decidable (_ ∨ _))

def cloudRunArtifactSources (store : Store) (cloudRun : CloudRun) : Read (List ArtifactSource) := do
  let found ← addStoredObjects cloudRun ⟨[],[]⟩ (runObjects store cloudRun)
  let metadata ← cloudRunMetadataRefSources store cloudRun
  let sources := (metadata.foldl addSource found).sources
  if sources.any fun source => source.descriptor.kind = "diff" then
    pure (sources.insertionSort listedBefore)
  else
    let patchSource ← patchArtifactDiffSource store cloudRun
    pure ((sources ++ patchSource.toList).insertionSort listedBefore)

end listing

end AiScdc.ArtifactPlane
