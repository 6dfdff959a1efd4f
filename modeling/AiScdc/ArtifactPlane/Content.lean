import AiScdc.ArtifactPlane.Sources

namespace AiScdc.ArtifactPlane

inductive StorageError where
  | providerNotFound (detail : String)
  | readError (detail : String)
  | configuration (detail : String)
  | raised (name : String)
  deriving DecidableEq, Repr

structure AliyunSettings where
  ossBucket : Option String
  ossPrefix : String
  deriving DecidableEq, Repr

structure AuthContext where
  workspaceId : String
  permitted : Bool
  deriving DecidableEq, Repr

-- What the request, the clock and the bucket give to one read.
structure Request where
  context : Option AuthContext
  expiryCheckedAt : Time
  scopeCheckedAt : Time
  aliyunSettings : Except String AliyunSettings
  getObjectText : String → String → Except StorageError String

structure CloudRunArtifactContentRead where
  artifact : CloudRunArtifactDescriptorRead
  content : String
  deriving DecidableEq, Repr

section storage

variable [UrlText] [Digest]

abbrev Stored (α : Type) := Except StorageError α

def readError {α : Type} (detail : String) : Stored α := .error (.readError detail)

def parsedRef (parsed : Option SplitResult) : Stored SplitResult :=
  match parsed with
  | some parsed => .ok parsed
  | none => .error (.raised "ValueError")

def validateArtifactKind (kind : String) : Stored Unit :=
  if kind ∈ ["diff","log","command_result","test_result","manifest"] then .ok ()
  else readError s!"Unsupported object storage artifact kind: {kind}"

def parseLocalInlineObjectId (uri : String) : Stored String := do
  let parsed ← parsedRef (urlparse uri)
  if String.ofList parsed.scheme ≠ "local-inline" then readError "Object storage reference scheme mismatch"
  else if String.ofList parsed.netloc ≠ "cloud-run-objects" then
    readError "Object storage reference authority mismatch"
  else
    match objectId parsed with
    | none => readError "Object storage reference object id missing"
    | some storedObjectId => pure storedObjectId

def checkContent (ref : ObjectStorageRef) (content : String) : Stored String :=
  if Digest.sha256 content ≠ ref.sha256 then readError "Object storage content sha256 mismatch"
  else if content.utf8ByteSize ≠ ref.sizeBytes then readError "Object storage content size mismatch"
  else pure content

def localInlineReadText (store : Store) (ref : ObjectStorageRef) : Stored String := do
  validateArtifactKind ref.kind
  let storedObjectId ← parseLocalInlineObjectId ref.uri
  match store.storedObjects.get storedObjectId with
  | none => readError "Object storage reference was not found"
  | some storedObject =>
    if storedObject.kind ≠ ref.kind then readError "Object storage reference kind mismatch"
    else if storedObject.sha256 ≠ ref.sha256 then readError "Object storage reference sha256 mismatch"
    else if storedObject.sizeBytes ≠ ref.sizeBytes then readError "Object storage reference size mismatch"
    else checkContent ref storedObject.textContent

def parseOssRef (uri : String) : Stored (String × String) := do
  let parsed ← parsedRef (urlparse uri)
  let objectKey := parsed.path.dropWhile (· = '/')
  if String.ofList parsed.scheme ≠ "oss" then readError "Object storage reference scheme mismatch"
  else if parsed.netloc = [] then readError "Object storage reference bucket missing"
  else if parsed.query ≠ [] ∨ parsed.fragment ≠ [] then
    readError "Object storage reference must not include query or fragment"
  else if objectKey = [] then readError "Object storage reference object key missing"
  else pure (String.ofList parsed.netloc,String.ofList objectKey)

def normalizedOssPrefix (ossPrefix : String) : List Char :=
  let stripped := ((ossPrefix.toList.dropWhile (· = '/')).reverse.dropWhile (· = '/')).reverse
  if stripped = [] then [] else stripped ++ ['/']

def aliyunOssReadText (request : Request) (ref : ObjectStorageRef) : Stored String := do
  let settings ← request.aliyunSettings.mapError .configuration
  validateArtifactKind ref.kind
  let (bucket,objectKey) ← parseOssRef ref.uri
  if settings.ossBucket ≠ some bucket then readError "Object storage reference bucket mismatch"
  else if ¬ normalizedOssPrefix settings.ossPrefix ++ "workspaces/".toList <+: objectKey.toList then
    readError "Object storage reference prefix mismatch"
  else if ¬ ('/' :: ref.kind.toList ++ ['/']) <:+: '/' :: objectKey.toList then
    readError "Object storage reference kind mismatch"
  else
    let content ← request.getObjectText bucket objectKey
    checkContent ref content

def readText (store : Store) (request : Request) (provider : String) (ref : ObjectStorageRef) :
    Stored String :=
  match provider with
  | "local_inline" => localInlineReadText store ref
  | "aliyun_oss" => aliyunOssReadText request ref
  | name => .error (.providerNotFound s!"Unknown object storage provider: {name}")

def StorageError.toExn : StorageError → Exn
  | .providerNotFound detail | .readError detail | .configuration detail => .http 400 detail
  | .raised name => .unhandled name

end storage

section reading

variable [UrlText] [Digest]

def enforceWorkspaceAccess (context : Option AuthContext) (workspaceId detail : String) : Read Unit :=
  match context with
  | some context => if workspaceId = context.workspaceId then .ok () else httpError 404 detail
  | none => .ok ()

def requireAuditedPermissionIfAuthenticated (context : Option AuthContext) : Read Unit :=
  match context with
  | some context => if context.permitted then .ok () else httpError 403 "Insufficient workspace role"
  | none => .ok ()

def getCloudRunOr404 (store : Store) (request : Request) (cloudRunId : String) : Read CloudRun :=
  match store.cloudRuns.get cloudRunId with
  | none => httpError 404 "Cloud run not found"
  | some cloudRun => do
    enforceWorkspaceAccess request.context cloudRun.workspaceId "Cloud run not found"
    pure cloudRun

def getCloudRunArtifactSourceForRun (store : Store) (cloudRun : CloudRun) (artifactId : String) :
    Read ArtifactSource := do
  let sources ← cloudRunArtifactSources store cloudRun
  match sources.find? fun source => source.descriptor.id = artifactId with
  | none => notFound
  | some source => pure source

def raiseIfExpired (now : Time) (expiresAt : Option Time) : Read Unit :=
  if expiresAt.any (· ≤ now) then httpError 410 "Cloud run artifact expired" else .ok ()

def readPatchArtifactDiff (store : Store) (cloudRun : CloudRun) (patchArtifactId : String) : Read String :=
  match store.patchArtifacts.get patchArtifactId with
  | none => notFound
  | some patchArtifact =>
    if some patchArtifact.id ≠ cloudRun.patchArtifactId then notFound
    else if patchArtifact.workspaceId ≠ cloudRun.workspaceId then notFound
    else if patchArtifact.taskId ≠ cloudRun.taskId then notFound
    else pure patchArtifact.diffText

def validateLocalInlineScope (store : Store) (cloudRun : CloudRun) (source : ArtifactSource)
    (ref : ObjectStorageRef) (now : Time) : Read Unit := do
  if ← parsed (isLocalInlineUri ref.uri) then
    match ← parsed (localInlineObjectId ref.uri) with
    | none => notFound
    | some targetObjectId =>
      if source.storedObjectId.any (targetObjectId ≠ ·) then notFound
      else
        match store.storedObjects.get targetObjectId with
        | none => notFound
        | some storedObject =>
          if storedObject.cloudRunId ≠ cloudRun.id ∨ storedObject.workspaceId ≠ cloudRun.workspaceId ∨
              storedObject.kind ≠ source.descriptor.kind then notFound
          else do
            raiseIfExpired now storedObject.expiresAt
            if storedObject.contentType ≠ ref.contentType then
              httpError 400 "Object storage reference content type mismatch"
            else pure ()
  else pure ()

def readCloudRunArtifactContent (store : Store) (request : Request) (cloudRunId artifactId : String) :
    Read CloudRunArtifactContentRead := do
  let cloudRun ← getCloudRunOr404 store request cloudRunId
  let source ← getCloudRunArtifactSourceForRun store cloudRun artifactId
  requireAuditedPermissionIfAuthenticated request.context
  raiseIfExpired request.expiryCheckedAt source.descriptor.expiresAt
  match source.patchArtifactId with
  | some patchArtifactId =>
    let content ← readPatchArtifactDiff store cloudRun patchArtifactId
    pure ⟨source.descriptor,content⟩
  | none =>
    match source.storageRef with
    | none => notFound
    | some ref =>
      validateLocalInlineScope store cloudRun source ref request.scopeCheckedAt
      let content ← (readText store request source.descriptor.provider ref).mapError StorageError.toExn
      pure ⟨source.descriptor,content⟩

end reading

end AiScdc.ArtifactPlane
