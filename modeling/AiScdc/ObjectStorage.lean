import AiScdc.Sandbox
import AiScdc.WorkerCallback

namespace AiScdc

variable [Digest]

structure ObjectStorageWrite where
  workspaceId : Id
  cloudRunId : Id
  kind : ArtifactKind
  content : String

structure ObjectStorageRef where
  uri : ObjectUri
  sizeBytes : ℤ
  deriving DecidableEq, Repr

def putText (write : ObjectStorageWrite) (uri : Id → ObjectUri) (textContent : String) :
    Op ObjectStorageRef := do
  let objectId ← freshId
  insert (.storedObject objectId)
    { workspaceId := write.workspaceId, cloudRunId := write.cloudRunId, kind := write.kind,
      uri := uri objectId, sha256 := Digest.sha256 write.content,
      sizeBytes := write.content.utf8ByteSize, textContent }
  pure ⟨uri objectId,write.content.utf8ByteSize⟩

def putLocalInline (write : ObjectStorageWrite) : Op ObjectStorageRef :=
  putText write .localInline write.content

-- The upload to the bucket precedes the row, which keeps no text.
def putOss (write : ObjectStorageWrite) (path : String) : Op ObjectStorageRef :=
  putText write (fun _ => .oss path) ""

inductive OssReply where
  | content (text : String)
  | readError (detail : String)
  | raised (name : String)
  deriving DecidableEq, Repr

def uriScheme (uri : String) : String :=
  match uri.splitOn "://" with
  | scheme :: _ :: _ => if scheme = "" then "missing" else scheme
  | _ => "missing"

def readLocalInline (objectId : Id) (ref : ArtifactRef) : Op String := do
  match ← get (.storedObject objectId) with
  | none => httpError 400 "Object storage reference was not found"
  | some stored =>
    if stored.kind ≠ ref.kind then httpError 400 "Object storage reference kind mismatch"
    else if stored.sha256 ≠ ref.sha256 then
      httpError 400 "Object storage reference sha256 mismatch"
    else if stored.sizeBytes ≠ ref.sizeBytes then
      httpError 400 "Object storage reference size mismatch"
    else if Digest.sha256 stored.textContent ≠ ref.sha256 then
      httpError 400 "Object storage content sha256 mismatch"
    else if stored.textContent.utf8ByteSize ≠ ref.sizeBytes then
      httpError 400 "Object storage content size mismatch"
    else pure stored.textContent

def readOss (reply : OssReply) (ref : ArtifactRef) : Op String :=
  match reply with
  | .raised name => .throw (.unhandled name)
  | .readError detail => httpError 400 detail
  | .content text =>
    if Digest.sha256 text ≠ ref.sha256 then httpError 400 "Object storage content sha256 mismatch"
    else if text.utf8ByteSize ≠ ref.sizeBytes then
      httpError 400 "Object storage content size mismatch"
    else pure text

def readText (oss : ArtifactRef → OssReply) (ref : ArtifactRef) : Op String :=
  match ref.uri with
  | .localInline objectId => readLocalInline objectId ref
  | .oss _ => readOss (oss ref) ref
  | .other uri => httpError 400 s!"Unsupported object storage artifact URI scheme: {uriScheme uri}"

end AiScdc
