import Mathlib.Data.List.Lex
import Mathlib.Data.Prod.Lex
import Mathlib.Data.Int.Order.Basic
import AiScdc.ArtifactPlane.Uri
import AiScdc.Listing.Keyset
import AiScdc.Text.Base64Url
import AiScdc.Text.IsoDateTime
import AiScdc.Text.JsonText
import AiScdc.Text.Lines
import AiScdc.Text.Percent
import AiScdc.Text.Regex

namespace AiScdc.CloudRunLogs

open AiScdc.ArtifactPlane (UrlText urlsplit urlunsplit)
open CodePoints (codes isSurrogate)
open IsoDateTime (DateTime isoformat fromisoformat)
open TextLines (splitLines)
open TextRegex (Place Regex between ends sub)

inductive LogError where
  | http (status : ℕ) (detail : String)
  | unhandled
  deriving DecidableEq, Repr

structure CloudRunLogEntry where
  id : String
  cloudRunId : String
  level : String
  event : String
  message : String
  payload : Option String
  createdAt : DateTime
  deriving DecidableEq, Repr

structure CloudRun where
  id : String
  workspaceId : String
  createdAt : DateTime
  logStreamUri : Option String
  logStreamSha256 : Option String
  logStreamSizeBytes : Option ℤ
  logStreamContentType : Option String
  deriving DecidableEq, Repr

structure ObjectStorageRef where
  uri : String
  sha256 : String
  sizeBytes : ℤ
  contentType : String
  deriving DecidableEq, Repr

structure LogStore where
  runs : String → Option CloudRun
  entries : List CloudRunLogEntry
  ids : (entries.map CloudRunLogEntry.id).Nodup
  -- What a provider reads before it checks the size; `none` where it is missing or fails.
  stored : String → ObjectStorageRef → Option String

structure LogCaller where
  workspaceId : String
  permitted : Bool
  deriving DecidableEq, Repr

inductive LogSource where
  | controlPlane | logStream
  deriving DecidableEq, Repr

inductive WindowPayload where
  | entry (payload : Option String)
  | stream (line : ℕ) (uri : String)
  deriving DecidableEq, Repr

structure CloudRunLogWindowEntryRead where
  id : String
  cloudRunId : String
  source : LogSource
  level : String
  event : String
  message : String
  payload : WindowPayload
  createdAt : DateTime
  sequence : ℕ
  deriving DecidableEq, Repr

structure CloudRunLogWindowRead where
  entries : List CloudRunLogWindowEntryRead
  nextCursor : Option String
  hasMore : Bool
  deriving DecidableEq, Repr

section cursor

-- How many arrays and objects the interpreter can still open inside another one.
class Interpreter where
  nesting : ℕ

inductive LogWindowCursor where
  | controlPlane (createdAt : DateTime) (id : List ℕ)
  | logStream (streamLine : Option ℕ)
  deriving DecidableEq, Repr

def cursorFields (source createdAt id streamLine : JsonText.Scalar) : List (List ℕ × JsonText.Scalar) :=
  [(codes "source",source),(codes "created_at",createdAt),(codes "id",id),(codes "stream_line",streamLine)]

def encodeCursor (payload : List (List ℕ × JsonText.Scalar)) : String :=
  String.ofList (Base64Url.encode ((JsonText.dumps payload).map UInt8.ofNat))

def entryCursor (entry : CloudRunLogWindowEntryRead) : String :=
  match entry.source with
  | .logStream => encodeCursor
    (cursorFields (.str (codes "log_stream")) .null .null (.int (entry.sequence + 1)))
  | .controlPlane => encodeCursor
    (cursorFields (.str (codes "control_plane")) (.str (isoformat entry.createdAt))
      (.str (codes entry.id)) .null)

-- A JSON boolean is an `int` there.
def streamLineOf : JsonText.Value → Option (Option ℕ)
  | .null => some none
  | .bool b => some (some b.toNat)
  | .int n => if n < 0 then none else some (some n.toNat)
  | _ => none

def cursorFromPayload (payload : List (List ℕ × JsonText.Value)) : Option LogWindowCursor :=
  match JsonText.field payload "source" with
  | .str source =>
    if source = codes "control_plane" then
      match JsonText.field payload "created_at",JsonText.field payload "id" with
      | .str createdAt,.str id => (fromisoformat createdAt).map fun t => .controlPlane t id
      | _,_ => none
    else if source = codes "log_stream" then
      (streamLineOf (JsonText.field payload "stream_line")).map .logStream
    else none
  | _ => none

def matchesCursorPattern (text : List Char) : Bool :=
  text ≠ [] && text.all fun c => c ∈ Base64Url.alphabet

def cursorOfValue : JsonText.Value → Option LogWindowCursor
  | .object payload => cursorFromPayload payload
  | _ => none

variable [Interpreter]

def loadsCursor (text : List Char) : Except JsonText.Fault JsonText.Value :=
  match (if matchesCursorPattern text then Base64Url.decode text else none).bind Percent.utf8Strict with
  | some decoded => JsonText.loads (Interpreter.nesting + 1) (decoded.map Char.toNat)
  | none => .error .valueError

-- A `RecursionError` is not among the exceptions that are caught.
def decodeCursor : Option String → Except LogError (Option LogWindowCursor)
  | none => .ok none
  | some text =>
    match loadsCursor text.toList with
    | .error .recursionError => .error .unhandled
    | .error .valueError => .error (.http 400 "Invalid log cursor")
    | .ok value =>
      match cursorOfValue value with
      | some cursor => .ok (some cursor)
      | none => .error (.http 400 "Invalid log cursor")

end cursor

section redaction

-- What `str.isalnum` says of a character that is not ASCII.
class WordText where
  isAlnum : Char → Bool

def isWordChar [WordText] (c : Char) : Bool :=
  c = '_' || (if c.toNat < 128 then c.isAlphanum else WordText.isAlnum c)

-- A letter of a pattern that ignores case.
def sameLetter (letter c : Char) : Bool :=
  c.toLower = letter || (letter = 'i' && (c.toNat = 0x130 || c.toNat = 0x131)) ||
    (letter = 'k' && c.toNat = 0x212A) || (letter = 's' && c.toNat = 0x17F)

def isSecretKeyChar (c : Char) : Bool :=
  c.isAlphanum || c = '_' || c = '.' || c = '-' || c.toNat ∈ [0x130,0x131,0x17F,0x212A]

def isDash (c : Char) : Bool := c = '_' || c = '-'

def streamSecretName : Regex :=
  .oneOf [.seq (.word sameLetter "access") (.seq (.optional (.char isDash)) (.word sameLetter "token")),
    .word sameLetter "authorization",.word sameLetter "password",.word sameLetter "secret",
    .word sameLetter "token",
    .seq (.word sameLetter "api") (.seq (.optional (.char isDash)) (.word sameLetter "key"))]
    (.word sameLetter "sig")

def streamSecretKey : Regex :=
  .seq (.many isSecretKeyChar) (.seq streamSecretName (.many isSecretKeyChar))

def bearer : Regex := .seq (.word sameLetter "bearer") (.atLeastOne isSpace)

def streamSecretValue : Regex :=
  .seq .boundary (.seq (.many isSpace) (.seq (.char fun c => c = ':' || c = '=')
    (.seq (.many isSpace) (.seq (.optional bearer) (.atLeastOne fun c => !isSpace c)))))

def streamBearer : Regex := .seq .boundary (.seq bearer (.atLeastOne fun c => !isSpace c))

variable [WordText]

def redactSecret (start : Place) : Option (List Char × Place) :=
  (ends isWordChar (.seq .boundary streamSecretKey) start).findSome? fun stop =>
    (ends isWordChar streamSecretValue stop).head?.map fun last =>
      (between start stop ++ "=[redacted]".toList,last)

def redactBearer (start : Place) : Option (List Char × Place) :=
  (ends isWordChar streamBearer start).head?.map fun last => ("Bearer [redacted]".toList,last)

def redactStreamLine (line : String) : String :=
  String.ofList (sub redactBearer (sub redactSecret line.toList))

def redactUri [UrlText] (uri : String) : Option String :=
  (urlsplit uri).map fun parsed => String.ofList (urlunsplit parsed.scheme parsed.netloc parsed.path)

end redaction

section sources

def position (entry : CloudRunLogEntry) : DateTime ×ₗ List ℕ := toLex (entry.createdAt,codes entry.id)

def isAfter (createdAt : DateTime) (id : List ℕ) (entry : CloudRunLogEntry) : Bool :=
  createdAt < entry.createdAt || (entry.createdAt = createdAt && id < codes entry.id)

def logWindowEntryRead (entry : CloudRunLogEntry) (sequence : ℕ) : CloudRunLogWindowEntryRead where
  id := entry.id
  cloudRunId := entry.cloudRunId
  source := .controlPlane
  level := entry.level
  event := entry.event
  message := entry.message
  payload := .entry entry.payload
  createdAt := entry.createdAt
  sequence := sequence

def selectedRows (store : LogStore) (run : CloudRun) (cursor : Option LogWindowCursor) :
    List CloudRunLogEntry :=
  let rows := store.entries.filter fun entry => entry.cloudRunId = run.id
  match cursor with
  | some (.controlPlane createdAt id) => rows.filter (isAfter createdAt id)
  | _ => rows

-- The database is given no text with a lone surrogate.
def queryFails : Option LogWindowCursor → Bool
  | some (.controlPlane _ id) => id.any isSurrogate
  | _ => false

def controlPlaneEntries (store : LogStore) (run : CloudRun) (cursor : Option LogWindowCursor)
    (limit : ℕ) : Except LogError (List CloudRunLogWindowEntryRead) :=
  match cursor with
  | some (.logStream _) => .ok []
  | _ =>
    if queryFails cursor then .error .unhandled
    else .ok (((Listing.ordered position (selectedRows store run cursor)).take limit).zipIdx.map
      fun found => logWindowEntryRead found.1 found.2)

def logStreamRef (run : CloudRun) : Option ObjectStorageRef := do
  return ⟨← run.logStreamUri,← run.logStreamSha256,← run.logStreamSizeBytes,← run.logStreamContentType⟩

variable [UrlText] [WordText]

def maxLogStreamReadBytes : ℤ := 1024 * 1024

def objectStorageProviderName (uri : String) : Except LogError (Option String) :=
  match urlsplit uri with
  | none => .error .unhandled
  | some parts =>
    if parts.scheme = "local-inline".toList then .ok (some "local_inline")
    else if parts.scheme = "oss".toList then .ok (some "aliyun_oss")
    else .ok none

def LogStore.readText (store : LogStore) (provider : String) (ref : ObjectStorageRef) : Option String :=
  (store.stored provider ref).filter fun text => text.utf8ByteSize = ref.sizeBytes

-- The text of a stream that can be read, under the address it is shown with.
def readStream (store : LogStore) (run : CloudRun) : Except LogError (Option (String × String)) :=
  match logStreamRef run with
  | none => .ok none
  | some ref =>
    if ref.sizeBytes > maxLogStreamReadBytes then .ok none
    else match objectStorageProviderName ref.uri with
      | .error e => .error e
      | .ok none => .ok none
      | .ok (some provider) =>
        match store.readText provider ref,redactUri ref.uri with
        | none,_ => .ok none
        | some _,none => .error .unhandled
        | some text,some redactedUri => .ok (some (redactedUri,text))

def streamEntryRead (run : CloudRun) (redactedUri line : String) (lineNumber : ℕ) :
    CloudRunLogWindowEntryRead where
  id := s!"{run.id}:log-stream:{lineNumber}"
  cloudRunId := run.id
  source := .logStream
  level := "info"
  event := "log_stream"
  message := redactStreamLine line
  payload := .stream (lineNumber + 1) redactedUri
  createdAt := run.createdAt
  sequence := lineNumber

def startLine : Option LogWindowCursor → ℕ
  | some (.logStream line) => line.getD 0
  | _ => 0

def logStreamEntries (store : LogStore) (run : CloudRun) (cursor : Option LogWindowCursor)
    (limit : ℕ) : Except LogError (List CloudRunLogWindowEntryRead) :=
  if limit = 0 then .ok []
  else match readStream store run with
    | .error e => .error e
    | .ok none => .ok []
    | .ok (some (uri,text)) =>
      .ok ((((splitLines text).zipIdx.filter fun found => startLine cursor ≤ found.2).map
        fun found => streamEntryRead run uri found.1 found.2).take limit)

end sources

section window

variable [Interpreter] [UrlText] [WordText]

def findRun (store : LogStore) (caller : Option LogCaller) (cloudRunId : String) :
    Except LogError CloudRun :=
  match store.runs cloudRunId with
  | none => .error (.http 404 "Cloud run not found")
  | some run =>
    match caller with
    | none => .ok run
    | some caller =>
      if run.workspaceId ≠ caller.workspaceId then .error (.http 404 "Cloud run not found")
      else if !caller.permitted then .error (.http 403 "Insufficient workspace role")
      else .ok run

def closeWindow (limit : ℕ) (entries : List CloudRunLogWindowEntryRead) : CloudRunLogWindowRead :=
  if entries.length > limit then
    { entries := entries.take limit
      nextCursor := (entries.take limit).getLast?.map entryCursor
      hasMore := true }
  else { entries := entries, nextCursor := none, hasMore := false }

def windowFrom (store : LogStore) (run : CloudRun) (cursor : Option LogWindowCursor) (limit : ℕ)
    (includeStream : Bool) : Except LogError CloudRunLogWindowRead :=
  match controlPlaneEntries store run cursor (limit + 1) with
  | .error e => .error e
  | .ok entries =>
    if includeStream && entries.length ≤ limit then
      match logStreamEntries store run cursor (limit + 1 - entries.length) with
      | .error e => .error e
      | .ok lines => .ok (closeWindow limit (entries ++ lines))
    else .ok (closeWindow limit entries)

def listCloudRunLogWindow (store : LogStore) (caller : Option LogCaller) (cloudRunId : String)
    (after : Option String) (limit : ℕ) (includeStream : Bool) :
    Except LogError CloudRunLogWindowRead :=
  match findRun store caller cloudRunId with
  | .error e => .error e
  | .ok run =>
    match decodeCursor after with
    | .error e => .error e
    | .ok cursor => windowFrom store run cursor limit includeStream

end window

end AiScdc.CloudRunLogs
