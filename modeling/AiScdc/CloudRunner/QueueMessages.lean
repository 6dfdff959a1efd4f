import AiScdc.CloudRunner.Enqueue
import AiScdc.Guards
import AiScdc.Text.IsoDateTime

namespace AiScdc

-- A document as json.loads returns it; a number is its literal.
inductive Json where
  | null
  | bool (b : Bool)
  | number (literal : String)
  | string (s : String)
  | array (items : List Json)
  | object (fields : List (String × Json))

namespace Json

def get (fields : List (String × Json)) (field : String) : Json := (fields.lookup field).getD .null

def ofOption : Option String → Json
  | none => .null
  | some s => .string s

def isNonEmptyString : Json → Prop
  | .string s => s ≠ ""
  | _ => False

end Json

-- datetime.isoformat of a time in UTC.
def utcIsoformat (t : Time) : String :=
  let date := civilDate (t / dayMicroseconds)
  let clock := (t % dayMicroseconds).toNat
  let codes := IsoDateTime.dateText date.year.toNat date.month.toNat date.day.toNat ++ 84 ::
    IsoDateTime.timeText (clock / 3600000000) (clock / 60000000 % 60) (clock / 1000000 % 60) (clock % 1000000)
  String.ofList (codes.map Char.ofNat) ++ "+00:00"

theorem utcIsoformat_ne_empty (t : Time) : utcIsoformat t ≠ "" := by
  simp [utcIsoformat]

def QueueProvider.text : QueueProvider → String
  | .localDb => "local_db"
  | .externalStub => "external_stub"
  | .aliyunMns => "aliyun_mns"
  | .other name => name

def RuntimeProvider.text : RuntimeProvider → String
  | .remoteStub => "remote_stub"
  | .aliyunEci => "aliyun_eci"
  | .other name => name

def StorageProvider.text : StorageProvider → String
  | .localInline => "local_inline"
  | .aliyunOss => "aliyun_oss"
  | .other name => name

structure CloudQueueEnqueueRequest where
  workspaceId : String
  projectId : String
  taskId : String
  cloudRunId : String
  queueProvider : String
  runtimeProvider : Option String
  storageProvider : Option String
  workerId : Option String
  callbackToken : Option String
  callbackTokenExpiresAt : Option String

structure CloudQueueReceivedMessage where
  queueMessageId : String
  queueReceipt : String
  workspaceId : String
  projectId : String
  taskId : String
  cloudRunId : String
  queueProvider : String
  runtimeProvider : Option String
  storageProvider : String
  workerId : String
  callbackToken : String
  callbackTokenExpiresAt : String
  deriving DecidableEq, Repr

-- The request that enqueue_cloud_run makes of the row it has read back, at the time now.
def cloudQueueEnqueueRequest (data : CloudRunCreate) (callbackToken : String)
    (cloudRunId : Id) (cloudRun : CloudRun) (now : Time) : CloudQueueEnqueueRequest where
  workspaceId := s!"workspace_{cloudRun.workspaceId}"
  projectId := s!"project_{cloudRun.projectId}"
  taskId := s!"task_{cloudRun.taskId}"
  cloudRunId := cloudRunText cloudRunId
  queueProvider := cloudRun.queueProvider.text
  runtimeProvider := cloudRun.runtimeProvider.map RuntimeProvider.text
  storageProvider := cloudRun.storageProvider.map StorageProvider.text
  workerId := protectedWorkerId data cloudRunId
  callbackToken := (protectedWorkerId data cloudRunId).map fun _ => callbackToken
  callbackTokenExpiresAt :=
    (protectedWorkerId data cloudRunId).map fun _ => utcIsoformat (now + callbackTokenLifetime)

def workerFields : Option String → Option String → Option String → List (String × Json)
  | some workerId, some callbackToken, some expiresAt =>
    if workerId ≠ "" ∧ callbackToken ≠ "" ∧ expiresAt ≠ "" then
      [("worker_id",.string workerId),("callback_token",.string callbackToken),
        ("callback_token_expires_at",.string expiresAt)]
    else []
  | _, _, _ => []

def messageBody (request : CloudQueueEnqueueRequest) : List (String × Json) :=
  [("workspace_id",.string request.workspaceId),("project_id",.string request.projectId),
    ("task_id",.string request.taskId),("cloud_run_id",.string request.cloudRunId),
    ("queue_provider",.string request.queueProvider),
    ("runtime_provider",.ofOption request.runtimeProvider),
    ("storage_provider",.ofOption request.storageProvider)] ++
    workerFields request.workerId request.callbackToken request.callbackTokenExpiresAt

def nonEmptyString (field : String) : Json → Except String String
  | .string s =>
    if s = "" then .error s!"invalid MNS message: field {field} must be a non-empty string" else .ok s
  | _ => .error s!"invalid MNS message: field {field} must be a non-empty string"

def runtimeProviderField : Json → Except String (Option String)
  | .null => .ok none
  | .string s => .ok (some s)
  | _ => .error "invalid MNS message: field runtime_provider must be a string or null"

def requiredFields : List String :=
  ["workspace_id","project_id","task_id","cloud_run_id","queue_provider","storage_provider","worker_id",
    "callback_token","callback_token_expires_at"]

def parseMessageFields (queueMessageId queueReceipt : String) (fields : List (String × Json)) :
    Except String CloudQueueReceivedMessage := do
  let workspaceId ← nonEmptyString "workspace_id" (Json.get fields "workspace_id")
  let projectId ← nonEmptyString "project_id" (Json.get fields "project_id")
  let taskId ← nonEmptyString "task_id" (Json.get fields "task_id")
  let cloudRunId ← nonEmptyString "cloud_run_id" (Json.get fields "cloud_run_id")
  let queueProvider ← nonEmptyString "queue_provider" (Json.get fields "queue_provider")
  let storageProvider ← nonEmptyString "storage_provider" (Json.get fields "storage_provider")
  let workerId ← nonEmptyString "worker_id" (Json.get fields "worker_id")
  let callbackToken ← nonEmptyString "callback_token" (Json.get fields "callback_token")
  let callbackTokenExpiresAt ←
    nonEmptyString "callback_token_expires_at" (Json.get fields "callback_token_expires_at")
  let runtimeProvider ← runtimeProviderField (Json.get fields "runtime_provider")
  pure { queueMessageId, queueReceipt, workspaceId, projectId, taskId, cloudRunId, queueProvider,
         runtimeProvider, storageProvider, workerId, callbackToken, callbackTokenExpiresAt }

def parseMnsReceivedMessage (queueMessageId queueReceipt payload : Json) :
    Except String CloudQueueReceivedMessage := do
  let messageId ← nonEmptyString "message_id" queueMessageId
  let receipt ← nonEmptyString "receipt_handle" queueReceipt
  match payload with
  | .object fields => parseMessageFields messageId receipt fields
  | _ => .error "invalid MNS message: body is not an object"

-- A message as the service hands it over; no payload where the body is not JSON.
structure MnsReceivedMessage where
  messageId : Json
  receiptHandle : Json
  payload : Option Json

def receiveMnsMessage : Option MnsReceivedMessage → Except String (Option CloudQueueReceivedMessage)
  | none => .ok none
  | some received =>
    match received.payload with
    | none => .error "invalid MNS message: body is not JSON"
    | some payload =>
      (parseMnsReceivedMessage received.messageId received.receiptHandle payload).map some

section fields

theorem nonEmptyString_eq_ok {field s : String} {j : Json} :
    nonEmptyString field j = .ok s ↔ j = .string s ∧ s ≠ "" := by
  cases j with
  | string s' =>
    by_cases hs' : s' = ""
    · simp only [nonEmptyString,if_pos hs',reduceCtorEq,Json.string.injEq,false_iff,not_and,not_not]
      rintro rfl
      exact hs'
    · simp only [nonEmptyString,if_neg hs',Except.ok.injEq,Json.string.injEq]
      constructor
      · rintro rfl
        exact ⟨rfl,hs'⟩
      · rintro ⟨rfl,_⟩
        rfl
  | _ => simp [nonEmptyString]

theorem nonEmptyString_string {field s : String} (h : s ≠ "") :
    nonEmptyString field (.string s) = .ok s := nonEmptyString_eq_ok.mpr ⟨rfl,h⟩

theorem runtimeProviderField_ofOption (o : Option String) :
    runtimeProviderField (.ofOption o) = .ok o := by cases o <;> rfl

def wellFormed (fields : List (String × Json)) : Prop :=
  ∀ field ∈ requiredFields, (Json.get fields field).isNonEmptyString

theorem parseMessageFields_ok {messageId receipt : String} {fields : List (String × Json)}
    {m : CloudQueueReceivedMessage} (h : parseMessageFields messageId receipt fields = .ok m) :
    wellFormed fields ∧ Json.get fields "queue_provider" = .string m.queueProvider := by
  simp only [parseMessageFields,bind_eq_ok,nonEmptyString_eq_ok] at h
  obtain ⟨_,⟨h₁,n₁⟩,_,⟨h₂,n₂⟩,_,⟨h₃,n₃⟩,_,⟨h₄,n₄⟩,q,⟨h₅,n₅⟩,_,⟨h₆,n₆⟩,_,⟨h₇,n₇⟩,_,⟨h₈,n₈⟩,_,⟨h₉,n₉⟩,_,_,hm⟩ := h
  cases hm
  refine ⟨fun field hfield => ?_,h₅⟩
  simp only [requiredFields,List.mem_cons,List.not_mem_nil,or_false] at hfield
  rcases hfield with rfl | rfl | rfl | rfl | rfl | rfl | rfl | rfl | rfl
  all_goals simp only [h₁,h₂,h₃,h₄,h₅,h₆,h₇,h₈,h₉,Json.isNonEmptyString]; assumption

theorem parse_ok {queueMessageId queueReceipt payload : Json} {m : CloudQueueReceivedMessage}
    (h : parseMnsReceivedMessage queueMessageId queueReceipt payload = .ok m) :
    ∃ fields, payload = .object fields ∧ wellFormed fields ∧
      Json.get fields "queue_provider" = .string m.queueProvider := by
  simp only [parseMnsReceivedMessage,bind_eq_ok] at h
  obtain ⟨messageId,_,receipt,_,h⟩ := h
  cases payload with
  | object fields => exact ⟨fields,rfl,parseMessageFields_ok h⟩
  | _ => cases h

end fields

section sending

def receivedMessage (messageId receipt workerId callbackToken expiresAt storageProvider : String)
    (request : CloudQueueEnqueueRequest) : CloudQueueReceivedMessage :=
  ⟨messageId,receipt,request.workspaceId,request.projectId,request.taskId,request.cloudRunId,
    request.queueProvider,request.runtimeProvider,storageProvider,workerId,callbackToken,expiresAt⟩

theorem parse_messageBody {request : CloudQueueEnqueueRequest}
    {messageId receipt workerId callbackToken expiresAt storageProvider : String}
    (hids : request.workspaceId ≠ "" ∧ request.projectId ≠ "" ∧ request.taskId ≠ "" ∧
      request.cloudRunId ≠ "" ∧ request.queueProvider ≠ "")
    (hmessage : messageId ≠ "") (hreceipt : receipt ≠ "")
    (hworker : request.workerId = some workerId) (hw : workerId ≠ "")
    (htoken : request.callbackToken = some callbackToken) (ht : callbackToken ≠ "")
    (hexpires : request.callbackTokenExpiresAt = some expiresAt) (he : expiresAt ≠ "")
    (hstorage : request.storageProvider = some storageProvider) (hs : storageProvider ≠ "") :
    parseMnsReceivedMessage (.string messageId) (.string receipt) (.object (messageBody request)) =
      .ok (receivedMessage messageId receipt workerId callbackToken expiresAt storageProvider request) := by
  obtain ⟨hworkspace,hproject,htask,hrun,hqueue⟩ := hids
  have hfields : workerFields request.workerId request.callbackToken request.callbackTokenExpiresAt =
      [("worker_id",.string workerId),("callback_token",.string callbackToken),
        ("callback_token_expires_at",.string expiresAt)] := by
    rw [hworker,htoken,hexpires]
    exact if_pos ⟨hw,ht,he⟩
  have hget (field : String) : Json.get (messageBody request) field =
      ((([("workspace_id",Json.string request.workspaceId),("project_id",.string request.projectId),
        ("task_id",.string request.taskId),("cloud_run_id",.string request.cloudRunId),
        ("queue_provider",.string request.queueProvider),
        ("runtime_provider",.ofOption request.runtimeProvider),
        ("storage_provider",.string storageProvider),("worker_id",.string workerId),
        ("callback_token",.string callbackToken),
        ("callback_token_expires_at",.string expiresAt)] : List (String × Json)).lookup field).getD .null) := by
    rw [Json.get,messageBody,hfields,hstorage]
    rfl
  have hobject : parseMessageFields messageId receipt (messageBody request) =
      .ok (receivedMessage messageId receipt workerId callbackToken expiresAt storageProvider request) := by
    simp [parseMessageFields,hget,List.lookup_cons,nonEmptyString_string,runtimeProviderField_ofOption,
      hworkspace,hproject,htask,hrun,hqueue,hw,ht,he,hs,receivedMessage,bind,Except.bind,pure,Except.pure]
  simp [parseMnsReceivedMessage,nonEmptyString_string,hmessage,hreceipt,hobject,bind,Except.bind]

def delivers (request : CloudQueueEnqueueRequest) (m : CloudQueueReceivedMessage) : Prop :=
  m.cloudRunId = request.cloudRunId ∧ m.taskId = request.taskId ∧ m.projectId = request.projectId ∧
    m.workspaceId = request.workspaceId ∧ some m.workerId = request.workerId ∧
    some m.callbackToken = request.callbackToken ∧
    some m.callbackTokenExpiresAt = request.callbackTokenExpiresAt ∧
    m.queueProvider = request.queueProvider ∧ m.runtimeProvider = request.runtimeProvider ∧
    some m.storageProvider = request.storageProvider

variable {data : CloudRunCreate} {replies : EnqueueReplies}

theorem orHttp400_eq_pure {x : Except String Unit} {m : Op Unit} (h : (do orHttp400 x; m) = pure ()) :
    x = .ok () ∧ m = pure () := by
  cases x with
  | error detail => cases h
  | ok a => exact ⟨rfl,h⟩

theorem accepted_providers (hq : data.queueProvider = .aliyunMns)
    (h : validateCloudRunProviderSelection data replies = pure ()) :
    getObjectStorageProvider data.storageProvider = .ok () ∧
      getRemoteRuntimeProvider data.runtimeProvider = .ok () ∧
      (data.runtimeProvider = none → data.storageProvider ≠ none) := by
  unfold validateCloudRunProviderSelection at h
  split at h
  · cases h
  · rename_i hnone
    obtain ⟨_,h⟩ := orHttp400_eq_pure h
    obtain ⟨hstorage,h⟩ := orHttp400_eq_pure h
    obtain ⟨hruntime,_⟩ := orHttp400_eq_pure h
    exact ⟨hstorage,hruntime,fun hr hs => hnone ⟨hq,hr,hs⟩⟩

theorem protected_worker (hq : data.queueProvider = .aliyunMns)
    (hruntime : getRemoteRuntimeProvider data.runtimeProvider = .ok ()) (cloudRunId : Id) :
    ∃ workerId, protectedWorkerId data cloudRunId = some workerId ∧ workerId ≠ "" := by
  have hne (p : String) (hp : p ≠ "") : p ++ cloudRunText cloudRunId ≠ "" := by
    simp [hp]
  unfold protectedWorkerId
  cases hr : data.runtimeProvider with
  | none =>
    rw [if_pos hq]
    exact ⟨_,rfl,hne "aliyun-mns-" (by decide)⟩
  | some p =>
    cases p with
    | aliyunEci => exact ⟨_,rfl,hne "aliyun-eci-" (by decide)⟩
    | remoteStub => exact ⟨_,rfl,hne "remote_stub-" (by decide)⟩
    | other name =>
      rw [hr] at hruntime
      cases hruntime

theorem storage_text {p : StorageProvider} (h : getObjectStorageProvider (some p) = .ok ()) :
    p.text ≠ "" := by
  cases p with
  | other name => cases h
  | _ => decide

end sending

-- No statement after the insert writes the providers of a run.
structure CloudRun.EnqueuedFor (cloudRun : CloudRun) (data : CloudRunCreate) : Prop where
  queueProvider : cloudRun.queueProvider = data.queueProvider
  runtimeProvider : cloudRun.runtimeProvider = data.runtimeProvider
  storageProvider : cloudRun.storageProvider = data.storageProvider

-- The row that enqueue_cloud_run reads back before it sends the message.
def protectedCloudRun (task : Task) (taskId : Id) (repository : Repository) (data : CloudRunCreate)
    (sandboxKind : String) (reservationId : Id) (reservedCents : ℤ) (createdAt : Time)
    (headBranch : String) (localRunId : Id) (updatedAt : Time) (workerId tokenHash : String)
    (expiresAt : Time) : CloudRun :=
  ((newCloudRun task taskId repository data sandboxKind reservationId reservedCents createdAt).linked
    headBranch localRunId updatedAt).guarded workerId tokenHash expiresAt

theorem protectedCloudRun_enqueuedFor (task : Task) (taskId : Id) (repository : Repository)
    (data : CloudRunCreate) (sandboxKind : String) (reservationId : Id) (reservedCents : ℤ)
    (createdAt : Time) (headBranch : String) (localRunId : Id) (updatedAt : Time)
    (workerId tokenHash : String) (expiresAt : Time) :
    (protectedCloudRun task taskId repository data sandboxKind reservationId reservedCents createdAt
      headBranch localRunId updatedAt workerId tokenHash expiresAt).EnqueuedFor data :=
  ⟨rfl,rfl,rfl⟩

-- What the service hands over of the message that it was sent for the request.
def redelivered (messageId receipt : String) (request : CloudQueueEnqueueRequest) : MnsReceivedMessage :=
  ⟨.string messageId,.string receipt,some (.object (messageBody request))⟩

def declaresMns (payload : Json) : Prop :=
  ∃ fields, payload = .object fields ∧ Json.get fields "queue_provider" = .string "aliyun_mns"

section agreement

variable {data : CloudRunCreate} {replies : EnqueueReplies} {cloudRun : CloudRun}
  {cloudRunId : Id} {now : Time} {messageId receipt : String}

theorem stored_message_delivered (hq : data.queueProvider = .aliyunMns)
    (hvalid : validateCloudRunProviderSelection data replies = pure ()) (hrow : cloudRun.EnqueuedFor data)
    (htoken : replies.callbackToken ≠ "") (hmessage : messageId ≠ "") (hreceipt : receipt ≠ "")
    {p : StorageProvider} (hstored : data.storageProvider = some p) :
    ∃ m, receiveMnsMessage (some (redelivered messageId receipt
        (cloudQueueEnqueueRequest data replies.callbackToken cloudRunId cloudRun now))) = .ok (some m) ∧
      delivers (cloudQueueEnqueueRequest data replies.callbackToken cloudRunId cloudRun now) m := by
  obtain ⟨hstorage,hruntime,_⟩ := accepted_providers hq hvalid
  obtain ⟨workerId,hworker,hw⟩ := protected_worker hq hruntime cloudRunId
  rw [hstored] at hstorage
  have hp : (cloudQueueEnqueueRequest data replies.callbackToken cloudRunId cloudRun now).storageProvider =
      some p.text := by simp [cloudQueueEnqueueRequest,hrow.storageProvider,hstored]
  have hqueue : cloudRun.queueProvider.text ≠ "" := by
    rw [hrow.queueProvider,hq]
    decide
  have htoken' : (cloudQueueEnqueueRequest data replies.callbackToken cloudRunId cloudRun now).callbackToken =
      some replies.callbackToken := by simp [cloudQueueEnqueueRequest,hworker]
  have hexpires : (cloudQueueEnqueueRequest data replies.callbackToken cloudRunId cloudRun
      now).callbackTokenExpiresAt = some (utcIsoformat (now + callbackTokenLifetime)) := by
    simp [cloudQueueEnqueueRequest,hworker]
  have hparse := parse_messageBody
    ⟨by simp [cloudQueueEnqueueRequest],by simp [cloudQueueEnqueueRequest],
      by simp [cloudQueueEnqueueRequest],by simp [cloudQueueEnqueueRequest,cloudRunText],hqueue⟩
    hmessage hreceipt hworker hw htoken' htoken hexpires (utcIsoformat_ne_empty _) hp
    (storage_text hstorage)
  refine ⟨receivedMessage messageId receipt workerId replies.callbackToken
    (utcIsoformat (now + callbackTokenLifetime)) p.text
    (cloudQueueEnqueueRequest data replies.callbackToken cloudRunId cloudRun now),?_,?_⟩
  · simp only [receiveMnsMessage,redelivered,hparse,Except.map]
  · exact ⟨rfl,rfl,rfl,rfl,hworker.symm,htoken'.symm,hexpires.symm,rfl,rfl,hp.symm⟩

theorem unstored_message_refused (hrow : cloudRun.EnqueuedFor data) (hnone : data.storageProvider = none)
    {m : CloudQueueReceivedMessage} :
    receiveMnsMessage (some (redelivered messageId receipt
      (cloudQueueEnqueueRequest data replies.callbackToken cloudRunId cloudRun now))) ≠ .ok (some m) := by
  intro h
  have hparse : parseMnsReceivedMessage (.string messageId) (.string receipt) (.object (messageBody
      (cloudQueueEnqueueRequest data replies.callbackToken cloudRunId cloudRun now))) = .ok m := by
    simp only [receiveMnsMessage,redelivered] at h
    cases hp : parseMnsReceivedMessage (.string messageId) (.string receipt) (.object (messageBody
        (cloudQueueEnqueueRequest data replies.callbackToken cloudRunId cloudRun now))) with
    | error e =>
      rw [hp] at h
      cases h
    | ok m' =>
      rw [hp] at h
      cases h
      rfl
  obtain ⟨fields,hfields,hwell,_⟩ := parse_ok hparse
  cases hfields
  have hstorage := hwell "storage_provider" (by decide)
  simp [Json.get,messageBody,cloudQueueEnqueueRequest,hrow.storageProvider,hnone,List.lookup_cons,
    Json.ofOption,Json.isNonEmptyString] at hstorage

theorem delivered_iff (hq : data.queueProvider = .aliyunMns)
    (hvalid : validateCloudRunProviderSelection data replies = pure ()) (hrow : cloudRun.EnqueuedFor data)
    (htoken : replies.callbackToken ≠ "") (hmessage : messageId ≠ "") (hreceipt : receipt ≠ "") :
    (∃ m, receiveMnsMessage (some (redelivered messageId receipt
          (cloudQueueEnqueueRequest data replies.callbackToken cloudRunId cloudRun now))) = .ok (some m) ∧
        delivers (cloudQueueEnqueueRequest data replies.callbackToken cloudRunId cloudRun now) m) ↔
      data.storageProvider ≠ none := by
  constructor
  · rintro ⟨m,hm,_⟩ hnone
    exact unstored_message_refused hrow hnone hm
  · intro hstored
    obtain ⟨p,hp⟩ := Option.ne_none_iff_exists'.mp hstored
    exact stored_message_delivered hq hvalid hrow htoken hmessage hreceipt hp

theorem accepted_message_declares {queueMessageId queueReceipt payload : Json} {m : CloudQueueReceivedMessage}
    (hm : parseMnsReceivedMessage queueMessageId queueReceipt payload = .ok m) :
    (m.queueProvider = "aliyun_mns" ∧ ∃ fields, payload = .object fields ∧ wellFormed fields) ↔
      declaresMns payload := by
  obtain ⟨fields,rfl,hwell,hqueue⟩ := parse_ok hm
  constructor
  · rintro ⟨hmns,_⟩
    exact ⟨fields,rfl,by rw [hqueue,hmns]⟩
  · rintro ⟨fields',heq,hdeclares⟩
    cases heq
    rw [hqueue,Json.string.injEq] at hdeclares
    exact ⟨hdeclares,fields,rfl,hwell⟩

theorem queue_messages_agree (messageId receipt : String) :
    (∀ (data : CloudRunCreate) (replies : EnqueueReplies) (cloudRun : CloudRun) (cloudRunId : Id)
        (now : Time), data.queueProvider = .aliyunMns →
        validateCloudRunProviderSelection data replies = pure () →
        shouldEnqueueCloudQueueMessage data = true → cloudRun.EnqueuedFor data →
        replies.callbackToken ≠ "" → messageId ≠ "" → receipt ≠ "" →
        ((∃ m, receiveMnsMessage (some (redelivered messageId receipt
              (cloudQueueEnqueueRequest data replies.callbackToken cloudRunId cloudRun now))) =
              .ok (some m) ∧
            delivers (cloudQueueEnqueueRequest data replies.callbackToken cloudRunId cloudRun now) m) ↔
          data.storageProvider ≠ none)) ∧
      (∀ (task : Task) (taskId : Id) (repository : Repository) (data : CloudRunCreate)
        (sandboxKind : String) (reservationId : Id) (reservedCents : ℤ) (createdAt : Time)
        (headBranch : String) (localRunId : Id) (updatedAt : Time) (workerId tokenHash : String)
        (expiresAt : Time), (protectedCloudRun task taskId repository data sandboxKind reservationId
          reservedCents createdAt headBranch localRunId updatedAt workerId tokenHash
          expiresAt).EnqueuedFor data) ∧
      ∀ (queueMessageId queueReceipt payload : Json) (m : CloudQueueReceivedMessage),
        parseMnsReceivedMessage queueMessageId queueReceipt payload = .ok m →
        ((m.queueProvider = "aliyun_mns" ∧ ∃ fields, payload = .object fields ∧ wellFormed fields) ↔
          declaresMns payload) := by
  refine ⟨?_,protectedCloudRun_enqueuedFor,fun _ _ _ _ hm => accepted_message_declares hm⟩
  intro data replies cloudRun cloudRunId now hq hvalid _ hrow htoken hmessage hreceipt
  exact delivered_iff hq hvalid hrow htoken hmessage hreceipt

end agreement

def samplePull (runtimeProvider : Option RuntimeProvider) (storageProvider : Option StorageProvider) :
    CloudRunCreate := ⟨1,some 2,.aliyunMns,runtimeProvider,storageProvider⟩

def samplePullReplies : EnqueueReplies :=
  ⟨"docker_local",.ok (),.ok (),.ok (),.ok (),"token",.sent (some "message"),.refused,""⟩

def samplePullRun (data : CloudRunCreate) : CloudRun :=
  protectedCloudRun ⟨3,.created,none,none,none,0,"task",[],[]⟩ 4
    ⟨1,3,"github","active","main","",none,none,none⟩ data "docker_local" 5 0 0 "branch" 7 0
    "aliyun-mns-cloud_run_6" "hash" callbackTokenLifetime

def samplePullRequest (data : CloudRunCreate) : CloudQueueEnqueueRequest :=
  cloudQueueEnqueueRequest data "token" 6 (samplePullRun data) 0

theorem queue_messages_agree_oss :
    ∃ m, receiveMnsMessage (some (redelivered "message" "receipt" (cloudQueueEnqueueRequest
        (samplePull none (some .aliyunOss)) "token" 6 (samplePullRun (samplePull none (some .aliyunOss)))
        0))) = .ok (some m) ∧
      delivers (cloudQueueEnqueueRequest (samplePull none (some .aliyunOss)) "token" 6
        (samplePullRun (samplePull none (some .aliyunOss))) 0) m := by
  exact ((queue_messages_agree "message" "receipt").1 (samplePull none (some .aliyunOss))
    samplePullReplies (samplePullRun (samplePull none (some .aliyunOss))) 6 0 rfl rfl (by decide)
    (protectedCloudRun_enqueuedFor _ _ _ _ _ _ _ _ _ _ _ _ _ _) (by decide) (by decide)
    (by decide)).mpr (by decide)

-- A run of remote_stub without storage is accepted, and its message is refused each time it comes.
theorem unstored_message_is_poison :
    validateCloudRunProviderSelection (samplePull (some .remoteStub) none) samplePullReplies = pure () ∧
      shouldEnqueueCloudQueueMessage (samplePull (some .remoteStub) none) = true ∧
      parseMnsReceivedMessage (.string "message") (.string "receipt")
          (.object (messageBody (samplePullRequest (samplePull (some .remoteStub) none)))) =
        .error "invalid MNS message: field storage_provider must be a non-empty string" ∧
      (parseMnsReceivedMessage (.string "message") (.string "receipt")
          (.object (messageBody { samplePullRequest (samplePull none (some .aliyunOss)) with
            queueProvider := "local_db" }))).map (fun m => m.queueProvider) =
        .ok "local_db" := by
  exact ⟨rfl,by decide,rfl,rfl⟩

end AiScdc
