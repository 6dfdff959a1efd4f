import AiScdc.Session

namespace AiScdc

def defaultCloudRunReservationCents : ℤ := 100
def workerSubmissionCents : ℤ := 25
def runtimeSecondCents : ℤ := 1
def queueMessageCents : ℤ := 1
def objectStorageByteCents : ℤ := 0
def logSyncCallCents : ℤ := 1

def dayMicroseconds : ℤ := 86400000000

structure CivilDate where
  year : ℤ
  month : ℤ
  day : ℤ
  deriving DecidableEq, Repr

-- The proleptic Gregorian date of a day counted from 1970-01-01.
def civilDate (days : ℤ) : CivilDate :=
  let z := days + 719468
  let era := z / 146097
  let doe := z - era * 146097
  let yoe := (doe - doe / 1460 + doe / 36524 - doe / 146096) / 365
  let doy := doe - (365 * yoe + yoe / 4 - yoe / 100)
  let mp := (5 * doy + 2) / 153
  let month := if mp < 10 then mp + 3 else mp - 9
  ⟨yoe + era * 400 + (if month ≤ 2 then 1 else 0),month,doy - (153 * mp + 2) / 5 + 1⟩

def daysFromCivil (date : CivilDate) : ℤ :=
  let y := if date.month ≤ 2 then date.year - 1 else date.year
  let era := y / 400
  let yoe := y - era * 400
  let mp := if date.month > 2 then date.month - 3 else date.month + 9
  let doy := (153 * mp + 2) / 5 + date.day - 1
  era * 146097 + yoe * 365 + yoe / 4 - yoe / 100 + doy - 719468

def monthStart (now : Time) : Time :=
  let date := civilDate (now / dayMicroseconds)
  daysFromCivil { date with day := 1 } * dayMicroseconds

def nextMonthStart (now : Time) : Time :=
  let date := civilDate (now / dayMicroseconds)
  if date.month = 12 then daysFromCivil ⟨date.year + 1,1,1⟩ * dayMicroseconds
  else daysFromCivil ⟨date.year,date.month + 1,1⟩ * dayMicroseconds

example : monthStart 1767225599999999 = 1764547200000000 ∧
    nextMonthStart 1767225599999999 = 1767225600000000 := by decide

def getOrCreateWalletForScope (workspaceId : Id) : Op CreditWallet := do
  match ← get (.creditWallet workspaceId) with
  | some wallet => pure wallet
  | none =>
    let createdAt ← utcNow
    insert (.creditWallet workspaceId) ⟨0,createdAt⟩
    pure ⟨0,createdAt⟩

def getOrCreateWallet (ctx : Option AuthContext) : Op (Id × CreditWallet) := do
  let workspaceId ← currentWorkspaceId ctx
  let wallet ← getOrCreateWalletForScope workspaceId
  pure (workspaceId,wallet)

def activeWalletOr402 (workspaceId : Id) : Op CreditWallet := do
  match ← get (.creditWallet workspaceId) with
  | some wallet =>
    if wallet.balanceCents ≤ 0 then httpError 402 "Insufficient credits" else pure wallet
  | none => httpError 402 "Insufficient credits"

def currentMonthReservedAndSettledCents (workspaceId : Id) : Op ℤ := do
  let now ← utcNow
  let activeReservations ← selectWhere .budgetReservation fun _ r =>
    if r.workspaceId = workspaceId ∧ r.status = .reserved ∧
        monthStart now ≤ r.createdAt ∧ r.createdAt < nextMonthStart now
    then some r.reservedCents else none
  let settledReservations ← selectWhere .budgetReservation fun _ r =>
    if r.workspaceId = workspaceId ∧ r.status = .settled ∧
        r.settledAt.any (fun t => monthStart now ≤ t ∧ t < nextMonthStart now)
    then some r.settledCents else none
  pure (activeReservations.sum + settledReservations.sum)

def ensureSpendLimitAllows (workspaceId : Id) (estimateCents : ℤ) : Op Unit := do
  match (← get (.spendLimit workspaceId)).filter SpendLimit.active with
  | none => pure ()
  | some spendLimit =>
    if spendLimit.perRunLimitCents > 0 ∧ estimateCents > spendLimit.perRunLimitCents then
      httpError 402 "Spend limit exceeded"
    else if spendLimit.monthlyLimitCents > 0 then
      let total ← currentMonthReservedAndSettledCents workspaceId
      if total + estimateCents > spendLimit.monthlyLimitCents then
        httpError 402 "Spend limit exceeded"
      else pure ()
    else pure ()

def grantManualCredit (ctx : Option AuthContext) (amountCents : ℕ) : Op Unit := do
  let (workspaceId,wallet) ← getOrCreateWallet ctx
  let updatedAt ← utcNow
  flush (.creditWallet workspaceId) wallet
    { wallet with balanceCents := wallet.balanceCents + amountCents, updatedAt }
  commit

def newReservation (workspaceId projectId taskId : Id) (createdAt : Time) : BudgetReservation :=
  { workspaceId, projectId, taskId, cloudRunId := none,
    reservedCents := defaultCloudRunReservationCents, settledCents := 0, status := .reserved,
    createdAt, updatedAt := createdAt, settledAt := none }

def reserveCloudRunBudget (ctx : Option AuthContext) (projectId taskId : Id) :
    Op (Id × BudgetReservation) := do
  let estimateCents := defaultCloudRunReservationCents
  let workspaceId ← currentWorkspaceId ctx
  ensureSpendLimitAllows workspaceId estimateCents
  let wallet ← activeWalletOr402 workspaceId
  if wallet.balanceCents < estimateCents then httpError 402 "Insufficient credits"
  else
    let updatedAt ← utcNow
    let reservationId ← freshId
    let createdAt ← utcNow
    let reservation := newReservation workspaceId projectId taskId createdAt
    flush (.creditWallet workspaceId) wallet
      { wallet with balanceCents := wallet.balanceCents - estimateCents, updatedAt }
    insert (.budgetReservation reservationId) reservation
    pure (reservationId,reservation)

def activeReservationForCloudRun (cloudRun : CloudRun) : Op (Option (Id × BudgetReservation)) :=
  match cloudRun.budgetReservationId with
  | none => pure none
  | some reservationId => do
    match ← get (.budgetReservation reservationId) with
    | none => pure none
    | some reservation =>
      if reservation.status = .reserved then pure (some (reservationId,reservation)) else pure none

def transitionReservedReservation (reservationId : Id) (status : BudgetReservationStatus)
    (settledCents : ℤ) (settledAt : Time) : Op Bool :=
  updateWhere (.budgetReservation reservationId)
    (fun r => r.status = .reserved)
    (fun r => { r with status, settledCents, settledAt := some settledAt, updatedAt := settledAt })

def refund (reservation : BudgetReservation) (cents : ℤ) : Op Unit := do
  let wallet ← getOrCreateWalletForScope reservation.workspaceId
  let updatedAt ← utcNow
  flush (.creditWallet reservation.workspaceId) wallet
    { wallet with balanceCents := wallet.balanceCents + cents, updatedAt }

def releasedSummary (ρ : Id) (r : BudgetReservation) (cloudRun : CloudRun) : CloudRun :=
  { cloudRun with
    actualCostCents := 0
    costSummary :=
      { reservationId := some ρ, reservedCents := some r.reservedCents,
        measuredCents := some 0, measuredCostCents := some 0, actualCents := some 0,
        actualCostCents := some 0, billableCostCents := some 0, status := some .released } }

def releaseCloudRunReservation (cloudRun : CloudRun) : Op CloudRun := do
  match ← activeReservationForCloudRun cloudRun with
  | none => pure cloudRun
  | some (reservationId,reservation) =>
    let now ← utcNow
    if ← transitionReservedReservation reservationId .released 0 now then
      refund reservation reservation.reservedCents
      pure (releasedSummary reservationId reservation cloudRun)
    else pure cloudRun

def cloudRunRuntimeSeconds (cloudRun : CloudRun) : ℤ :=
  match cloudRun.claimedAt, cloudRun.completedAt with
  | some claimedAt, some completedAt => max ((completedAt - claimedAt).tdiv 1000000) 1
  | _, _ => 0

inductive SizeRef where
  | uri (uri : ObjectUri)
  | artifactManifest
  | logStream
  deriving DecidableEq, Repr

def addSize (ref : SizeRef) (sizeBytes : Option ℤ) (sizes : List (SizeRef × ℤ)) :
    List (SizeRef × ℤ) :=
  match sizeBytes with
  | none => sizes
  | some size =>
    if size ≤ 0 then sizes
    else (ref,max ((sizes.lookup ref).getD 0) size) :: sizes.filter (fun entry => entry.1 ≠ ref)

def cloudRunObjectStorageBytes (cloudRunId : Id) (cloudRun : CloudRun) : Op ℤ := do
  let own := addSize ((cloudRun.logStreamUri.map SizeRef.uri).getD .logStream)
    cloudRun.logStreamSizeBytes
    (addSize ((cloudRun.artifactManifestUri.map SizeRef.uri).getD .artifactManifest)
      cloudRun.artifactManifestSizeBytes [])
  let storedObjects ← selectWhere .storedObject fun _ o =>
    if o.cloudRunId = cloudRunId then some (SizeRef.uri o.uri,o.sizeBytes) else none
  let sizes := storedObjects.foldl (fun acc o => addSize o.1 (some o.2) acc) own
  pure (sizes.map Prod.snd).sum

def knownCloudRunLogSyncCalls (cloudRun : CloudRun) : ℤ :=
  match cloudRun.costSummary.logSyncCalls with
  | some calls => if calls > 0 then calls else
      if cloudRun.runtimeProvider.isSome ∧ cloudRun.logStreamUri.isSome then 1 else 0
  | none => if cloudRun.runtimeProvider.isSome ∧ cloudRun.logStreamUri.isSome then 1 else 0

def measuredUsage (cloudRun : CloudRun) (objectStorageBytes : ℤ) : List UsageMeasurement :=
  let runtimeSeconds := cloudRunRuntimeSeconds cloudRun
  let logSyncCalls := knownCloudRunLogSyncCalls cloudRun
  [⟨.workerSubmissions,1,"submission",workerSubmissionCents⟩] ++
    (if runtimeSeconds > 0 then
      [⟨.cloudRunRuntimeSeconds,runtimeSeconds,"seconds",runtimeSeconds * runtimeSecondCents⟩]
    else []) ++
    (if cloudRun.queueMessageId.isSome then
      [⟨.queueMessages,1,"message",queueMessageCents⟩] else []) ++
    (if objectStorageBytes > 0 then
      [⟨.objectStorageBytes,objectStorageBytes,"bytes",objectStorageBytes * objectStorageByteCents⟩]
    else []) ++
    (if logSyncCalls > 0 then
      [⟨.logSyncCalls,logSyncCalls,"call",logSyncCalls * logSyncCallCents⟩] else [])

def cloudRunUsageMeasurements (cloudRunId : Id) (cloudRun : CloudRun) :
    Op (List UsageMeasurement) := do
  let objectStorageBytes ← cloudRunObjectStorageBytes cloudRunId cloudRun
  pure (measuredUsage cloudRun objectStorageBytes)

-- The row key carries the unique constraint on (cloud_run_id, usage_type).
def appendCloudRunUsage (cloudRunId : Id) (cloudRun : CloudRun) (m : UsageMeasurement) :
    Op Unit := do
  match ← get (.cloudRunUsage cloudRunId m.usageType) with
  | some _ => pure ()
  | none =>
    let createdAt ← utcNow
    let entry : UsageLedgerEntry :=
      { workspaceId := cloudRun.workspaceId, projectId := cloudRun.projectId,
        taskId := cloudRun.taskId, providerName := cloudRun.queueProvider,
        quantity := m.quantity, unitName := m.unitName,
        unitPriceCents := if m.quantity > 0 then m.amountCents / m.quantity else 0,
        amountCents := m.amountCents, createdAt }
    tryCatch (insert (.cloudRunUsage cloudRunId m.usageType) entry) fun e =>
      if e = .integrityError then pure () else throw e

def appendAllUsage (cloudRunId : Id) (cloudRun : CloudRun) : List UsageMeasurement → Op Unit
  | [] => pure ()
  | m :: ms => do
    appendCloudRunUsage cloudRunId cloudRun m
    appendAllUsage cloudRunId cloudRun ms

def measuredCents (usage : List UsageMeasurement) : ℤ := (usage.map UsageMeasurement.amountCents).sum

def billableCents (usage : List UsageMeasurement) (r : BudgetReservation) : ℤ :=
  min (measuredCents usage) r.reservedCents

def settledSummary (ρ : Id) (r : BudgetReservation) (usage : List UsageMeasurement)
    (cloudRun : CloudRun) : CloudRun :=
  { cloudRun with
    actualCostCents := billableCents usage r
    costSummary :=
      { reservationId := some ρ, reservedCents := some r.reservedCents,
        measuredCents := some (measuredCents usage),
        measuredCostCents := some (measuredCents usage),
        actualCents := some (billableCents usage r),
        actualCostCents := some (billableCents usage r),
        billableCostCents := some (billableCents usage r), usage := some usage,
        status := some .settled } }

def settleCloudRunBudget (cloudRunId : Id) (cloudRun : CloudRun) : Op CloudRun := do
  match ← activeReservationForCloudRun cloudRun with
  | none => pure cloudRun
  | some (reservationId,reservation) =>
    let usage ← cloudRunUsageMeasurements cloudRunId cloudRun
    let now ← utcNow
    if ← transitionReservedReservation reservationId .settled (billableCents usage reservation) now then
      appendAllUsage cloudRunId cloudRun usage
      refund reservation (max (reservation.reservedCents - billableCents usage reservation) 0)
      pure (settledSummary reservationId reservation usage cloudRun)
    else pure cloudRun

end AiScdc
