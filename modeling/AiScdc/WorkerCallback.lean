import AiScdc.Session

namespace AiScdc

class Digest where
  sha256 : String → String

variable [Digest]

def cloudRunText (cloudRunId : Id) : String := s!"cloud_run_{cloudRunId}"

def hashCallbackToken (cloudRunId : Id) (workerId token : String) : String :=
  Digest.sha256 s!"{cloudRunText cloudRunId}:{workerId}:{token}"

def verifyCallbackToken (cloudRunId : Id) (workerId token expectedHash : String) : Bool :=
  hashCallbackToken cloudRunId workerId token = expectedHash

-- The identity audit row of a rejection, which the model leaves out, is committed first.
def rejectWorkerAuthentication {α : Type} (statusCode : ℕ) (detail : String) : Op α := do
  commit
  httpError statusCode detail

def requirePresentedWorkerCallbackCredential (callbackToken : Option String) : Op Unit :=
  if callbackToken = none then
    rejectWorkerAuthentication 401 "Worker callback token is required"
  else pure ()

def invalidToken {α : Type} : Op α :=
  rejectWorkerAuthentication 403 "Worker callback token is not valid"

def clockOr (now : Option Time) : Op Time :=
  match now with
  | some t => pure t
  | none => utcNow

def verifyCloudRunCallbackTokenOr403 (cloudRunId : Id) (cloudRun : CloudRun) (workerId : String)
    (callbackToken : Option String) (now : Option Time) (requireToken : Bool) : Op Unit :=
  match cloudRun.callbackTokenHash with
  | none => if requireToken then invalidToken else pure ()
  | some expectedHash =>
    match callbackToken with
    | none => rejectWorkerAuthentication 401 "Worker callback token is required"
    | some token =>
      if cloudRun.callbackTokenUsedAt.isSome then invalidToken
      else
        match cloudRun.callbackTokenExpiresAt with
        | none => invalidToken
        | some expiresAt => do
          let t ← clockOr now
          if expiresAt < t then invalidToken
          else if verifyCallbackToken cloudRunId workerId token expectedHash then pure ()
          else invalidToken

end AiScdc
