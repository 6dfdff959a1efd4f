import AiScdc.AuthingCiam.Provider

namespace AiScdc.AuthingCiam
open JsonValues Exchanges
open ArtifactPlane (UrlText)

structure CachedKeys where
  byKid : SigningKeys
  expiresAt : ℤ

structure ProviderState where
  discovery : Option ValidatedDiscovery
  jwks : Option CachedKeys
  managementToken : Option ManagementAccessToken

inductive Endpoint where
  | discovery | token | signingKeys
  | managementToken (now : ℤ)
  | user (subject : PyStr)

-- A request with its reply, or a text of the provider that is encoded to be hashed or looked up.
inductive Exchange where
  | answered (endpoint : Endpoint) (reply : Reply)
  | encoded (text : PyStr)

abbrev ProviderOp (α : Type) := Asking ProviderState Exchange Failure α

-- The provider's configuration, its clock and the replies of its endpoints, by the number of
-- exchanges already made.
structure Surroundings [UrlText] where
  config : AuthingCiamConfig
  jwksCacheSeconds : ℤ
  jwksCacheLimit : jwksCacheSeconds ≤ 900
  clock : ℕ → ClockReading
  replies : ℕ → Reply

section operations

variable [UrlText] [TokenLibrary] (w : Surroundings)

def ask {α : Type} (endpoint : Endpoint) (handle : Reply → Answer α) : ProviderOp α :=
  asked w.replies (.answered endpoint) handle

def encode (text : PyStr) : ProviderOp Unit := asked (fun _ => text) .encoded encodeUtf8

def readClock : ProviderOp ℤ := observe fun n => (w.clock n).now

def failWith {α : Type} (message : String) : ProviderOp α := fail (.provider .error message)

def discoveryFromReply (reply : Reply) : Answer ValidatedDiscovery := do
  let payload ← requestJson "discovery" reply
  validateDiscovery w.config payload

def validatedDiscovery : ProviderOp ValidatedDiscovery := do
  let state ← getState
  match state.discovery with
  | some cached => pure cached
  | none => do
    let validated ← ask w .discovery (discoveryFromReply w)
    setState { state with discovery := some validated }
    pure validated

def tokenFromReply (reply : Reply) : Answer OidcTokenResponse := do
  let payload ← requestJson "token exchange" reply
  tokenFromPayload payload

def exchangeCode : ProviderOp OidcTokenResponse := do
  let _ ← validatedDiscovery w
  ask w .token tokenFromReply

def keysFromReply (reply : Reply) : Answer SigningKeys := do
  let payload ← requestJson "signing keys" reply
  keysFromPayload payload

def fetchJwks : ProviderOp SigningKeys := do
  let _ ← validatedDiscovery w
  let keys ← ask w .signingKeys keysFromReply
  let now ← readClock w
  let state ← getState
  setState { state with jwks := some ⟨keys,now + w.jwksCacheSeconds * 1000000⟩ }
  pure keys

def loadJwks (refresh : Bool) : ProviderOp SigningKeys := do
  let now ← readClock w
  let state ← getState
  match state.jwks with
  | some cached => if now < cached.expiresAt ∧ refresh = false then pure cached.byKid else fetchJwks w
  | none => fetchJwks w

def managementTokenFromReply (now : ℤ) (reply : Reply) : Answer ManagementAccessToken := do
  let payload ← requestJson "management token" reply
  managementTokenFromPayload now payload

def fetchManagementToken (now : ℤ) : ProviderOp PyStr := do
  let token ← ask w (.managementToken now) (managementTokenFromReply now)
  let state ← getState
  setState { state with managementToken := some token }
  pure token.value

def managementAccessToken (forceRefresh : Bool) : ProviderOp PyStr := do
  let now ← readClock w
  let state ← getState
  match state.managementToken with
  | some cached =>
    if forceRefresh = false ∧ now + managementTokenExpirySkew < cached.expiresAt then pure cached.value
    else fetchManagementToken w now
  | none => fetchManagementToken w now

def clearManagementToken : ProviderOp Unit := do
  let state ← getState
  setState { state with managementToken := none }

def statusAttempt (subject : PyStr) (forceRefresh : Bool) : ProviderOp (Option String) := do
  let _ ← managementAccessToken w forceRefresh
  ask w (.user subject) (userFromReply subject)

def withoutTrailingSlashes (text : String) : String :=
  String.ofList (text.toList.reverse.dropWhile (· = '/')).reverse

def identityStatus (issuer : String) (subject : PyStr) : ProviderOp String :=
  if withoutTrailingSlashes issuer ≠ w.config.issuer ∨ subject.text = "" then
    failWith "CIAM identity status request is not valid"
  else do
    match ← statusAttempt w subject false with
    | some status => pure status
    | none => do
      clearManagementToken
      match ← statusAttempt w subject true with
      | some status => pure status
      | none => failWith "CIAM identity status request was rejected"

def signingKey (kid : PyStr) (refresh : Bool) : ProviderOp SigningKey := do
  let keys ← loadJwks w refresh
  match keyNamed keys kid with
  | some key => pure key
  | none =>
    if refresh then failWith "CIAM ID token is not valid"
    else do
      let keys ← loadJwks w true
      match keyNamed keys kid with
      | some key => pure key
      | none => failWith "CIAM ID token is not valid"

def validateIdToken (idToken : PyStr) : ProviderOp ValidatedExternalIdentity :=
  match TokenLibrary.unverifiedKid idToken with
  | none => failWith "CIAM ID token is not valid"
  | some kid => do
    let key ← signingKey w kid false
    match TokenLibrary.decode idToken key with
    | .claims subject email nonce => pure ⟨w.config.issuer,subject,email,nonce⟩
    | .invalid => failWith "CIAM ID token is not valid"
    | .badSignature => do
      let key ← signingKey w kid true
      match TokenLibrary.decode idToken key with
      | .claims subject email nonce => pure ⟨w.config.issuer,subject,email,nonce⟩
      | _ => failWith "CIAM ID token is not valid"

def orRejected {α : Type} (m : ProviderOp α) : ProviderOp (Option α) := caught Failure.isProviderError m

inductive LoginEnd where
  | rejected
  | decided (status : String)
  deriving DecidableEq, Repr

-- What the callback decides from its transaction and the store: whether a nonce has the hash of the
-- transaction, and whether it comes to look up a legacy account by the email.
structure LoginChecks where
  nonceMatches : PyStr → Bool
  looksUpEmail : ValidatedExternalIdentity → String → Bool

-- What complete_login_callback does with the answers of the provider once its transaction is in
-- processing. Every failure that is caught rejects the transaction; the encodings are in no try.
def askForLogin (checks : LoginChecks) : ProviderOp LoginEnd := do
  match ← orRejected (exchangeCode w) with
  | none => pure .rejected
  | some token =>
    match ← orRejected (validateIdToken w token.idToken) with
    | none => pure .rejected
    | some identity =>
      match ← orRejected (validatedDiscovery w) with
      | none => pure .rejected
      | some discovery =>
        if identity.issuer ≠ discovery.issuer then pure .rejected
        else do
          encode identity.nonce
          if !checks.nonceMatches identity.nonce then pure .rejected
          else
            match ← orRejected (identityStatus w identity.issuer identity.subject) with
            | none => pure .rejected
            | some status => do
              encode identity.subject
              if checks.looksUpEmail identity status then encode identity.email
              pure (.decided status)

-- What synchronize_due_identity_status asks for the checks it has claimed, an answer for each.
def askForClaims (claims : List (String × String)) : ProviderOp (List (Option String)) :=
  inOrder (fun claim => orRejected (identityStatus w claim.1 (plain claim.2))) claims

inductive ProviderCall where
  | discover | exchangeCode
  | loadJwks (refresh : Bool)
  | identityStatus (issuer : String) (subject : PyStr)
  | login (checks : LoginChecks)
  | statusChecks (claims : List (String × String))

end operations

end AiScdc.AuthingCiam
