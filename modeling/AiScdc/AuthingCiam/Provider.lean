import AiScdc.ArtifactPlane.Uri
import AiScdc.Exchanges
import AiScdc.Numbers.Instants
import AiScdc.Text.JsonValues

namespace AiScdc.AuthingCiam
open JsonValues Exchanges
open ArtifactPlane (UrlText SplitResult urlparse)
open Instants (maxInstant)

inductive ProviderErrorKind where
  | error | timeout | network | rateLimited | serviceUnavailable
  deriving DecidableEq, Repr

-- CustomerIdentityProviderError with its subclasses, and every other exception by its name.
inductive Failure where
  | provider (kind : ProviderErrorKind) (message : String)
  | raised (name : String)
  deriving DecidableEq, Repr

def Failure.isProviderError : Failure → Bool
  | provider _ _ => true
  | raised _ => false

inductive Body where
  | json (value : Json)
  | unreadable
  | raised (name : String)

-- What the HTTP client gives: it raises other exceptions for a URL or a header that it refuses, and
-- so does the reader of a body that is nested too deeply.
inductive Reply where
  | timeout | transportError
  | raised (name : String)
  | response (statusCode : ℕ) (body : Body)

-- A reading of the clock, in microseconds, with room for the intervals that are added to it.
structure ClockReading where
  now : ℤ
  room : now + 900 * 1000000 ≤ maxInstant

def managementTokenExpirySkew : ℤ := 30 * 1000000

inductive KeyFailure where
  | caught
  | uncaught (name : String)
  deriving DecidableEq, Repr

abbrev SigningKey := ℕ

structure ValidatedExternalIdentity where
  issuer : String
  subject : PyStr
  email : PyStr
  nonce : PyStr
  deriving DecidableEq, Repr

inductive Decoded where
  | claims (subject email nonce : PyStr)
  | badSignature | invalid
  deriving DecidableEq, Repr

-- The library that reads tokens and keys, and the checks on the claims of a token.
class TokenLibrary where
  fromDict : Object → Except KeyFailure SigningKey
  unverifiedKid : PyStr → Option PyStr
  decode : PyStr → SigningKey → Decoded

section urls

variable [UrlText]

def isHttps (url : SplitResult) : Bool :=
  String.ofList url.scheme = "https" && url.hostname.isSome && !url.netloc.contains '@' && url.fragment = []

-- None where the URL library raises ValueError.
def isHttpsUrl (value : String) : Option Bool := (urlparse value).map isHttps

def portOf (url : SplitResult) : Option (Option ℕ) :=
  if url.hostinfo.2 = [] then some none else url.port.map some

def originPort (port : Option ℕ) : ℕ := (port.filter (· ≠ 0)).getD 443

def sameOrigin (left right : String) : Option Bool := do
  let leftUrl ← urlparse left
  let rightUrl ← urlparse right
  let leftPort ← portOf leftUrl
  let rightPort ← portOf rightUrl
  return leftUrl.scheme = rightUrl.scheme && leftUrl.hostname = rightUrl.hostname &&
    originPort leftPort = originPort rightPort

structure AuthingCiamConfig where
  appHost : String
  issuer : String
  appHostHttps : isHttpsUrl appHost = some true

def checkUrl (config : AuthingCiamConfig) (value : Json) : Option Bool :=
  match value.asText with
  | none => some false
  | some s => do
    if !(← isHttpsUrl s.text) then return false
    else sameOrigin config.appHost s.text

end urls

abbrev Answer (α : Type) := Except Failure α

def providerError {α : Type} (message : String) : Answer α := .error (.provider .error message)

section responses

def request (operation : String) (acceptedStatuses : List ℕ) : Reply → Answer (ℕ × Body)
  | .timeout => .error (.provider .timeout s!"CIAM {operation} timed out")
  | .transportError => .error (.provider .network s!"CIAM {operation} network request failed")
  | .raised name => .error (.raised name)
  | .response statusCode body =>
    if statusCode = 429 then .error (.provider .rateLimited s!"CIAM {operation} was rate limited")
    else if 500 ≤ statusCode then
      .error (.provider .serviceUnavailable s!"CIAM {operation} is unavailable")
    else if statusCode ∉ acceptedStatuses then providerError s!"CIAM {operation} request was rejected"
    else .ok (statusCode,body)

def responseJsonObject (operation : String) : Body → Answer Object
  | .json (.object fields) => .ok fields
  | .raised name => .error (.raised name)
  | _ => providerError s!"CIAM {operation} response is not valid"

def requestJson (operation : String) (reply : Reply) : Answer Object := do
  let (_,body) ← request operation [200] reply
  responseJsonObject operation body

def raiseForManagementJsonUnavailability (operation : String) (payload : Object) : Answer Unit :=
  match field payload "statusCode" with
  | .int statusCode =>
    if statusCode = 429 then .error (.provider .rateLimited s!"CIAM {operation} was rate limited")
    else if 500 ≤ statusCode then
      .error (.provider .serviceUnavailable s!"CIAM {operation} is unavailable")
    else .ok ()
  | _ => .ok ()

end responses

structure ValidatedDiscovery where
  issuer : String
  authorizationEndpoint : PyStr
  tokenEndpoint : PyStr
  jwksUri : PyStr
  endSessionEndpoint : Option PyStr

section discovery

variable [UrlText]

-- The URLs in the order in which they are checked.
def discoveryUrls (payload : Object) : List Json :=
  [field payload "authorization_endpoint",field payload "token_endpoint",field payload "jwks_uri"] ++
    if (field payload "end_session_endpoint").isNull then [] else [field payload "end_session_endpoint"]

def invalidDiscovery {α : Type} : Answer α := providerError "CIAM discovery metadata is not valid"

def requireUrl (config : AuthingCiamConfig) (value : Json) : Answer Unit :=
  match checkUrl config value with
  | none => .error (.raised "ValueError")
  | some false => invalidDiscovery
  | some true => .ok ()

def supports (payload : Object) (name value : String) : Bool :=
  plain value ∈ stringList (field payload name)

def supportsLogin (payload : Object) : Bool :=
  supports payload "grant_types_supported" "authorization_code" &&
    supports payload "response_types_supported" "code" &&
    supports payload "scopes_supported" "openid" && supports payload "scopes_supported" "email" &&
    supports payload "code_challenge_methods_supported" "S256" &&
    supports payload "id_token_signing_alg_values_supported" "RS256" &&
    supports payload "token_endpoint_auth_methods_supported" "client_secret_basic"

def textField (payload : Object) (name : String) : PyStr := (field payload name).asText.getD (plain "")

def validateDiscovery (config : AuthingCiamConfig) (payload : Object) : Answer ValidatedDiscovery :=
  if !(field payload "issuer").equalsText config.issuer then invalidDiscovery
  else do
    let _ ← inTurn (requireUrl config) (discoveryUrls payload)
    if !supportsLogin payload then invalidDiscovery
    else
      return ⟨config.issuer,textField payload "authorization_endpoint",textField payload "token_endpoint",
        textField payload "jwks_uri",(field payload "end_session_endpoint").asText⟩

end discovery

structure OidcTokenResponse where
  idToken : PyStr
  accessToken : PyStr

-- A lone surrogate has no UTF-8 encoding.
def encodeUtf8 (text : PyStr) : Answer Unit :=
  if text.loneSurrogates then .error (.raised "UnicodeEncodeError") else .ok ()

-- The identity token is encoded for the logout hint.
def tokenFromPayload (payload : Object) : Answer OidcTokenResponse :=
  match (field payload "id_token").nonEmptyText, (field payload "access_token").nonEmptyText with
  | some idToken, some accessToken => do
    encodeUtf8 idToken
    return ⟨idToken,accessToken⟩
  | _, _ => providerError "CIAM token response is not valid"

section keys

variable [TokenLibrary]

def inNoneOr (text : String) (value : Json) : Bool := value.isNull || value.equalsText text

-- A look-up in a set raises for a value without a hash.
def usableKey (fields : Object) : Answer Bool :=
  if !(field fields "kty").equalsText "RSA" then .ok false
  else if !(field fields "alg").hashable then .error (.raised "TypeError")
  else if !inNoneOr "RS256" (field fields "alg") then .ok false
  else if !(field fields "use").hashable then .error (.raised "TypeError")
  else if !inNoneOr "sig" (field fields "use") then .ok false
  else .ok (field fields "kid").asText.isSome

def invalidKeys {α : Type} : Answer α := providerError "CIAM signing keys are not valid"

def readKey (fields : Object) : Answer SigningKey :=
  match TokenLibrary.fromDict fields with
  | .ok key => .ok key
  | .error .caught => invalidKeys
  | .error (.uncaught name) => .error (.raised name)

abbrev SigningKeys := List (PyStr × SigningKey)

def keyOf (rawKey : Json) : Answer SigningKeys :=
  match rawKey.asObject with
  | none => .ok []
  | some fields => do
    if !(← usableKey fields) then return []
    else do
      let key ← readKey fields
      return [(textField fields "kid",key)]

def keysFromPayload (payload : Object) : Answer SigningKeys :=
  match (field payload "keys").asList with
  | none => invalidKeys
  | some rawKeys => do
    let keys ← inTurn keyOf rawKeys
    if keys.flatten.isEmpty then invalidKeys else return keys.flatten

-- The last key of a name counts.
def keyNamed (keys : SigningKeys) (kid : PyStr) : Option SigningKey :=
  (keys.reverse.find? fun entry => entry.1 = kid).map Prod.snd

end keys

structure ManagementAccessToken where
  value : PyStr
  expiresAt : ℤ

section management

-- timedelta(seconds=value), in microseconds.
def timedeltaSeconds : Json → Answer ℤ
  | .int value => bounded (value * 1000000)
  | .float (.finite value) => bounded (roundHalfEven (value * 1000000))
  | .float .nan => .error (.raised "ValueError")
  | _ => .error (.raised "OverflowError")
where
  bounded (microseconds : ℤ) : Answer ℤ :=
    if microseconds.natAbs < 1000000000 * 86400 * 1000000 then .ok microseconds
    else .error (.raised "OverflowError")

-- isinstance(value, (int, float)) without bool, and not value <= 0; a NaN passes.
def positiveNumber : Json → Bool
  | .int value => 0 < value
  | .float .nan => true
  | .float .posInf => true
  | .float .negInf => false
  | .float (.finite value) => 0 < value
  | _ => false

def expiryAfter (now : ℤ) (expiresIn : Json) : Answer ℤ := do
  let delta ← timedeltaSeconds expiresIn
  if now + delta ≤ maxInstant then return now + delta else .error (.raised "OverflowError")

def invalidManagementToken {α : Type} : Answer α :=
  providerError "CIAM management token response is not valid"

def managementTokenFromPayload (now : ℤ) (payload : Object) : Answer ManagementAccessToken := do
  raiseForManagementJsonUnavailability "management token" payload
  match (field payload "statusCode").equalsInt 200, (field payload "data").asObject with
  | true, some data =>
    match (field data "access_token").nonEmptyText with
    | none => invalidManagementToken
    | some accessToken =>
      if !positiveNumber (field data "expires_in") then invalidManagementToken
      else do
        let expiresAt ← expiryAfter now (field data "expires_in")
        return ⟨accessToken,expiresAt⟩
  | _, _ => invalidManagementToken

end management

section statuses

def statusNames : List (String × String) :=
  [("Activated","active"),("Suspended","locked"),("Deactivated","disabled"),("Resigned","disabled"),
    ("Archived","disabled")]

def invalidStatus {α : Type} : Answer α := providerError "CIAM identity status response is not valid"

-- A look-up in a dict raises for a key without a hash.
def mappedStatus (status : Json) : Answer String :=
  if !status.hashable then .error (.raised "TypeError")
  else
    match statusNames.find? fun entry => status.equalsText entry.1 with
    | some entry => .ok entry.2
    | none => invalidStatus

def statusFromPayload (payload : Object) (responseStatusCode : ℕ) (expectedSubject : PyStr) :
    Answer String :=
  if responseStatusCode = 200 && (field payload "statusCode").equalsInt 404 then .ok "missing"
  else
    match (field payload "statusCode").equalsInt 200, (field payload "data").asObject with
    | true, some data =>
      if !(field data "userId").equalsStr expectedSubject then invalidStatus
      else mappedStatus (field data "status")
    | _, _ => invalidStatus

-- None where the management token is refused.
def userFromPayload (subject : PyStr) (responseStatusCode : ℕ) (payload : Object) : Answer (Option String) := do
  raiseForManagementJsonUnavailability "identity status" payload
  if (field payload "statusCode").equalsInt 401 then return none
  else do
    let status ← statusFromPayload payload responseStatusCode subject
    return some status

def userFromReply (subject : PyStr) (reply : Reply) : Answer (Option String) := do
  let (statusCode,body) ← request "identity status" [200,401,404] reply
  if statusCode = 401 then return none
  else do
    let payload ← responseJsonObject "identity status" body
    userFromPayload subject statusCode payload

end statuses

end AiScdc.AuthingCiam
