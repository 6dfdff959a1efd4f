import AiScdc.AuthingCiam.Digestion

namespace AiScdc.AuthingCiam
open JsonValues Exchanges
open ArtifactPlane (UrlText)

theorem unfailing_askForClaims [UrlText] (w : Surroundings) (claims : List (String × String)) :
    Unfailing Failure.isProviderError (askForClaims w claims) := by
  apply unfailing_inOrder
  intro claim
  exact unfailing_caught _

theorem unfailing_encode (text : PyStr) : Unfailing Failure.isProviderError (encode text) := by
  intro state answered e h
  have hraised : encodeUtf8 text = .error e := h
  rw [encodeUtf8] at hraised
  split at hraised
  · rw [← Except.error.inj hraised]
    rfl
  · cases hraised

section answers

variable [UrlText] [TokenLibrary]

def Digestible (config : AuthingCiamConfig) : Exchange → Prop
  | .answered .discovery reply => Readable [200] (fun _ => DiscoveryDigestible config) reply
  | .answered .token reply => Readable [200] (fun _ => TokenDigestible) reply
  | .answered .signingKeys reply => Readable [200] (fun _ => KeysDigestible) reply
  | .answered (.managementToken now) reply => Readable [200] (fun _ => ManagementTokenDigestible now) reply
  | .answered (.user subject) reply => Readable [200,404] (fun _ => UserDigestible subject) reply
  | .encoded text => text.loneSurrogates = false

variable (w : Surroundings)

abbrev Accounted {α : Type} (m : ProviderOp α) : Prop :=
  Accounts Failure.isProviderError (Digestible w.config) m

variable {w} {α β : Type}

theorem accounts_ask {endpoint : Endpoint} {handle : Reply → Answer α}
    (h : ∀ reply, Handled (handle reply) ↔ Digestible w.config (.answered endpoint reply)) :
    Accounted w (ask w endpoint handle) := accounts_asked fun _ => h _

theorem accounts_encode (text : PyStr) : Accounted w (encode text) :=
  accounts_asked fun _ => handled_encodeUtf8 text

theorem accounts_failWith (message : String) : Accounted w (failWith message : ProviderOp α) :=
  accounts_fail rfl

theorem accounts_readClock : Accounted w (readClock w) := accounts_observe _

theorem accounts_validatedDiscovery : Accounted w (validatedDiscovery w) := by
  apply Accounts.bind accounts_getState
  intro state
  cases state.discovery with
  | some cached => exact accounts_pure cached
  | none =>
    apply Accounts.bind
    · apply accounts_ask
      intro reply
      exact handled_requestJson_bind.trans (by simp only [handled_validateDiscovery]; exact Iff.rfl)
    · intro validated
      exact (accounts_setState _).bind fun _ => accounts_pure validated

theorem accounts_exchangeCode : Accounted w (exchangeCode w) := by
  apply accounts_validatedDiscovery.bind
  intro _
  apply accounts_ask
  intro reply
  exact handled_requestJson_bind.trans (by simp only [handled_tokenFromPayload]; exact Iff.rfl)

theorem accounts_fetchJwks : Accounted w (fetchJwks w) := by
  apply accounts_validatedDiscovery.bind
  intro _
  apply Accounts.bind
  · apply accounts_ask
    intro reply
    exact handled_requestJson_bind.trans (by simp only [handled_keysFromPayload]; exact Iff.rfl)
  · intro keys
    apply accounts_readClock.bind
    intro now
    apply Accounts.bind accounts_getState
    intro state
    exact (accounts_setState _).bind fun _ => accounts_pure keys

theorem accounts_loadJwks (refresh : Bool) : Accounted w (loadJwks w refresh) := by
  apply accounts_readClock.bind
  intro now
  apply Accounts.bind accounts_getState
  intro state
  cases state.jwks with
  | none => exact accounts_fetchJwks
  | some cached => exact accounts_ite (accounts_pure _) accounts_fetchJwks

theorem accounts_fetchManagementToken (now : ℤ) : Accounted w (fetchManagementToken w now) := by
  apply Accounts.bind
  · apply accounts_ask
    intro reply
    exact handled_requestJson_bind.trans (by simp only [handled_managementTokenFromPayload]; exact Iff.rfl)
  · intro token
    apply Accounts.bind accounts_getState
    intro state
    exact (accounts_setState _).bind fun _ => accounts_pure _

theorem accounts_managementAccessToken (forceRefresh : Bool) :
    Accounted w (managementAccessToken w forceRefresh) := by
  apply accounts_readClock.bind
  intro now
  apply Accounts.bind accounts_getState
  intro state
  cases state.managementToken with
  | none => exact accounts_fetchManagementToken now
  | some cached => exact accounts_ite (accounts_pure _) (accounts_fetchManagementToken now)

theorem accounts_statusAttempt (subject : PyStr) (forceRefresh : Bool) :
    Accounted w (statusAttempt w subject forceRefresh) := by
  apply (accounts_managementAccessToken forceRefresh).bind
  intro _
  exact accounts_ask fun reply => handled_userFromReply subject reply

theorem accounts_clearManagementToken : Accounted w clearManagementToken :=
  accounts_getState.bind fun _ => accounts_setState _

theorem accounts_identityStatus (issuer : String) (subject : PyStr) :
    Accounted w (identityStatus w issuer subject) := by
  apply accounts_ite (accounts_failWith _)
  apply (accounts_statusAttempt subject false).bind
  intro first
  cases first with
  | some status => exact accounts_pure status
  | none =>
    apply accounts_clearManagementToken.bind
    intro _
    apply (accounts_statusAttempt subject true).bind
    intro second
    cases second with
    | some status => exact accounts_pure status
    | none => exact accounts_failWith _

theorem accounts_signingKey (kid : PyStr) (refresh : Bool) : Accounted w (signingKey w kid refresh) := by
  apply (accounts_loadJwks refresh).bind
  intro keys
  cases keyNamed keys kid with
  | some key => exact accounts_pure key
  | none =>
    apply accounts_ite (accounts_failWith _)
    apply (accounts_loadJwks true).bind
    intro reloaded
    cases keyNamed reloaded kid with
    | some key => exact accounts_pure key
    | none => exact accounts_failWith _

theorem accounts_validateIdToken (idToken : PyStr) : Accounted w (validateIdToken w idToken) := by
  unfold validateIdToken
  cases TokenLibrary.unverifiedKid idToken with
  | none => exact accounts_failWith _
  | some kid =>
    apply (accounts_signingKey kid false).bind
    intro key
    cases TokenLibrary.decode idToken key with
    | claims subject email nonce => exact accounts_pure _
    | invalid => exact accounts_failWith _
    | badSignature =>
      apply (accounts_signingKey kid true).bind
      intro reloaded
      cases TokenLibrary.decode idToken reloaded with
      | claims subject email nonce => exact accounts_pure _
      | invalid | badSignature => exact accounts_failWith _

theorem accounts_askForLogin (checks : LoginChecks) :
    Accounted w (askForLogin w checks) := by
  apply accounts_exchangeCode.caught.bind
  intro token
  cases token with
  | none => exact accounts_pure _
  | some token =>
    apply (accounts_validateIdToken token.idToken).caught.bind
    intro identity
    cases identity with
    | none => exact accounts_pure _
    | some identity =>
      apply accounts_validatedDiscovery.caught.bind
      intro discovery
      cases discovery with
      | none => exact accounts_pure _
      | some discovery =>
        apply accounts_ite (accounts_pure _)
        apply (accounts_encode identity.nonce).bind
        intro _
        apply accounts_ite (accounts_pure _)
        apply (accounts_identityStatus identity.issuer identity.subject).caught.bind
        intro status
        cases status with
        | none => exact accounts_pure _
        | some status =>
          apply (accounts_encode identity.subject).bind
          intro _
          exact accounts_ite ((accounts_encode identity.email).bind fun _ => accounts_pure _) (accounts_pure _)

theorem unfailing_askForLogin (checks : LoginChecks) :
    Unfailing Failure.isProviderError (askForLogin w checks) := by
  apply (unfailing_caught _).bind
  intro token
  cases token with
  | none => exact unfailing_pure _
  | some token =>
    apply (unfailing_caught _).bind
    intro identity
    cases identity with
    | none => exact unfailing_pure _
    | some identity =>
      apply (unfailing_caught _).bind
      intro discovery
      cases discovery with
      | none => exact unfailing_pure _
      | some discovery =>
        apply unfailing_ite (unfailing_pure _)
        apply (unfailing_encode identity.nonce).bind
        intro _
        apply unfailing_ite (unfailing_pure _)
        apply (unfailing_caught _).bind
        intro status
        cases status with
        | none => exact unfailing_pure _
        | some status =>
          apply (unfailing_encode identity.subject).bind
          intro _
          exact unfailing_ite ((unfailing_encode identity.email).bind fun _ => unfailing_pure _) (unfailing_pure _)

theorem accounts_askForClaims (claims : List (String × String)) : Accounted w (askForClaims w claims) := by
  unfold askForClaims
  apply accounts_inOrder
  intro claim
  exact (accounts_identityStatus claim.1 (plain claim.2)).caught

variable (w)

def received (state : ProviderState) (m : ProviderOp α) : List Exchange := (m.run state []).2.2

def outcome (state : ProviderState) (m : ProviderOp α) : Except Failure α := (m.run state []).1

theorem Accounted.handled_iff {m : ProviderOp α} (h : Accounted w m) (state : ProviderState) :
    Handled (outcome state m) ↔ ∀ exchange ∈ received state m, Digestible w.config exchange := by
  obtain ⟨new,hnew,hclean⟩ := h state []
  rw [received,hnew]
  exact hclean

def ProviderCall.exchanges (state : ProviderState) : ProviderCall → List Exchange
  | discover => received state (validatedDiscovery w)
  | exchangeCode => received state (AuthingCiam.exchangeCode w)
  | loadJwks refresh => received state (AuthingCiam.loadJwks w refresh)
  | identityStatus issuer subject => received state (AuthingCiam.identityStatus w issuer subject)
  | login checks => received state (askForLogin w checks)
  | statusChecks claims => received state (askForClaims w claims)

-- A value or an error of the provider; for its callers, a transaction that leaves processing, and an
-- answer for every claimed check.
def ProviderCall.Answered (state : ProviderState) : ProviderCall → Prop
  | discover => Handled (outcome state (validatedDiscovery w))
  | exchangeCode => Handled (outcome state (AuthingCiam.exchangeCode w))
  | loadJwks refresh => Handled (outcome state (AuthingCiam.loadJwks w refresh))
  | identityStatus issuer subject => Handled (outcome state (AuthingCiam.identityStatus w issuer subject))
  | login checks => ∃ ends, outcome state (askForLogin w checks) = .ok ends
  | statusChecks claims => ∃ answers, outcome state (askForClaims w claims) = .ok answers ∧
      answers.length = claims.length

theorem login_ends_iff (checks : LoginChecks) (state : ProviderState) :
    (∃ ends, outcome state (askForLogin w checks) = .ok ends) ↔
      ∀ exchange ∈ received state (askForLogin w checks), Digestible w.config exchange := by
  rw [← (accounts_askForLogin checks).handled_iff]
  exact ((unfailing_askForLogin checks).clean_iff state []).symm

theorem claims_answered_iff (claims : List (String × String)) (state : ProviderState) :
    (∃ answers, outcome state (askForClaims w claims) = .ok answers ∧ answers.length = claims.length) ↔
      ∀ exchange ∈ received state (askForClaims w claims), Digestible w.config exchange := by
  have hanswered : Handled (outcome state (askForClaims w claims)) ↔
      ∃ answers, outcome state (askForClaims w claims) = .ok answers :=
    (unfailing_askForClaims w claims).clean_iff state []
  rw [← (accounts_askForClaims claims).handled_iff,hanswered]
  constructor
  · rintro ⟨answers,hok,_⟩
    exact ⟨answers,hok⟩
  · rintro ⟨answers,hok⟩
    exact ⟨answers,hok,inOrder_length hok⟩

end answers

section raised

variable {α : Type} {name : String}

def raisedName : Answer α → Option String
  | .error (.raised name) => some name
  | _ => none

theorem raisedName_eq_some {outcome : Answer α} (h : raisedName outcome = some name) :
    outcome = .error (.raised name) := by
  cases outcome with
  | ok a => cases h
  | error e =>
    cases e with
    | provider kind message => cases h
    | raised raised => rw [Option.some.inj h]

theorem not_handled_of_raisedName {outcome : Answer α} (name : String) (h : raisedName outcome = some name) :
    ¬ Handled outcome := by
  rw [raisedName_eq_some h]
  exact not_handled_raised name

theorem ne_ok_of_raisedName {outcome : Answer α} (name : String) (h : raisedName outcome = some name) (a : α) :
    outcome ≠ .ok a := by
  rw [raisedName_eq_some h]
  exact fun hok => by cases hok

end raised

@[reducible] def asciiUrls : UrlText := ⟨fun text => text.map Char.toLower,fun _ => true⟩

@[reducible] def noTokens : TokenLibrary := ⟨fun _ => .error .caught,fun _ => none,fun _ _ => .invalid⟩

-- A token whose nonce is a lone surrogate.
@[reducible] def surrogateNonce : TokenLibrary :=
  ⟨fun _ => .ok 0,fun _ => some (plain "kid"),
    fun _ _ => .claims (plain "user") (plain "user@ciam") ⟨"�",[(0,0xD800)]⟩⟩

def objectOf (fields : List (String × Json)) : Json :=
  .object (fields.map fun entry => (plain entry.1,entry.2))

-- The user pool answers every request with one status and a body of its own for each.
def surroundings (bodies : ℕ → Json) : @Surroundings asciiUrls :=
  @Surroundings.mk asciiUrls (@AuthingCiamConfig.mk asciiUrls "https://ciam" "https://ciam/oidc" (by decide +kernel))
    300 (by decide) (fun _ => ⟨0,by decide⟩) fun n => .response 200 (.json (bodies n))

-- A port that is no number.
def namedPort (_ : ℕ) : Json :=
  objectOf [("issuer",.str (plain "https://ciam/oidc")),
    ("authorization_endpoint",.str (plain "https://ciam:port/authorize"))]

-- A management token, and then a user whose status is a list.
def listedStatus : ℕ → Json
  | 0 => objectOf [("statusCode",.int 200),
      ("data",objectOf [("access_token",.str (plain "token")),("expires_in",.int 3600)])]
  | _ => objectOf [("statusCode",.int 200),
      ("data",objectOf [("userId",.str (plain "user")),("status",.array [])])]

def texts (values : List String) : Json := .array (values.map fun value => .str (plain value))

-- The endpoints of the pool, a token and a signing key.
def tokenAnswers : ℕ → Json
  | 0 => objectOf [("issuer",.str (plain "https://ciam/oidc")),
      ("authorization_endpoint",.str (plain "https://ciam/authorize")),
      ("token_endpoint",.str (plain "https://ciam/token")),("jwks_uri",.str (plain "https://ciam/jwks")),
      ("grant_types_supported",texts ["authorization_code"]),("response_types_supported",texts ["code"]),
      ("scopes_supported",texts ["openid","email"]),("code_challenge_methods_supported",texts ["S256"]),
      ("id_token_signing_alg_values_supported",texts ["RS256"]),
      ("token_endpoint_auth_methods_supported",texts ["client_secret_basic"])]
  | 1 => objectOf [("id_token",.str (plain "id")),("access_token",.str (plain "access"))]
  | _ => objectOf [("keys",.array [objectOf [("kty",.str (plain "RSA")),("kid",.str (plain "kid"))]])]

end AiScdc.AuthingCiam
