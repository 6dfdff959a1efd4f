import AiScdc.AuthingCiam.Operations

namespace AiScdc.AuthingCiam
open JsonValues Exchanges
open ArtifactPlane (UrlText SplitResult urlparse)
open Instants (maxInstant)

abbrev Handled {α : Type} (outcome : Answer α) : Prop := Clean Failure.isProviderError outcome

section responses

variable {α : Type} {operation : String} {accepted : List ℕ} {reply : Reply} {body : Body}
  {k : Object → Answer α}

def Legible (digestible : Object → Prop) : Body → Prop
  | .raised _ => False
  | .json (.object fields) => digestible fields
  | _ => True

-- `digestible` is asked of the objects that come with a status that is read.
def Readable (read : List ℕ) (digestible : ℕ → Object → Prop) : Reply → Prop
  | .raised _ => False
  | .response statusCode body => statusCode ∈ read → Legible (digestible statusCode) body
  | _ => True

theorem handled_provider (kind : ProviderErrorKind) (message : String) :
    Handled (.error (.provider kind message) : Answer α) := clean_error.mpr rfl

theorem not_handled_raised (name : String) : ¬ Handled (.error (.raised name) : Answer α) := by
  rw [Handled,clean_error]
  exact Bool.false_ne_true

theorem handled_object_bind : Handled (responseJsonObject operation body >>= k) ↔
    Legible (fun fields => Handled (k fields)) body := by
  cases body with
  | unreadable => exact ⟨fun _ => trivial,fun _ => handled_provider _ _⟩
  | raised name => exact ⟨not_handled_raised name,False.elim⟩
  | json value =>
    cases value with
    | object fields => exact Iff.rfl
    | null | bool _ | int _ | float _ | str _ | array _ => exact ⟨fun _ => trivial,fun _ => handled_provider _ _⟩

theorem handled_request_bind {k : ℕ × Body → Answer α} : Handled (request operation accepted reply >>= k) ↔
    match reply with
    | .raised _ => False
    | .response statusCode body =>
      statusCode ≠ 429 → statusCode < 500 → statusCode ∈ accepted → Handled (k (statusCode,body))
    | _ => True := by
  cases reply with
  | timeout => exact ⟨fun _ => trivial,fun _ => handled_provider _ _⟩
  | transportError => exact ⟨fun _ => trivial,fun _ => handled_provider _ _⟩
  | raised name => exact ⟨not_handled_raised name,False.elim⟩
  | response statusCode body =>
    simp only [request]
    split
    · next h => exact ⟨fun _ hne => absurd h hne,fun _ => handled_provider _ _⟩
    · next hlimited =>
      split
      · next h => exact ⟨fun _ _ hlt => absurd h (not_le.mpr hlt),fun _ => handled_provider _ _⟩
      · next havailable =>
        split
        · next h => exact ⟨fun _ _ _ hin => absurd hin h,fun _ => handled_provider _ _⟩
        · next h => exact ⟨fun hk _ _ _ => hk,fun hk => hk hlimited (not_le.mp havailable) (not_not.mp h)⟩

theorem handled_requestJson_bind : Handled (requestJson operation reply >>= k) ↔
    Readable [200] (fun _ fields => Handled (k fields)) reply := by
  have hbind : requestJson operation reply >>= k =
      request operation [200] reply >>= fun response => responseJsonObject operation response.2 >>= k := by
    rw [requestJson]
    cases request operation [200] reply <;> rfl
  rw [hbind,handled_request_bind]
  cases reply with
  | timeout | transportError | raised _ => exact Iff.rfl
  | response statusCode body =>
    simp only [handled_object_bind,Readable,List.mem_singleton]
    constructor
    · intro h hread
      exact h (by omega) (by omega) hread
    · exact fun h _ _ => h

end responses

section discovery

variable [UrlText] {config : AuthingCiamConfig} {value : Json} {payload : Object}

-- A text that the URL library refuses, or an https URL whose port, or that of the configured host,
-- is no port number.
def RefusedUrl (config : AuthingCiamConfig) (value : Json) : Prop :=
  ∃ s, value.asText = some s ∧ (urlparse s.text = none ∨ ∃ url host, urlparse s.text = some url ∧
    urlparse config.appHost = some host ∧ isHttps url = true ∧ (portOf host = none ∨ portOf url = none))

def DiscoveryDigestible (config : AuthingCiamConfig) (payload : Object) : Prop :=
  (field payload "issuer").equalsText config.issuer = true → ∀ before value after,
    discoveryUrls payload = before ++ value :: after →
    (∀ checked ∈ before, checkUrl config checked = some true) → ¬ RefusedUrl config value

theorem sameOrigin_eq_none {left right : String} {host url : SplitResult} (hleft : urlparse left = some host)
    (hright : urlparse right = some url) :
    sameOrigin left right = none ↔ portOf host = none ∨ portOf url = none := by
  rw [sameOrigin,hleft,hright]
  change (portOf host >>= fun leftPort => portOf url >>= fun rightPort => some _) = none ↔ _
  cases portOf host with
  | none => simp
  | some leftPort => cases portOf url <;> simp

theorem checkUrl_eq_none : checkUrl config value = none ↔ RefusedUrl config value := by
  rw [checkUrl,RefusedUrl]
  cases htext : value.asText with
  | none => simp
  | some s =>
    obtain ⟨host,hhost,_⟩ := Option.map_eq_some_iff.mp config.appHostHttps
    simp only [isHttpsUrl]
    cases hurl : urlparse s.text with
    | none => simp [hurl]
    | some url =>
      simp only [Option.map_some,bind,Option.bind_some]
      cases hhttps : isHttps url with
      | false => simp [hurl,hhttps]
      | true =>
        simp only [Bool.not_true,Bool.false_eq_true,if_false]
        rw [sameOrigin_eq_none hhost hurl]
        simp [hurl,hhost,hhttps]

theorem handled_requireUrl : Handled (requireUrl config value) ↔ ¬ RefusedUrl config value := by
  rw [← checkUrl_eq_none,requireUrl]
  cases hcheck : checkUrl config value with
  | none => simp [not_handled_raised]
  | some passes =>
    cases passes with
    | false =>
      have hinvalid : Handled (invalidDiscovery : Answer Unit) := handled_provider _ _
      simpa using hinvalid
    | true => simpa using clean_ok ()

theorem requireUrl_ok : (∃ r, requireUrl config value = .ok r) ↔ checkUrl config value = some true := by
  rw [requireUrl]
  cases checkUrl config value with
  | none => simp
  | some passes => cases passes <;> simp [invalidDiscovery,providerError]

theorem handled_validateDiscovery : Handled (validateDiscovery config payload) ↔
    DiscoveryDigestible config payload := by
  rw [validateDiscovery,DiscoveryDigestible]
  split
  · next hissuer =>
    constructor
    · intro _ hsame
      rw [hsame] at hissuer
      exact absurd hissuer (by decide)
    · exact fun _ => handled_provider _ _
  · next hissuer =>
    have hsame : (field payload "issuer").equalsText config.issuer = true := by simpa using hissuer
    have hrest : ∀ r : List Unit, Handled (if (!supportsLogin payload) = true then invalidDiscovery
        else (.ok ⟨config.issuer,textField payload "authorization_endpoint",
          textField payload "token_endpoint",textField payload "jwks_uri",(field payload "end_session_endpoint").asText⟩ :
            Answer ValidatedDiscovery)) := by
      intro _
      split
      · exact handled_provider _ _
      · exact clean_ok _
    simp only [Handled,clean_bind,clean_inTurn,requireUrl_ok,hsame,forall_const]
    constructor
    · intro h before value after hsplit hpassed
      exact handled_requireUrl.mp (h.1 before value after hsplit hpassed)
    · intro h
      exact ⟨fun before value after hsplit hpassed => handled_requireUrl.mpr (h before value after hsplit hpassed),
        fun r _ => hrest r⟩

end discovery

section tokens

variable {payload : Object}

def TokenDigestible (payload : Object) : Prop := ∀ idToken accessToken,
  (field payload "id_token").nonEmptyText = some idToken →
    (field payload "access_token").nonEmptyText = some accessToken → idToken.loneSurrogates = false

theorem handled_encodeUtf8 (text : PyStr) : Handled (encodeUtf8 text) ↔ text.loneSurrogates = false := by
  rw [encodeUtf8]
  cases text.loneSurrogates with
  | false => simpa using clean_ok ()
  | true => simpa using not_handled_raised _

theorem handled_tokenFromPayload : Handled (tokenFromPayload payload) ↔ TokenDigestible payload := by
  rw [tokenFromPayload,TokenDigestible]
  cases (field payload "id_token").nonEmptyText with
  | none => exact ⟨fun _ _ _ h => (by cases h),fun _ => handled_provider _ _⟩
  | some idToken =>
    cases (field payload "access_token").nonEmptyText with
    | none => exact ⟨fun _ _ _ _ h => (by cases h),fun _ => handled_provider _ _⟩
    | some accessToken =>
      have hencoded : Handled (encodeUtf8 idToken >>= fun _ =>
          (.ok ⟨idToken,accessToken⟩ : Answer OidcTokenResponse)) ↔ idToken.loneSurrogates = false :=
        clean_bind.trans ⟨fun h => (handled_encodeUtf8 idToken).mp h.1,
          fun h => ⟨(handled_encodeUtf8 idToken).mpr h,fun _ _ => clean_ok _⟩⟩
      refine hencoded.trans ⟨?_,fun h => h idToken accessToken rfl rfl⟩
      intro h named _ hnamed _
      rw [← Option.some.inj hnamed]
      exact h

end tokens

section keys

variable [TokenLibrary] {fields payload : Object} {rawKey : Json}

-- A look-up of a list or a dict, or a key that the library refuses with an exception of its own.
def RefusedKey (rawKey : Json) : Prop := ∃ fields, rawKey.asObject = some fields ∧
  (field fields "kty").equalsText "RSA" = true ∧ ((field fields "alg").hashable = false ∨
    inNoneOr "RS256" (field fields "alg") = true ∧ ((field fields "use").hashable = false ∨
      inNoneOr "sig" (field fields "use") = true ∧ (field fields "kid").asText.isSome = true ∧
        ∃ name, TokenLibrary.fromDict fields = .error (.uncaught name)))

def KeysDigestible (payload : Object) : Prop := ∀ rawKeys, (field payload "keys").asList = some rawKeys →
  ∀ before rawKey after, rawKeys = before ++ rawKey :: after →
    (∀ b ∈ before, ∃ keys, keyOf b = .ok keys) → ¬ RefusedKey rawKey

theorem handled_readKey : Handled (readKey fields) ↔
    ¬ ∃ name, TokenLibrary.fromDict fields = .error (.uncaught name) := by
  rw [readKey]
  cases TokenLibrary.fromDict fields with
  | ok key => simpa using clean_ok key
  | error failure =>
    cases failure with
    | caught =>
      have hinvalid : Handled (invalidKeys : Answer SigningKey) := handled_provider _ _
      simpa using hinvalid
    | uncaught name => simpa using not_handled_raised name

theorem handled_keyOf : Handled (keyOf rawKey) ↔ ¬ RefusedKey rawKey := by
  rw [keyOf,RefusedKey]
  cases rawKey.asObject with
  | none => simpa using clean_ok _
  | some fields =>
    have hquiet : Handled (.ok [] : Answer SigningKeys) := clean_ok _
    simp only [Option.some.injEq,exists_eq_left',usableKey]
    cases (field fields "kty").equalsText "RSA" with
    | false => simpa [bind,Except.bind,pure,Except.pure] using hquiet
    | true =>
      cases (field fields "alg").hashable with
      | false => simpa [bind,Except.bind] using not_handled_raised _
      | true =>
        cases inNoneOr "RS256" (field fields "alg") with
        | false => simpa [bind,Except.bind,pure,Except.pure] using hquiet
        | true =>
          cases (field fields "use").hashable with
          | false => simpa [bind,Except.bind] using not_handled_raised _
          | true =>
            cases inNoneOr "sig" (field fields "use") with
            | false => simpa [bind,Except.bind,pure,Except.pure] using hquiet
            | true =>
              cases (field fields "kid").asText.isSome with
              | false => simpa [bind,Except.bind,pure,Except.pure] using hquiet
              | true =>
                have hread : Handled (readKey fields >>= fun key =>
                    .ok [(textField fields "kid",key)]) ↔ Handled (readKey fields) :=
                  clean_bind.trans ⟨fun h => h.1,fun h => ⟨h,fun _ _ => clean_ok _⟩⟩
                simpa [bind,Except.bind,pure,Except.pure,handled_readKey] using hread

theorem handled_keysFromPayload : Handled (keysFromPayload payload) ↔ KeysDigestible payload := by
  rw [keysFromPayload,KeysDigestible]
  cases (field payload "keys").asList with
  | none => exact ⟨fun _ _ h => (by cases h),fun _ => handled_provider _ _⟩
  | some rawKeys =>
    have hrest : ∀ keys : List SigningKeys, Handled (if keys.flatten.isEmpty = true then invalidKeys
        else (.ok keys.flatten : Answer SigningKeys)) := by
      intro keys
      split
      · exact handled_provider _ _
      · exact clean_ok _
    simp only [Handled,clean_bind,clean_inTurn,Option.some.injEq,forall_eq']
    constructor
    · intro h before rawKey after hsplit hread
      exact handled_keyOf.mp (h.1 before rawKey after hsplit hread)
    · intro h
      exact ⟨fun before rawKey after hsplit hread => handled_keyOf.mpr (h before rawKey after hsplit hread),
        fun keys _ => hrest keys⟩

end keys

section management

variable {operation : String} {payload : Object} {now : ℤ} {expiresIn status : Json} {subject : PyStr}
  {responseStatusCode : ℕ}

theorem handled_unavailability : Handled (raiseForManagementJsonUnavailability operation payload) := by
  rw [raiseForManagementJsonUnavailability]
  split
  · split
    · exact handled_provider _ _
    · split
      · exact handled_provider _ _
      · exact clean_ok ()
  · exact clean_ok ()

theorem available {n : ℤ} (h : (field payload "statusCode").equalsInt n = true) (hn : n < 429) :
    raiseForManagementJsonUnavailability operation payload = .ok () := by
  rw [raiseForManagementJsonUnavailability]
  split
  · next statusCode hcode =>
    rw [hcode] at h
    have heq : statusCode = n := by simpa [Json.equalsInt] using h
    rw [if_neg (by omega),if_neg (by omega)]
  · rfl

-- A lifetime that ends at an instant a datetime can hold.
def Datable (now : ℤ) (expiresIn : Json) : Prop :=
  ∃ delta, timedeltaSeconds expiresIn = .ok delta ∧ now + delta ≤ maxInstant

def ManagementTokenDigestible (now : ℤ) (payload : Object) : Prop :=
  (field payload "statusCode").equalsInt 200 = true → ∀ data, (field payload "data").asObject = some data →
    (field data "access_token").nonEmptyText ≠ none → positiveNumber (field data "expires_in") = true →
      Datable now (field data "expires_in")

theorem timedelta_raises {e : Failure} (h : timedeltaSeconds expiresIn = .error e) : e.isProviderError = false := by
  have hbounded : ∀ n, timedeltaSeconds.bounded n = .error e → e.isProviderError = false := by
    intro n hn
    rw [timedeltaSeconds.bounded] at hn
    split at hn
    · cases hn
    · rw [← Except.error.inj hn]
      rfl
  rw [timedeltaSeconds.eq_def] at h
  split at h
  · exact hbounded _ h
  · exact hbounded _ h
  · rw [← Except.error.inj h]
    rfl
  · rw [← Except.error.inj h]
    rfl

theorem handled_expiryAfter : Handled (expiryAfter now expiresIn) ↔ Datable now expiresIn := by
  rw [expiryAfter,Datable,Handled,clean_bind]
  cases hdelta : timedeltaSeconds expiresIn with
  | error e =>
    rw [clean_error,timedelta_raises hdelta]
    simp
  | ok delta =>
    simp only [Except.ok.injEq,forall_eq',exists_eq_left']
    split
    · next hle => exact ⟨fun _ => hle,fun _ => ⟨clean_ok delta,clean_ok _⟩⟩
    · next hlate => exact ⟨fun h => absurd h.2 (not_handled_raised _),fun h => absurd h hlate⟩

theorem handled_managementTokenFromPayload : Handled (managementTokenFromPayload now payload) ↔
    ManagementTokenDigestible now payload := by
  rw [managementTokenFromPayload,ManagementTokenDigestible]
  cases hcode : (field payload "statusCode").equalsInt 200 with
  | false =>
    constructor
    · intro _ h
      cases h
    · intro _
      exact clean_bind.mpr ⟨handled_unavailability,fun _ _ => handled_provider _ _⟩
  | true =>
    rw [available hcode (by decide)]
    simp only [forall_const]
    cases (field payload "data").asObject with
    | none => exact ⟨fun _ _ h => (by cases h),fun _ => handled_provider _ _⟩
    | some data =>
      simp only [Option.some.injEq,forall_eq',bind,Except.bind]
      cases (field data "access_token").nonEmptyText with
      | none => exact ⟨fun _ h => absurd rfl h,fun _ => handled_provider _ _⟩
      | some accessToken =>
        simp only [ne_eq,reduceCtorEq,not_false_eq_true,forall_const]
        cases positiveNumber (field data "expires_in") with
        | false => exact ⟨fun _ h => (by cases h),fun _ => handled_provider _ _⟩
        | true =>
          rw [← handled_expiryAfter]
          have hread : Handled (expiryAfter now (field data "expires_in") >>= fun expiresAt =>
              (.ok ⟨accessToken,expiresAt⟩ : Answer ManagementAccessToken)) ↔
                Handled (expiryAfter now (field data "expires_in")) :=
            clean_bind.trans ⟨fun h => h.1,fun h => ⟨h,fun _ _ => clean_ok _⟩⟩
          simp only [Bool.not_true,Bool.false_eq_true,if_false,forall_const]
          exact hread

def UserDigestible (subject : PyStr) (payload : Object) : Prop :=
  (field payload "statusCode").equalsInt 200 = true → ∀ data, (field payload "data").asObject = some data →
    (field data "userId").equalsStr subject = true → (field data "status").hashable = true

theorem handled_mappedStatus : Handled (mappedStatus status) ↔ status.hashable = true := by
  rw [mappedStatus]
  cases status.hashable with
  | false => simpa using not_handled_raised _
  | true =>
    simp only [Bool.not_true,Bool.false_eq_true,if_false,iff_true]
    split
    · exact clean_ok _
    · exact handled_provider _ _

theorem equalsInt_unique {value : Json} {n m : ℤ} (h : value.equalsInt n = true) (hne : n ≠ m) :
    value.equalsInt m = false := by
  cases value with
  | int value =>
    have hn : value = n := by simpa [Json.equalsInt] using h
    subst hn
    simpa [Json.equalsInt] using hne
  | float value =>
    cases value with
    | finite value =>
      have hn : value = (n : ℚ) := by simpa [Json.equalsInt] using h
      subst hn
      simpa [Json.equalsInt] using hne
    | nan | posInf | negInf => rfl
  | bool value =>
    have hn : (if value then 1 else 0) = n := by simpa [Json.equalsInt] using h
    subst hn
    simpa [Json.equalsInt] using hne
  | null | str _ | array _ | object _ => rfl

theorem handled_statusFromPayload (hcode : (field payload "statusCode").equalsInt 200 = true) :
    Handled (statusFromPayload payload responseStatusCode subject) ↔
      ∀ data, (field payload "data").asObject = some data →
        (field data "userId").equalsStr subject = true → (field data "status").hashable = true := by
  rw [statusFromPayload,equalsInt_unique hcode (by decide),hcode]
  simp only [Bool.and_false,Bool.false_eq_true,if_false]
  cases (field payload "data").asObject with
  | none => exact ⟨fun _ _ h => (by cases h),fun _ => handled_provider _ _⟩
  | some data =>
    simp only [Option.some.injEq,forall_eq']
    cases (field data "userId").equalsStr subject with
    | false => exact ⟨fun _ h => (by cases h),fun _ => handled_provider _ _⟩
    | true => simp [handled_mappedStatus]

theorem handled_userFromPayload : Handled (userFromPayload subject responseStatusCode payload) ↔
    UserDigestible subject payload := by
  rw [userFromPayload,UserDigestible]
  cases hcode : (field payload "statusCode").equalsInt 200 with
  | false =>
    have hstatus : Handled (statusFromPayload payload responseStatusCode subject) := by
      rw [statusFromPayload,hcode]
      split
      · exact clean_ok _
      · exact handled_provider _ _
    constructor
    · intro _ h
      cases h
    · intro _
      refine clean_bind.mpr ⟨handled_unavailability,fun _ _ => ?_⟩
      split
      · exact clean_ok _
      · exact clean_bind.mpr ⟨hstatus,fun _ _ => clean_ok _⟩
  | true =>
    rw [available hcode (by decide),equalsInt_unique hcode (by decide)]
    simp only [bind,Except.bind,Bool.false_eq_true,if_false,forall_const]
    have hread : Handled (statusFromPayload payload responseStatusCode subject >>= fun status =>
        (.ok (some status) : Answer (Option String))) ↔
          Handled (statusFromPayload payload responseStatusCode subject) :=
      clean_bind.trans ⟨fun h => h.1,fun h => ⟨h,fun _ _ => clean_ok _⟩⟩
    exact hread.trans (handled_statusFromPayload hcode)

theorem handled_userFromReply (subject : PyStr) (reply : Reply) : Handled (userFromReply subject reply) ↔
    Readable [200,404] (fun _ => UserDigestible subject) reply := by
  rw [userFromReply,handled_request_bind]
  cases reply with
  | timeout | transportError | raised _ => exact Iff.rfl
  | response statusCode body =>
    simp only [Readable,List.mem_cons,List.not_mem_nil,or_false]
    constructor
    · intro h hread
      have hhandled := h (by omega) (by omega) (by omega)
      rw [if_neg (by omega),handled_object_bind] at hhandled
      simpa only [handled_userFromPayload] using hhandled
    · intro h _ _ haccepted
      split
      · exact clean_ok _
      · next hother =>
        rw [handled_object_bind]
        simpa only [handled_userFromPayload] using h (by omega)

end management

end AiScdc.AuthingCiam
