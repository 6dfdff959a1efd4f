import AiScdc.DeviceSessions.Operations
import AiScdc.Numbers.Binary64
import AiScdc.Numbers.Instants
import AiScdc.Sandbox
import AiScdc.Text.Decimal

namespace AiScdc.RequestProtection
open DeviceSessions
open Instants (minInstant maxInstant)

def isAscii (c : Char) : Bool := c.toNat < 128

def isHexDigit (c : Char) : Bool := c.isDigit || ('a' ≤ c && c ≤ 'f')

-- HMAC-SHA-256 under a secret hash, as hexdigest() writes it.
class CsrfMac where
  hexDigest : ℕ → Text → Text
  hexadecimal : ∀ key payload, (hexDigest key payload).all isHexDigit = true
  nonempty : ∀ key payload, hexDigest key payload ≠ []

export CsrfMac (hexDigest)

-- CSRF_TOKEN_TTL_SECONDS, in microseconds.
def csrfTokenTtl : ℤ := 60 * 60 * 1000000

-- int(value.timestamp()): the timestamp is a float, and int() cuts towards zero.
def wholeSecond (t : ℤ) : ℤ :=
  if 0 ≤ t then Binary64.wholePart t.natAbs 1000000 else -(Binary64.wholePart t.natAbs 1000000)

structure AuthenticatedSession where
  id : Text
  row : DeviceSession

structure Nonce where
  text : Text
  urlSafe : text.all fun c => c.isAlphanum || c = '-' || c = '_'
  nonempty : text ≠ []

inductive Failure where
  | rejected (eventType reasonCode : String)
  | typeError
  deriving DecidableEq, Repr

def csrfPayload (deviceSessionId : Text) (expiresEpoch : ℤ) (nonce : Text) : Text :=
  deviceSessionId ++ ':' :: (Decimal.ofInt expiresEpoch ++ ':' :: nonce)

-- A stand-in that writes the key and the payload out.
@[reducible] def writtenMac : CsrfMac where
  hexDigest key payload :=
    List.replicate key 'a' ++ 'b' :: payload.flatMap fun c => List.replicate c.toNat 'a' ++ ['b']
  hexadecimal key payload := by
    rw [List.all_eq_true]
    intro c hc
    have hletter : c = 'a' ∨ c = 'b' := by
      simp only [List.mem_append,List.mem_cons,List.mem_flatMap,List.mem_replicate] at hc
      rcases hc with ⟨_,ha⟩ | hb | ⟨_,_,⟨_,ha⟩ | hb⟩
      · exact Or.inl ha
      · exact Or.inr hb
      · exact Or.inl ha
      · rcases hb with hb | hb
        · exact Or.inr hb
        · exact absurd hb List.not_mem_nil
    rcases hletter with rfl | rfl <;> decide
  nonempty key payload := by simp

def firstRow : DeviceSession where
  userId := 0
  secretHash := 1
  previousSecretHash := none
  previousSecretValidUntil := none
  secretRotatedAt := 0
  recentAuthenticatedAt := none
  status := .active
  idleExpiresAt := userSessionIdle
  lastSeenAt := 0
  updatedAt := 0
  revokedAt := none

section issuing

variable [CsrfMac]

-- There is no answer where the addition overflows.
def issueCsrfToken (session : AuthenticatedSession) (nonce : Nonce) (now : Time) : Option (Text × Time) :=
  let expiresAt := now + csrfTokenTtl
  if minInstant ≤ expiresAt ∧ expiresAt ≤ maxInstant then
    let expiresEpoch := wholeSecond expiresAt
    let signature := hexDigest session.row.secretHash (csrfPayload session.id expiresEpoch nonce.text)
    some ("v1".toList ++ '.' :: (Decimal.ofInt expiresEpoch ++ '.' :: (nonce.text ++ '.' :: signature)),expiresAt)
  else none

end issuing

structure CsrfToken where
  expiresEpoch : ℤ
  nonce : Text
  signature : Text
  deriving DecidableEq, Repr

-- The blanks that int() skips: not the separators U+001C to U+001F, which str.strip() removes too.
def isIntSpace (c : Char) : Bool := isSpace c && !(28 ≤ c.toNat && c.toNat ≤ 31)

def readInt (text : Text) : Option ℤ :=
  Decimal.parseInt ((text.dropWhile isIntSpace).reverse.dropWhile isIntSpace).reverse

-- All malformed texts are rejected with the same reason.
def parseToken (presentedToken : Text) : Option CsrfToken :=
  match presentedToken.splitOn '.' with
  | [version,expires,nonce,signature] =>
    if version ≠ "v1".toList then none
    else
      (readInt expires).bind fun expiresEpoch =>
        if nonce = [] ∨ signature = [] then none else some ⟨expiresEpoch,nonce,signature⟩
  | _ => none

-- hmac.compare_digest takes texts of ASCII characters only.
def compareDigest (a b : Text) : Except Failure Bool :=
  if a.all isAscii && b.all isAscii then .ok (a = b) else .error .typeError

def rejectOrigin {α : Type} (reasonCode : String) : Except Failure α :=
  .error (.rejected "origin_rejected" reasonCode)

def rejectCsrf {α : Type} (reasonCode : String) : Except Failure α :=
  .error (.rejected "csrf_rejected" reasonCode)

section enforcing

variable [CsrfMac]

def currentSignatureMatches (session : AuthenticatedSession) (token : CsrfToken) : Except Failure Bool :=
  compareDigest token.signature
    (hexDigest session.row.secretHash (csrfPayload session.id token.expiresEpoch token.nonce))

def previousSignatureMatches (session : AuthenticatedSession) (token : CsrfToken) (now : Time) :
    Except Failure Bool :=
  match session.row.previousSecretHash, session.row.previousSecretValidUntil with
  | some previousSecretHash, some validUntil =>
    if now ≤ validUntil then
      compareDigest token.signature
        (hexDigest previousSecretHash (csrfPayload session.id token.expiresEpoch token.nonce))
    else .ok false
  | _, _ => .ok false

def enforceParsed (session : AuthenticatedSession) (token : CsrfToken) (now : Time) : Except Failure Unit := do
  let current ← currentSignatureMatches session token
  let previous ← previousSignatureMatches session token now
  if !current && !previous then rejectCsrf "csrf_token_mismatch"
  else if token.expiresEpoch ≤ wholeSecond now then rejectCsrf "csrf_token_expired"
  else .ok ()

def enforceToken (session : AuthenticatedSession) (presentedToken : Option Text) (now : Time) :
    Except Failure Unit :=
  match presentedToken with
  | none | some [] => rejectCsrf "csrf_token_required"
  | some presentedToken =>
    match parseToken presentedToken with
    | none => rejectCsrf "csrf_token_malformed"
    | some token => enforceParsed session token now

def unsafeHttpMethods : List Text :=
  ["POST".toList,"PUT".toList,"PATCH".toList,"DELETE".toList]

structure BrowserRequest where
  method : Text
  origin : Option Text
  csrfToken : Option Text

namespace BrowserRequest

def isUnsafe (r : BrowserRequest) : Bool := unsafeHttpMethods.contains (r.method.map Char.toUpper)

end BrowserRequest

def enforceOrigin (allowedOrigin : Text) : Option Text → Except Failure Unit
  | none => rejectOrigin "origin_required"
  | some presentedOrigin => do
    if !(← compareDigest presentedOrigin allowedOrigin) then rejectOrigin "origin_mismatch"
    else .ok ()

def enforceCookieRequestProtection (allowedOrigin : Text) (session : AuthenticatedSession)
    (r : BrowserRequest) (now : Time) : Except Failure Unit :=
  if !r.isUnsafe then .ok ()
  else do
    enforceOrigin allowedOrigin r.origin
    enforceToken session r.csrfToken now

end enforcing

end AiScdc.RequestProtection
