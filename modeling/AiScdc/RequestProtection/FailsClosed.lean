import AiScdc.RequestProtection.Tokens

namespace AiScdc.RequestProtection
open DeviceSessions

-- The secrets of a row that a signature may be made with.
def ValidSecret (row : DeviceSession) (now : Time) (secretHash : ℕ) : Prop :=
  secretHash = row.secretHash ∨ row.previousSecretHash = some secretHash ∧
    ∃ validUntil, row.previousSecretValidUntil = some validUntil ∧ now ≤ validUntil

section digests

variable {a b : Text} {c : Char}

theorem isAscii_of_isHexDigit (h : isHexDigit c = true) : isAscii c = true := by
  rw [isHexDigit,Bool.or_eq_true] at h
  rw [isAscii,decide_eq_true_eq]
  rcases h with hdigit | hletter
  · have hle := (Bool.and_eq_true_iff.mp hdigit).2
    have hnat : c.toNat ≤ 57 := of_decide_eq_true hle
    omega
  · have hle := of_decide_eq_true (Bool.and_eq_true_iff.mp hletter).2
    have hnat : c.toNat ≤ 102 := hle
    omega

theorem compareDigest_ascii (ha : a.all isAscii = true) (hb : b.all isAscii = true) :
    compareDigest a b = .ok (decide (a = b)) := by
  rw [compareDigest,ha,hb]
  rfl

theorem compareDigest_raises (h : ¬ (a.all isAscii = true ∧ b.all isAscii = true)) :
    compareDigest a b = .error .typeError := by
  rw [compareDigest,if_neg]
  rw [Bool.and_eq_true]
  exact h

variable [CsrfMac]

theorem hexDigest_ascii (key : ℕ) (payload : Text) : (hexDigest key payload).all isAscii = true := by
  rw [List.all_eq_true]
  intro c hc
  exact isAscii_of_isHexDigit (List.all_eq_true.mp (CsrfMac.hexadecimal key payload) c hc)

end digests

section tokens

variable [CsrfMac] {session : AuthenticatedSession} {token : CsrfToken} {now : Time}

def Signed (session : AuthenticatedSession) (token : CsrfToken) (now : Time) : Prop :=
  ∃ secretHash, ValidSecret session.row now secretHash ∧
    token.signature = hexDigest secretHash (csrfPayload session.id token.expiresEpoch token.nonce)

theorem Signed.ascii (h : Signed session token now) : token.signature.all isAscii = true := by
  obtain ⟨secretHash,_,hsignature⟩ := h
  rw [hsignature]
  exact hexDigest_ascii _ _

theorem current_ascii (h : token.signature.all isAscii = true) :
    currentSignatureMatches session token = .ok (decide (token.signature =
      hexDigest session.row.secretHash (csrfPayload session.id token.expiresEpoch token.nonce))) :=
  compareDigest_ascii h (hexDigest_ascii _ _)

theorem current_raises (h : ¬ token.signature.all isAscii = true) :
    currentSignatureMatches session token = .error .typeError :=
  compareDigest_raises fun hboth => h hboth.1

variable (session now) in
theorem previous_ascii (h : token.signature.all isAscii = true) :
    ∃ found, previousSignatureMatches session token now = .ok found ∧
      (found = true ↔ ∃ secretHash, session.row.previousSecretHash = some secretHash ∧
        (∃ validUntil, session.row.previousSecretValidUntil = some validUntil ∧ now ≤ validUntil) ∧
        token.signature = hexDigest secretHash (csrfPayload session.id token.expiresEpoch token.nonce)) := by
  rw [previousSignatureMatches]
  cases hhash : session.row.previousSecretHash with
  | none => exact ⟨false,rfl,by simp⟩
  | some secretHash =>
    cases huntil : session.row.previousSecretValidUntil with
    | none => exact ⟨false,rfl,by simp⟩
    | some validUntil =>
      simp only
      split
      · next hle =>
        refine ⟨_,compareDigest_ascii h (hexDigest_ascii _ _),?_⟩
        simp [hle]
      · next hlate => exact ⟨false,rfl,by simp [hlate]⟩

theorem enforceParsed_ok_iff :
    enforceParsed session token now = .ok () ↔ wholeSecond now < token.expiresEpoch ∧ Signed session token now := by
  by_cases hascii : token.signature.all isAscii = true
  · obtain ⟨previous,hprevious,hfound⟩ := previous_ascii session now hascii
    have hsigned : Signed session token now ↔ (decide (token.signature = hexDigest session.row.secretHash
        (csrfPayload session.id token.expiresEpoch token.nonce)) || previous) = true := by
      rw [Bool.or_eq_true,hfound,decide_eq_true_eq]
      constructor
      · rintro ⟨secretHash,rfl | ⟨hhash,huntil⟩,hsignature⟩
        · exact Or.inl hsignature
        · exact Or.inr ⟨secretHash,hhash,huntil,hsignature⟩
      · rintro (hsignature | ⟨secretHash,hhash,huntil,hsignature⟩)
        · exact ⟨_,Or.inl rfl,hsignature⟩
        · exact ⟨secretHash,Or.inr ⟨hhash,huntil⟩,hsignature⟩
    rw [hsigned,enforceParsed,current_ascii hascii,hprevious]
    generalize decide (token.signature = hexDigest session.row.secretHash
      (csrfPayload session.id token.expiresEpoch token.nonce)) = current
    change (if (!current && !previous) = true then rejectCsrf "csrf_token_mismatch"
      else if token.expiresEpoch ≤ wholeSecond now then rejectCsrf "csrf_token_expired" else .ok ()) = _ ↔ _
    rw [← Bool.not_or]
    cases current || previous
    · simp [rejectCsrf]
    · simp only [Bool.not_true,Bool.false_eq_true,if_false,and_true]
      split
      · next hexpired => simp [rejectCsrf,not_lt.mpr hexpired]
      · next hlater => simp [not_le.mp hlater]
  · rw [enforceParsed,current_raises hascii]
    constructor
    · intro hok
      exact absurd hok (by simp [bind,Except.bind])
    · rintro ⟨_,hsigned⟩
      exact absurd hsigned.ascii hascii

theorem enforceParsed_raises_iff :
    enforceParsed session token now = .error .typeError ↔ ¬ token.signature.all isAscii = true := by
  by_cases hascii : token.signature.all isAscii = true
  · obtain ⟨previous,hprevious,_⟩ := previous_ascii session now hascii
    rw [enforceParsed,current_ascii hascii,hprevious]
    simp only [bind,Except.bind,hascii,not_true,iff_false,rejectCsrf]
    split
    · simp
    · split <;> simp
  · rw [enforceParsed,current_raises hascii]
    simp [bind,Except.bind,hascii]

theorem enforceToken_parsed {presented : Option Text} {outcome : Except Failure Unit}
    (hcsrf : ∀ reasonCode, outcome ≠ rejectCsrf reasonCode) :
    enforceToken session presented now = outcome ↔ ∃ text token, presented = some text ∧
      parseToken text = some token ∧ enforceParsed session token now = outcome := by
  have hrejected : ∀ reasonCode, rejectCsrf reasonCode ≠ outcome := fun reasonCode => (hcsrf reasonCode).symm
  cases presented with
  | none => simp [enforceToken,hrejected]
  | some text =>
    cases text with
    | nil =>
      have hempty : parseToken [] = none := rfl
      simp [enforceToken,hrejected,hempty]
    | cons c text =>
      simp only [enforceToken]
      cases hparse : parseToken (c :: text) with
      | none => simp [hrejected,hparse]
      | some token => simp [hparse]

theorem enforceToken_ok_iff {presented : Option Text} : enforceToken session presented now = .ok () ↔
    ∃ text token, presented = some text ∧ parseToken text = some token ∧
      wholeSecond now < token.expiresEpoch ∧ Signed session token now := by
  rw [enforceToken_parsed (by simp [rejectCsrf])]
  simp only [enforceParsed_ok_iff]

theorem enforceToken_raises_iff {presented : Option Text} :
    enforceToken session presented now = .error .typeError ↔
      ∃ text token, presented = some text ∧ parseToken text = some token ∧
        ¬ token.signature.all isAscii = true := by
  rw [enforceToken_parsed (by simp [rejectCsrf])]
  simp only [enforceParsed_raises_iff]

end tokens

section origins

variable {allowedOrigin : Text} {presented : Option Text}

theorem enforceOrigin_ok_iff :
    enforceOrigin allowedOrigin presented = .ok () ↔ presented = some allowedOrigin ∧
      allowedOrigin.all isAscii = true := by
  cases presented with
  | none => simp [enforceOrigin,rejectOrigin]
  | some origin =>
    by_cases hascii : origin.all isAscii = true ∧ allowedOrigin.all isAscii = true
    · rw [enforceOrigin,compareDigest_ascii hascii.1 hascii.2]
      by_cases hsame : origin = allowedOrigin
      · simp [bind,Except.bind,hsame,hascii.2]
      · simp [bind,Except.bind,hsame,rejectOrigin]
    · rw [enforceOrigin,compareDigest_raises hascii]
      constructor
      · intro hok
        exact absurd hok (by simp [bind,Except.bind])
      · rintro ⟨horigin,hallowed⟩
        rw [Option.some.inj horigin] at hascii
        exact absurd ⟨hallowed,hallowed⟩ hascii

theorem enforceOrigin_raises_iff :
    enforceOrigin allowedOrigin presented = .error .typeError ↔ ∃ origin, presented = some origin ∧
      ¬ (origin.all isAscii = true ∧ allowedOrigin.all isAscii = true) := by
  cases presented with
  | none => simp [enforceOrigin,rejectOrigin]
  | some origin =>
    simp only [Option.some.injEq,exists_eq_left']
    by_cases hascii : origin.all isAscii = true ∧ allowedOrigin.all isAscii = true
    · rw [enforceOrigin,compareDigest_ascii hascii.1 hascii.2]
      simp only [bind,Except.bind,hascii,and_self,not_true,iff_false,rejectOrigin]
      split <;> simp
    · rw [enforceOrigin,compareDigest_raises hascii]
      simp only [bind,Except.bind,hascii,not_false_eq_true]

end origins

section requests

def Answered (outcome : Except Failure Unit) : Prop :=
  outcome = .ok () ∨ ∃ eventType reasonCode, outcome = .error (.rejected eventType reasonCode)

theorem answered_iff {outcome : Except Failure Unit} : Answered outcome ↔ outcome ≠ .error .typeError := by
  rw [Answered]
  cases outcome with
  | ok _ => simp
  | error failure => cases failure <;> simp

variable [CsrfMac] {allowedOrigin : Text} {session : AuthenticatedSession} {r : BrowserRequest} {now : Time}

structure FailsClosed (allowedOrigin : Text) (session : AuthenticatedSession) (r : BrowserRequest)
    (now : Time) : Prop where
  answered : Answered (enforceCookieRequestProtection allowedOrigin session r now)
  origin : r.isUnsafe = true → enforceCookieRequestProtection allowedOrigin session r now = .ok () →
    r.origin = some allowedOrigin
  token : r.isUnsafe = true → enforceCookieRequestProtection allowedOrigin session r now = .ok () →
    ∃ text token, r.csrfToken = some text ∧ parseToken text = some token ∧
      wholeSecond now < token.expiresEpoch ∧ Signed session token now

-- No comparison of the request meets a character outside ASCII.
structure Comparable (allowedOrigin : Text) (r : BrowserRequest) : Prop where
  origins : ∀ origin, r.origin = some origin → origin.all isAscii = true ∧ allowedOrigin.all isAscii = true
  signatures : r.origin = some allowedOrigin → ∀ text token, r.csrfToken = some text →
    parseToken text = some token → token.signature.all isAscii = true

theorem enforce_ok (hmethod : r.isUnsafe = true)
    (h : enforceCookieRequestProtection allowedOrigin session r now = .ok ()) :
    r.origin = some allowedOrigin ∧ enforceToken session r.csrfToken now = .ok () := by
  rw [enforceCookieRequestProtection,hmethod] at h
  cases horigin : enforceOrigin allowedOrigin r.origin with
  | ok _ =>
    rw [horigin] at h
    exact ⟨(enforceOrigin_ok_iff.mp horigin).1,h⟩
  | error failure =>
    rw [horigin] at h
    exact absurd h (by simp [bind,Except.bind])

theorem enforce_raises_iff (hmethod : r.isUnsafe = true) :
    enforceCookieRequestProtection allowedOrigin session r now = .error .typeError ↔
      ¬ Comparable allowedOrigin r := by
  rw [enforceCookieRequestProtection,hmethod]
  cases horigin : enforceOrigin allowedOrigin r.origin with
  | ok _ =>
    obtain ⟨hsame,hallowed⟩ := enforceOrigin_ok_iff.mp horigin
    change enforceToken session r.csrfToken now = _ ↔ _
    rw [enforceToken_raises_iff]
    constructor
    · rintro ⟨text,token,htext,htoken,hascii⟩ hcomparable
      exact hascii (hcomparable.signatures hsame text token htext htoken)
    · intro hincomparable
      by_contra hnone
      push Not at hnone
      apply hincomparable
      constructor
      · intro origin hpresented
        rw [hsame] at hpresented
        rw [← Option.some.inj hpresented]
        exact ⟨hallowed,hallowed⟩
      · exact fun _ => hnone
  | error failure =>
    change Except.error failure = _ ↔ _
    rw [← horigin,enforceOrigin_raises_iff]
    constructor
    · rintro ⟨origin,hpresented,hascii⟩ hcomparable
      exact hascii (hcomparable.origins origin hpresented)
    · intro hincomparable
      by_contra hnone
      push Not at hnone
      apply hincomparable
      refine ⟨fun origin hpresented => hnone origin hpresented,fun hsame => ?_⟩
      have hascii := hnone allowedOrigin hsame
      rw [enforceOrigin_ok_iff.mpr ⟨hsame,hascii.1⟩] at horigin
      exact absurd horigin (by simp)

theorem fails_closed_iff (allowedOrigin : Text) (session : AuthenticatedSession) (r : BrowserRequest)
    (now : Time) : FailsClosed allowedOrigin session r now ↔
      (r.isUnsafe = true → Comparable allowedOrigin r) := by
  constructor
  · intro h hmethod
    by_contra hincomparable
    exact answered_iff.mp h.answered ((enforce_raises_iff hmethod).mpr hincomparable)
  · intro h
    constructor
    · rw [answered_iff]
      intro hraises
      cases hmethod : r.isUnsafe with
      | false =>
        rw [enforceCookieRequestProtection,hmethod] at hraises
        exact absurd hraises (by simp)
      | true => exact (enforce_raises_iff hmethod).mp hraises (h hmethod)
    · exact fun hmethod hok => (enforce_ok hmethod hok).1
    · exact fun hmethod hok => enforceToken_ok_iff.mp (enforce_ok hmethod hok).2

end requests

theorem accented_origin_raises : ¬ @FailsClosed writtenMac "https://localhost".toList ⟨"device_session_1".toList,firstRow⟩
    ⟨"POST".toList,some "https://caf\u00e9".toList,none⟩ 0 := by
  intro h
  have hraises : @enforceCookieRequestProtection writtenMac "https://localhost".toList
      ⟨"device_session_1".toList,firstRow⟩ ⟨"POST".toList,some "https://caf\u00e9".toList,none⟩ 0 =
        .error .typeError := by rfl
  exact answered_iff.mp (@FailsClosed.answered writtenMac _ _ _ _ h) hraises

end AiScdc.RequestProtection
