import AiScdc.RequestProtection.FailsClosed

namespace AiScdc.RequestProtection
open DeviceSessions
open Instants (minInstant maxInstant)

inductive SecretRotation where
  | scheduled (loaded : DeviceSession) (newHash presentedHash : ℕ) (now : Time)
  | reauthentication (newHash currentHash : ℕ) (authenticatedAt now : Time)

-- The UPDATE of a rotation, with the conditions it puts on the row.
def rotated (row : DeviceSession) : SecretRotation → DeviceSession
  | .scheduled loaded newHash presentedHash now =>
    if row.status = .active ∧ row.secretHash = presentedHash ∧ row.secretRotatedAt = loaded.secretRotatedAt then
      if loaded.renewalDue now then (row.rotate newHash presentedHash now).renew now
      else row.rotate newHash presentedHash now
    else row
  | .reauthentication newHash currentHash authenticatedAt now =>
    if row.status = .active ∧ row.secretHash = currentHash then
      row.reauthenticate newHash currentHash authenticatedAt now
    else row

def second : ℤ := 1000000

section seconds

variable {t e : ℤ}

theorem wholeSecond_bound (hmin : minInstant ≤ t) (hmax : t ≤ maxInstant) : (wholeSecond t).natAbs < 10 ^ 12 := by
  have hle := Binary64.wholePart_le (n := t.natAbs) (d := 1000000) (by decide)
  rw [minInstant] at hmin
  rw [maxInstant] at hmax
  rw [wholeSecond]
  split <;> omega

theorem wholeSecond_exact (h : 0 ≤ t) (hlimit : t < 2 ^ 34 * second) : wholeSecond t = t / second := by
  rw [second] at hlimit ⊢
  have hnat : t.natAbs / 1000000 < 2 ^ 34 := by omega
  rw [wholeSecond,if_pos h,Binary64.wholePart_exact (by decide) hnat (by decide)]
  omega

theorem le_wholeSecond (h : 0 ≤ t) : t / second ≤ wholeSecond t := by
  have hle := Binary64.le_wholePart (n := t.natAbs) (d := 1000000) (by decide)
  rw [wholeSecond,if_pos h,second]
  omega

theorem wholeSecond_nonpos (h : t < 0) : wholeSecond t ≤ 0 := by
  rw [wholeSecond,if_neg (not_le.mpr h)]
  omega

theorem wholeSecond_lt_iff (hmin : second ≤ e) (hlimit : e < 2 ^ 34 * second) :
    wholeSecond t < wholeSecond e ↔ t < e / second * second := by
  have he : wholeSecond e = e / second := by
    apply wholeSecond_exact _ hlimit
    rw [second] at hmin
    omega
  rw [he]
  rcases lt_or_ge t 0 with hneg | hpos
  · have hle := wholeSecond_nonpos hneg
    rw [second] at hmin ⊢
    constructor <;> intro _ <;> omega
  · rcases lt_or_ge t (2 ^ 34 * second) with hexact | hlate
    · rw [wholeSecond_exact hpos hexact,second]
      omega
    · have hle := le_wholeSecond hpos
      rw [second] at *
      constructor <;> intro _ <;> omega

end seconds

section texts

variable {text : Text} {c : Char}

theorem trimmed_eq {p : Char → Bool} (h : ∀ c ∈ text, p c = false) :
    ((text.dropWhile p).reverse.dropWhile p).reverse = text := by
  have hkeep : ∀ l : Text, (∀ c ∈ l, p c = false) → l.dropWhile p = l := by
    intro l hl
    cases l with
    | nil => rfl
    | cons c l => exact List.dropWhile_cons_of_neg (by simp [hl c List.mem_cons_self])
  rw [hkeep text h,hkeep text.reverse fun c hc => h c (List.mem_reverse.mp hc),List.reverse_reverse]

theorem strip_unspaced (h : ∀ c ∈ text, isSpace c = false) : strip text = text := trimmed_eq h

theorem isDigit_range (h : c.isDigit = true) : 48 ≤ c.toNat ∧ c.toNat ≤ 57 := by
  obtain ⟨hmin,hmax⟩ := Bool.and_eq_true_iff.mp h
  exact ⟨of_decide_eq_true hmin,of_decide_eq_true hmax⟩

theorem ofInt_unspaced {n : ℤ} (h : c ∈ Decimal.ofInt n) : isSpace c = false := by
  rcases Decimal.digit_or_sign h with rfl | hdigit
  · decide
  · have hrange := isDigit_range hdigit
    simp only [isSpace,Bool.or_eq_false_iff,Bool.and_eq_false_iff,decide_eq_false_iff_not]
    omega

theorem readInt_ofInt {n : ℤ} {k : ℕ} (hk : 0 < k) (hmax : k ≤ Decimal.maxDigits) (h : n.natAbs < 10 ^ k) :
    readInt (Decimal.ofInt n) = some n := by
  have hspace : ∀ c ∈ Decimal.ofInt n, isIntSpace c = false := by
    intro c hc
    rw [isIntSpace,ofInt_unspaced hc,Bool.false_and]
  rw [readInt,trimmed_eq hspace,Decimal.parseInt_ofInt hk hmax h]

theorem dot_notMem_ofInt {n : ℤ} : '.' ∉ Decimal.ofInt n := by
  intro h
  rcases Decimal.digit_or_sign h with heq | hdigit
  · exact absurd heq (by decide)
  · exact absurd hdigit (by decide)

theorem Nonce.undotted (nonce : Nonce) : '.' ∉ nonce.text := by
  intro h
  have hsafe := List.all_eq_true.mp nonce.urlSafe '.' h
  exact absurd hsafe (by decide)

theorem hexDigest_undotted [CsrfMac] (key : ℕ) (payload : Text) : '.' ∉ hexDigest key payload := by
  intro h
  have hdigit := List.all_eq_true.mp (CsrfMac.hexadecimal key payload) '.' h
  exact absurd hdigit (by decide)

theorem csrfPayload_id {id id' : Text} {expiresEpoch : ℤ} {nonce : Text}
    (h : csrfPayload id expiresEpoch nonce = csrfPayload id' expiresEpoch nonce) : id = id' :=
  List.append_cancel_right h

end texts

section issued

variable [CsrfMac] {session other : AuthenticatedSession} {nonce : Nonce} {now t expiresAt : Time} {token : Text}

def issuedToken (session : AuthenticatedSession) (nonce : Nonce) (expiresAt : Time) : CsrfToken :=
  ⟨wholeSecond expiresAt,nonce.text,
    hexDigest session.row.secretHash (csrfPayload session.id (wholeSecond expiresAt) nonce.text)⟩

theorem issuedToken_undotted : '.' ∉ (issuedToken session nonce expiresAt).signature := hexDigest_undotted _ _

theorem issued_bounds (h : issueCsrfToken session nonce now = some (token,expiresAt)) :
    minInstant ≤ expiresAt ∧ expiresAt ≤ maxInstant := by
  simp only [issueCsrfToken] at h
  split at h
  · next hbounds =>
    rw [← (Prod.mk.inj (Option.some.inj h)).2]
    exact hbounds
  · exact absurd h (by simp)

theorem issued_text (h : issueCsrfToken session nonce now = some (token,expiresAt)) :
    token = "v1".toList ++ '.' :: (Decimal.ofInt (wholeSecond expiresAt) ++ '.' ::
      (nonce.text ++ '.' :: (issuedToken session nonce expiresAt).signature)) := by
  simp only [issueCsrfToken] at h
  split at h
  · obtain ⟨htext,hexpires⟩ := Prod.mk.inj (Option.some.inj h)
    rw [← htext,← hexpires]
    rfl
  · exact absurd h (by simp)

theorem parseToken_issued (h : issueCsrfToken session nonce now = some (token,expiresAt)) :
    parseToken token = some (issuedToken session nonce expiresAt) := by
  obtain ⟨hmin,hmax⟩ := issued_bounds h
  have hversion : '.' ∉ "v1".toList := by decide
  have hsplit : token.splitOn '.' = ["v1".toList,Decimal.ofInt (wholeSecond expiresAt),nonce.text,
      (issuedToken session nonce expiresAt).signature] := by
    rw [issued_text h,List.splitOn_append_cons_self,List.splitOn_append_cons_self,
      List.splitOn_append_cons_self,List.splitOn_eq_singleton hversion,
      List.splitOn_eq_singleton dot_notMem_ofInt,List.splitOn_eq_singleton nonce.undotted,
      List.splitOn_eq_singleton issuedToken_undotted]
    rfl
  have hnumber : readInt (Decimal.ofInt (wholeSecond expiresAt)) = some (wholeSecond expiresAt) :=
    readInt_ofInt (by decide) (by decide) (wholeSecond_bound hmin hmax)
  have hfilled : ¬ (nonce.text = [] ∨ (issuedToken session nonce expiresAt).signature = []) := by
    rintro (hnonce | hsignature)
    · exact nonce.nonempty hnonce
    · exact CsrfMac.nonempty _ _ hsignature
  rw [parseToken,hsplit]
  simp only [ne_eq,not_true,if_false,hnumber,Option.bind_some,if_neg hfilled]
  rfl

theorem enforceToken_issued (h : issueCsrfToken session nonce now = some (token,expiresAt)) :
    enforceToken other (some token) t = .ok () ↔
      wholeSecond t < wholeSecond expiresAt ∧ Signed other (issuedToken session nonce expiresAt) t := by
  have hparse := parseToken_issued h
  rw [enforceToken_ok_iff]
  constructor
  · rintro ⟨text,parsed,htext,hparsed,haccepted⟩
    rw [← Option.some.inj htext,hparse] at hparsed
    rw [← Option.some.inj hparsed] at haccepted
    exact haccepted
  · intro haccepted
    exact ⟨token,_,rfl,hparse,haccepted⟩

-- Equal tags come from equal keys and messages only.
def Unforgeable : Prop :=
  ∀ key payload key' payload', hexDigest key payload = hexDigest key' payload' → key = key' ∧ payload = payload'

theorem signed_issued_iff (hmac : Unforgeable) : Signed other (issuedToken session nonce expiresAt) t ↔
    other.id = session.id ∧ ValidSecret other.row t session.row.secretHash := by
  constructor
  · rintro ⟨secretHash,hvalid,hsignature⟩
    obtain ⟨hkey,hpayload⟩ := hmac _ _ _ _ hsignature
    rw [hkey]
    exact ⟨(csrfPayload_id hpayload).symm,hvalid⟩
  · rintro ⟨hid,hvalid⟩
    refine ⟨_,hvalid,?_⟩
    rw [hid]
    rfl

theorem token_lifetime (hmac : Unforgeable) (id : Text) (first : DeviceSession)
    (before after : List SecretRotation) (nonce : Nonce) (now expiresAt : Time) (token : Text)
    (hissued : issueCsrfToken ⟨id,before.foldl rotated first⟩ nonce now = some (token,expiresAt)) :
    (∀ t, enforceToken ⟨id,(before ++ after).foldl rotated first⟩ (some token) t = .ok () ↔
      wholeSecond t < wholeSecond expiresAt ∧
        ValidSecret ((before ++ after).foldl rotated first) t (before.foldl rotated first).secretHash) ∧
    (second ≤ expiresAt → expiresAt < 2 ^ 34 * second → ∀ t,
      (wholeSecond t < wholeSecond expiresAt ↔ t < expiresAt / second * second)) ∧
    ∀ other t, other.id ≠ id → enforceToken other (some token) t ≠ .ok () := by
  refine ⟨fun t => ?_,fun hmin hlimit t => wholeSecond_lt_iff hmin hlimit,fun other t hother hok => ?_⟩
  · rw [enforceToken_issued hissued,signed_issued_iff hmac]
    simp only [true_and]
  · obtain ⟨_,hsigned⟩ := (enforceToken_issued hissued).mp hok
    exact hother ((signed_issued_iff hmac).mp hsigned).1

end issued

section writtenMac

variable {n m : ℕ} {rest rest' : Text}

theorem tally_injective (h : List.replicate n 'a' ++ 'b' :: rest = List.replicate m 'a' ++ 'b' :: rest') :
    n = m ∧ rest = rest' := by
  induction n generalizing m with
  | zero =>
    cases m with
    | zero => exact ⟨rfl,(List.cons.inj h).2⟩
    | succ m => exact absurd (List.cons.inj h).1 (by decide)
  | succ n ih =>
    cases m with
    | zero => exact absurd (List.cons.inj h).1 (by decide)
    | succ m =>
      obtain ⟨hnm,hrest⟩ := ih (List.cons.inj h).2
      exact ⟨congrArg Nat.succ hnm,hrest⟩

theorem written_injective {payload payload' : Text}
    (h : (payload.flatMap fun c => List.replicate c.toNat 'a' ++ ['b']) =
      payload'.flatMap fun c => List.replicate c.toNat 'a' ++ ['b']) : payload = payload' := by
  induction payload generalizing payload' with
  | nil =>
    cases payload' with
    | nil => rfl
    | cons c payload' => simp at h
  | cons c payload ih =>
    cases payload' with
    | nil => simp at h
    | cons c' payload' =>
      simp only [List.flatMap_cons,List.append_assoc,List.singleton_append] at h
      obtain ⟨hc,hrest⟩ := tally_injective h
      rw [Char.toNat_inj.mp hc,ih hrest]

theorem writtenMac_unforgeable : @Unforgeable writtenMac := by
  intro key payload key' payload' h
  obtain ⟨hkey,hpayload⟩ := tally_injective h
  exact ⟨hkey,written_injective hpayload⟩

end writtenMac

def firstId : Text := "device_session_1".toList

def plainNonce : Nonce := ⟨"n".toList,by decide,by decide⟩

def firstRotation : SecretRotation := .scheduled firstRow 2 1 0

theorem issued_some [CsrfMac] (session : AuthenticatedSession) (nonce : Nonce) {now : Time}
    (hmin : minInstant ≤ now + csrfTokenTtl) (hmax : now + csrfTokenTtl ≤ maxInstant) :
    ∃ token, issueCsrfToken session nonce now = some (token,now + csrfTokenTtl) :=
  ⟨_,if_pos ⟨hmin,hmax⟩⟩

-- The token of the secret before a rotation: one minute later, and past the two minutes it stays valid.
theorem token_lifetime_rotated : ∃ token,
    @issueCsrfToken writtenMac ⟨firstId,firstRow⟩ plainNonce 0 = some (token,csrfTokenTtl) ∧
    @enforceToken writtenMac ⟨firstId,rotated firstRow firstRotation⟩ (some token) (60 * second) = .ok () ∧
    @enforceToken writtenMac ⟨firstId,rotated firstRow firstRotation⟩ (some token) (121 * second) ≠ .ok () := by
  obtain ⟨token,hissued⟩ := @issued_some writtenMac ⟨firstId,firstRow⟩ plainNonce 0 (by decide) (by decide)
  have hlifetime := (@token_lifetime writtenMac writtenMac_unforgeable firstId firstRow [] [firstRotation]
    plainNonce 0 _ token hissued).1
  refine ⟨token,hissued,(hlifetime _).mpr ⟨?_,Or.inr ⟨rfl,_,rfl,by decide⟩⟩,fun hok => ?_⟩
  · exact (wholeSecond_lt_iff (by decide) (by decide)).mpr (by decide)
  · rcases ((hlifetime _).mp hok).2 with hcurrent | ⟨_,validUntil,huntil,hle⟩
    · exact absurd hcurrent (by decide)
    · rw [← Option.some.inj huntil] at hle
      exact absurd hle (by decide)

def lateExpiry : Time := (2 ^ 34 + 10) * second

-- The last microsecond before the expiry is rounded up to it.
theorem late_token_expires_early : ¬ ∀ token expiresAt,
    @issueCsrfToken writtenMac ⟨firstId,firstRow⟩ plainNonce (lateExpiry - csrfTokenTtl) = some (token,expiresAt) →
    (@enforceToken writtenMac ⟨firstId,firstRow⟩ (some token) (lateExpiry - 1) = .ok () ↔
      lateExpiry - 1 < expiresAt / second * second ∧
        ValidSecret firstRow (lateExpiry - 1) firstRow.secretHash) := by
  intro h
  obtain ⟨token,hissued⟩ := @issued_some writtenMac ⟨firstId,firstRow⟩ plainNonce (lateExpiry - csrfTokenTtl)
    (by decide) (by decide)
  have hok := (h token _ hissued).mpr ⟨by decide,Or.inl rfl⟩
  have hsecond := ((@enforceToken_issued writtenMac _ _ _ _ _ _ _ hissued).mp hok).1
  exact absurd hsecond (by decide +kernel)

end AiScdc.RequestProtection
