import AiScdc.DeviceSessions.Operations
import AiScdc.Transaction.Execution

namespace AiScdc.DeviceSessions
open Transaction

abbrev RowChange := ∀ k : Key, Row k → Row k → Prop

-- Every statement changes its row by S, whatever the row has become meanwhile.
def rowCourse (S : RowChange) : Course Row Unit where
  learn _ _ _ _ := False
  number _ _ _ := False
  update _ k g s _ := ∀ v, g v = true → S k v (s v)
  flush _ k l n _ := ∀ v, S k v (Schema.merge k l n v)
  commit _ _ := True
  rollback _ _ := True

def DeviceSession.secretPart (s : DeviceSession) : ℕ × Option ℕ × Option Time × Time :=
  (s.secretHash,s.previousSecretHash,s.previousSecretValidUntil,s.secretRotatedAt)

-- What a request does to sessions besides rotating secrets, and anything done to continuations.
structure Mild (S : RowChange) : Prop where
  ending : ∀ {id : Id} {l n : DeviceSession}, n.status ≠ .active → n.secretPart = l.secretPart →
    ∀ v, S (.deviceSession id) v (Schema.merge (Key.deviceSession id) (some l) (some n) v)
  revoking : ∀ {id : Id} {g : DeviceSession → Bool} (now : Time), (∀ s, g s = true → s.status = .active) →
    ∀ v : Row (.deviceSession id), v.any g = true →
      S (.deviceSession id) v (v.map fun s : DeviceSession => s.revoke now)
  renewing : ∀ {id : Id} {g : DeviceSession → Bool} (now : Time), (∀ s, g s = true → s.status = .active) →
    ∀ v : Row (.deviceSession id), v.any g = true →
      S (.deviceSession id) v (v.map fun s : DeviceSession => s.renew now)
  continuation : ∀ {id : Id} (v u : Row (.continuation id)), S (.continuation id) v u

-- Rotating a secret of an active session, and opening a session.
structure Rotates (S : RowChange) : Prop extends Mild S where
  rotating : ∀ {id : Id} {g : DeviceSession → Bool} {f : DeviceSession → DeviceSession},
    (∀ s, g s = true → s.status = .active) → ∀ v : Row (.deviceSession id), v.any g = true →
      S (.deviceSession id) v (v.map f)
  opening : ∀ {id : Id} (s : DeviceSession), S (.deviceSession id) none (some s)

theorem rowCourse_rules {S : RowChange} (ht : ∀ {k v u z}, S k v u → S k u z → S k v z) :
    RowRules (rowCourse S) (fun _ _ _ _ => True) fun k _ v u => S k v u where
  update h hg := h _ hg
  flush h _ _ := h _
  updateAgain h hP hg := ht h (hP _ hg)
  flushAgain h hP _ _ := ht h (hP _)

section programs

variable {α β : Type} {S : RowChange}

def Changes (S : RowChange) (m : Op α) : Prop := Obeys (rowCourse S) (fun _ => True) m

theorem changes_commit : Changes S commit := .commit (fun _ _ => ⟨(),trivial,trivial⟩) (.pure ())

theorem changes_rollback : Changes S rollback := .rollback (fun _ _ => ⟨(),trivial,trivial⟩) (.pure ())

theorem changes_respond (response : Response) : Changes S (respond response : Op α) := .raise response

theorem changes_fresh : Changes S freshId := .freshId fun _ => .pure _

theorem Changes.bind {m : Op α} {f : α → Op β} (h : Changes S m) (hf : ∀ a, Changes S (f a)) :
    Changes S (m >>= f) := Obeys.bind h hf

theorem changes_pure (a : α) : Changes S (pure a : Op α) := .pure a

theorem changes_get (k : Key) : Changes S (Rows.get (E := Key.Entity) k) := Rows.obeys_get k

theorem changes_if {b : Prop} [Decidable b] {m m' : Op α} (h : Changes S m) (h' : Changes S m') :
    Changes S (if b then m else m') := by
  split
  · exact h
  · exact h'

theorem changes_record (response : Response) : Changes S (recordAndRespond response : Op α) :=
  changes_commit.bind fun _ => changes_respond _

theorem changes_invalid : Changes S (invalidUserSession : Op α) := changes_respond _

theorem changes_refresh (id : Id) : Changes S (refreshDeviceSession id) := by
  refine (changes_get _).bind fun row => ?_
  cases row with
  | none => exact changes_invalid
  | some s => exact changes_pure s

section mild

variable (hS : Mild S)

include hS

theorem changes_end {id : Id} {l n : DeviceSession} (hn : n.status ≠ .active)
    (hp : n.secretPart = l.secretPart) : Changes S (Rows.flush (.deviceSession id) l n) :=
  Rows.obeys_flush fun _ _ => ⟨(),trivial,hS.ending hn hp⟩

theorem changes_revoke {id : Id} {g : DeviceSession → Bool} {now : Time}
    (hg : ∀ s, g s = true → s.status = .active) :
    Changes S (Rows.updateWhere (.deviceSession id) g fun s : DeviceSession => s.revoke now) :=
  Rows.obeys_updateWhere fun _ _ => ⟨(),trivial,hS.revoking now hg⟩

theorem changes_revokeAll {g : Id → DeviceSession → Bool} {now : Time}
    (hg : ∀ id s, g id s = true → s.status = .active) :
    Changes S (Rows.updateAll Key.deviceSession g fun _ (s : DeviceSession) => s.revoke now) :=
  Rows.obeys_updateAll fun id _ _ => ⟨(),trivial,hS.revoking now (hg id)⟩

theorem changes_flushContinuation (id : Id) (l n : ProviderLogoutContinuation) :
    Changes S (Rows.flush (.continuation id) l n) :=
  Rows.obeys_flush fun _ _ => ⟨(),trivial,fun v => hS.continuation v _⟩

theorem changes_revokeUser (userId : Id) (now : Time) : Changes S (revokeUserSessions userId now) := by
  refine (changes_revokeAll hS fun id s hs => ?_).bind fun _ => changes_pure _
  simp only [Bool.and_eq_true,decide_eq_true_eq] at hs
  exact hs.2

theorem changes_replace (id : Id) (hint : Option String) (now : Time) :
    Changes S (replaceProviderLogoutContinuation id hint now) := by
  refine Changes.bind (Rows.obeys_updateAll fun _ _ _ => ⟨(),trivial,fun v _ => hS.continuation v _⟩)
    fun _ => ?_
  cases hint with
  | none => exact changes_pure ()
  | some hint =>
    exact changes_fresh.bind fun _ =>
      Rows.obeys_insert fun _ _ => ⟨(),trivial,fun v _ => hS.continuation v _⟩

theorem changes_authorize (r : Request) (id : Id) (s : DeviceSession) :
    Changes S (authorizeRequest r id s) := by
  have hsync : Changes S (synchronizeRequestIdentityStatus r id s) := by
    unfold synchronizeRequestIdentityStatus
    split
    · exact changes_pure s
    · exact changes_commit.bind fun _ => changes_refresh id
    · exact (changes_revokeUser hS _ _).bind fun _ => changes_commit.bind fun _ => changes_invalid
  have hrenew (s : DeviceSession) : Changes S (renewActivity id s r.now) := by
    refine changes_if (Changes.bind (Rows.obeys_updateWhere fun _ _ =>
      ⟨(),trivial,hS.renewing r.now fun c hc => ?_⟩) fun renewed => ?_) (changes_pure s)
    · simp only [Bool.and_eq_true,decide_eq_true_eq] at hc
      exact hc.1
    · exact changes_if (changes_commit.bind fun _ => changes_refresh id)
        (changes_rollback.bind fun _ => changes_refresh id)
  exact changes_if (changes_record _) (changes_if (changes_record _) (hsync.bind hrenew))

theorem changes_signOut [SecretHash] (id : Id) (s : DeviceSession) (now : Time) (providerRedirect : Bool) :
    Changes S (signOutCurrentDevice id s now providerRedirect) := by
  have hrevoke : Changes S (Rows.flush (.deviceSession id) s (s.revoke now)) :=
    changes_end hS (fun h => by cases h) rfl
  refine Changes.bind (Rows.obeys_selectWhere.bind fun _ => changes_pure _) fun continuation => ?_
  refine hrevoke.bind fun _ => changes_commit.bind fun _ => ?_
  cases continuation with
  | none => exact changes_record _
  | some entry =>
    refine changes_if (changes_fresh.bind fun secret => ?_) ?_
    · exact (changes_flushContinuation hS _ _ _).bind fun _ => changes_record _
    · exact (changes_flushContinuation hS _ _ _).bind fun _ => changes_record _

theorem changes_continue [SecretHash] (cookie : Option (Id × Id)) (now : Time) (providerRedirect : Bool) :
    Changes S (continueProviderLogout cookie now providerRedirect) := by
  cases cookie with
  | none => exact changes_respond _
  | some cookie =>
    refine (changes_get _).bind fun row => ?_
    cases row with
    | none => exact changes_respond _
    | some c =>
      refine changes_if (Changes.bind (Rows.obeys_updateWhere fun _ _ =>
        ⟨(),trivial,fun v _ => hS.continuation v _⟩) fun consumed => changes_if (changes_record _) ?_)
        (changes_respond _)
      exact changes_rollback.bind fun _ => changes_respond _

theorem changes_revokeDevice (auth : Authenticated) (target : Id) (now : Time) :
    Changes S (revokeActiveDeviceSession auth target now) := by
  refine changes_if (changes_record _) ((changes_revoke hS fun c hc => ?_).bind fun revoked =>
    changes_if (changes_record _) (changes_rollback.bind fun _ => changes_record _))
  simp only [Bool.and_eq_true,decide_eq_true_eq] at hc
  exact hc.1.2

theorem changes_revokeOthers (auth : Authenticated) (recentlyAuthenticated fails : Bool) (now : Time) :
    Changes S (revokeOtherActiveDeviceSessions auth recentlyAuthenticated fails now) := by
  refine changes_if (changes_record _) (changes_commit.bind fun _ => (changes_revokeAll hS
    fun id s hs => ?_).bind fun _ => changes_if (changes_rollback.bind fun _ => changes_record _)
      (changes_record _))
  simp only [Bool.and_eq_true,decide_eq_true_eq] at hs
  exact hs.1.2

variable [SecretHash]

theorem changes_resolveDeviceSession (id : Id) (s : DeviceSession) (secret : Id) (now : Time) :
    Changes S (resolveDeviceSession sessionRows id s secret now) := by
  have hrecord (reasonCode : String) : Changes S (recordAndReject sessionRows reasonCode) :=
    changes_commit.bind fun _ => changes_pure _
  have hexpire : Changes S (Rows.flush (.deviceSession id) s (s.expire now)) :=
    changes_end hS (fun h => by cases h) rfl
  have hrevoke : Changes S (Rows.flush (.deviceSession id) s (s.revoke now)) :=
    changes_end hS (fun h => by cases h) rfl
  unfold resolveDeviceSession
  apply changes_if
  · exact changes_if (changes_pure _) (hrecord _)
  apply changes_if (changes_pure _)
  apply changes_if (hexpire.bind fun _ => hrecord _)
  apply changes_if (hrevoke.bind fun _ => hrecord _)
  exact changes_if (changes_pure _) (changes_pure _)

theorem changes_resolve (cookie : Option (Id × Id)) (now : Time) :
    Changes S (resolveUserSessionCredential sessionRows cookie now) := by
  cases cookie with
  | none => exact changes_pure _
  | some cookie =>
    refine (changes_get _).bind fun row => ?_
    cases row with
    | none => exact changes_pure _
    | some s => exact changes_resolveDeviceSession hS _ s _ now

end mild

section rotating

variable [SecretHash] (hS : Rotates S)

include hS

theorem changes_rotate (id : Id) (s : DeviceSession) (presentedHash : ℕ) (now : Time) :
    Changes S (rotateUserSessionCredential id s presentedHash now) := by
  refine changes_fresh.bind fun newSecret => Changes.bind (Rows.obeys_updateWhere fun _ _ =>
    ⟨(),trivial,hS.rotating fun c hc => ?_⟩) fun updated => changes_if ?_ ?_
  · simp only [Bool.and_eq_true,decide_eq_true_eq] at hc
    exact hc.1.1
  · exact changes_commit.bind fun _ => (changes_refresh id).bind fun _ => changes_pure _
  · refine Changes.bind ?_ fun _ => changes_pure _
    exact changes_rollback.bind fun _ => (changes_refresh id).bind fun _ =>
      changes_if (changes_pure _) changes_invalid

theorem changes_auth (r : Request) : Changes S (userSessionAuthContext r) := by
  refine (changes_resolve hS.toMild _ _).bind fun resolved => ?_
  cases resolved with
  | error rejected => exact changes_if changes_invalid (changes_record _)
  | ok resolved =>
    have hrotate : Changes S (rotateWhenDue resolved r.now) :=
      changes_if (changes_rotate hS _ _ _ _) (changes_pure _)
    exact hrotate.bind fun current => (changes_authorize hS.toMild r _ _).bind fun _ => changes_pure _

theorem changes_reauthenticate (r : Reauthentication) : Changes S (completeRecentAuthentication r) := by
  refine changes_if (changes_record _) (changes_if (changes_record _)
    ((changes_resolve hS.toMild _ _).bind fun resolved => ?_))
  cases resolved with
  | error rejected => exact changes_record _
  | ok resolved =>
    refine changes_if (changes_record _) (changes_if (changes_record _)
      (changes_fresh.bind fun newSecret => ?_))
    refine Changes.bind (Rows.obeys_updateWhere fun _ _ => ⟨(),trivial,hS.rotating fun c hc => ?_⟩)
      fun updated => changes_if ?_ ?_
    · simp only [Bool.and_eq_true,decide_eq_true_eq] at hc
      exact hc.1
    · exact (changes_replace hS.toMild _ _ _).bind fun _ => changes_record _
    · exact changes_rollback.bind fun _ => changes_record _

theorem changes_login (c : SessionCreation) : Changes S (createDeviceSession c) := by
  refine changes_fresh.bind fun secret => changes_fresh.bind fun id => Changes.bind
    (Rows.obeys_insert fun _ _ => ⟨(),trivial,fun v hv => ?_⟩) fun _ => ?_
  · obtain rfl := Option.isNone_iff_eq_none.mp hv
    exact hS.opening _
  · exact (changes_replace hS.toMild _ _ _).bind fun _ => changes_record _

theorem changes_program (o : SessionOp) : Changes S o.program := by
  have hm := hS.toMild
  cases o with
  | authenticate r => exact (changes_auth hS r).bind fun _ => changes_respond _
  | reauthenticate r => exact changes_reauthenticate hS r
  | login c => exact changes_login hS c
  | signOut r now providerRedirect => exact (changes_auth hS r).bind fun _ => changes_signOut hm _ _ _ _
  | continueLogout cookie now providerRedirect => exact changes_continue hm cookie now providerRedirect
  | revokeDevice r target now => exact (changes_auth hS r).bind fun _ => changes_revokeDevice hm _ _ _
  | revokeOthers r recentlyAuthenticated fails now =>
    exact (changes_auth hS r).bind fun _ => changes_revokeOthers hm _ _ _ _
  | confirmInactive userId now => exact (changes_revokeUser hm _ _).bind fun _ => changes_commit
  | securityRollback now =>
    refine (changes_revokeAll hm fun id s hs => ?_).bind fun _ => changes_commit
    simpa using hs

end rotating

end programs

end AiScdc.DeviceSessions
