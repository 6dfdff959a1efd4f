import AiScdc.DeviceSessions.Operations
import AiScdc.Transaction.Execution

namespace AiScdc.DeviceSessions
open Transaction

-- Where a call stands with the logout continuations. One that replaces those of a session has
-- written the row of that session, and knows which of them it has yet to work through.
inductive LogoutPhase where
  | outside
  | locked (sessionId : Id) | replacing (sessionId : Id) (rest : List Id)
  | numbered (sessionId id : Id) | inserted (sessionId id : Id)
  | chosen (id : Id) (c : ProviderLogoutContinuation)
  | preparing (id : Id) (c : ProviderLogoutContinuation) (secret : Id)
  | prepared (id secret : Id) | left (id secret : Id) | abandoned (id : Id)
  | continuing (id secret : Id) | consumed (id secret : Id) | redirected (id secret : Id)

def SessionOp.now : SessionOp → Time
  | .authenticate r => r.now
  | .reauthenticate r => r.now
  | .login c => c.now
  | .signOut _ now _ => now
  | .continueLogout _ now _ => now
  | .revokeDevice _ _ now => now
  | .revokeOthers _ _ _ now => now
  | .confirmInactive _ now => now
  | .securityRollback now => now

namespace ProviderLogoutContinuation

def OpenOn (sessionId : Id) (c : ProviderLogoutContinuation) : Prop :=
  c.deviceSessionId = sessionId ∧ c.status = .available

-- As a continuation is inserted, and as it stays until a call takes it up.
structure Pristine (c : ProviderLogoutContinuation) : Prop where
  status : c.status = .available
  hint : c.sealedProviderHint ≠ none
  hash : c.browserSecretHash = none
  expires : c.browserSecretExpiresAt = none
  consumed : c.consumedAt = none

structure Prepared (secretHash : ℕ) (now : Time) (c c' : ProviderLogoutContinuation) : Prop where
  session : c'.deviceSessionId = c.deviceSessionId
  hint : c'.sealedProviderHint = c.sealedProviderHint
  status : c'.status = .prepared
  hash : c'.browserSecretHash = some secretHash
  expires : c'.browserSecretExpiresAt = some (now + providerLogoutContinuation)
  consumed : c'.consumedAt = c.consumedAt

structure Abandoned (c c' : ProviderLogoutContinuation) : Prop where
  session : c'.deviceSessionId = c.deviceSessionId
  hint : c'.sealedProviderHint = none
  status : c'.status = .consumed
  hash : c'.browserSecretHash = c.browserSecretHash
  expires : c'.browserSecretExpiresAt = c.browserSecretExpiresAt
  consumed : c'.consumedAt ≠ none

variable {l : ProviderLogoutContinuation}

theorem Pristine.flush_prepare (h : Pristine l) (secretHash : ℕ) (now : Time)
    (c : ProviderLogoutContinuation) : Prepared secretHash now c (flush l (l.prepare secretHash now) c) := by
  constructor <;> simp [flush,prepare,pick,h.status,h.hash,h.expires,h.consumed]

theorem Pristine.flush_abandon (h : Pristine l) (now : Time) (c : ProviderLogoutContinuation) :
    Abandoned c (flush l (l.abandon now) c) := by
  have hhint : none ≠ l.sealedProviderHint := h.hint.symm
  constructor <;> simp [flush,abandon,pick,h.status,h.hash,h.expires,h.consumed,hhint]

end ProviderLogoutContinuation

section course

variable [SecretHash]

-- The change that a call makes to a continuation.
def LogoutPhase.turn (now : Time) : LogoutPhase → Id → ProviderLogoutContinuation →
    ProviderLogoutContinuation → Prop
  | .replacing sessionId _, _, c, c' | .numbered sessionId _, _, c, c' | .inserted sessionId _, _, c, c' =>
      c.OpenOn sessionId ∧ c' = c.supersede now
  | .prepared id secret, id', c, c' => id' = id ∧ c.Prepared (hashSessionSecret secret) now c'
  | .abandoned id, id', c, c' => id' = id ∧ c.Abandoned c'
  | .consumed id secret, id', c, c' => id' = id ∧ c.status = .prepared ∧
      c.browserSecretHash = some (hashSessionSecret secret) ∧ c.consumedAt = none ∧ c' = c.consume now
  | _, _, _, _ => False

def LogoutPhase.flushes : LogoutPhase → Id → Prop
  | .prepared id _, id' | .abandoned id, id' => id' = id
  | _, _ => False

inductive Turns (now : Time) (x : LogoutPhase) (id : Id) : Row (.continuation id) → Row (.continuation id) → Prop
  | gone (hx : x.flushes id) : Turns now x id none none
  | turn {c c' : ProviderLogoutContinuation} (h : x.turn now id c c') : Turns now x id (some c) (some c')
  | opens {sessionId : Id} {c : ProviderLogoutContinuation} (hx : x = .inserted sessionId id)
      (hsession : c.deviceSessionId = sessionId) (h : c.Pristine) : Turns now x id none (some c)

def TurnsAt (now : Time) (x : LogoutPhase) : ∀ k : Key, Row k → Row k → Prop
  | .continuation id, v, u => Turns now x id v u
  | _, _, _ => False

def OpenAt (sessionId : Id) : ∀ k : Key, Row k → Prop
  | .continuation _, v => ∃ c : ProviderLogoutContinuation, v = some c ∧ c.OpenOn sessionId
  | _, _ => False

def Chooses (db : Db) (y : LogoutPhase) : Prop :=
  ∃ id, ∃ c : ProviderLogoutContinuation, y = .chosen id c ∧ db (.continuation id) = some c ∧
    c.status = .available

def Accepts (now : Time) (db : Db) (y : LogoutPhase) : Prop :=
  ∃ id secret, ∃ c : ProviderLogoutContinuation, y = .continuing id secret ∧
    db (.continuation id) = some c ∧ continuationAccepts c secret now = true

def Lists (sessionId : Id) (db : Db) (next : ℕ) (y : LogoutPhase) : Prop :=
  ∃ rest, y = .replacing sessionId rest ∧ ∀ id, id < next →
    OpenAt sessionId (.continuation id) (db (.continuation id)) → id ∈ rest

def logoutCourse (now : Time) : Course Row LogoutPhase where
  learn x db n y :=
    match x with
    | .outside => Chooses db y ∨ Accepts now db y
    | .locked sessionId => Lists sessionId db n y
    | _ => False
  number x n y :=
    match x with
    | .replacing sessionId [] => y = .numbered sessionId n
    | .chosen id c => y = .preparing id c n
    | _ => False
  update x k g s y :=
    match x with
    | .outside => ∃ sessionId, k = .deviceSession sessionId ∧ (y = .outside ∨ y = .locked sessionId)
    | .replacing sessionId (id :: rest) => k = .continuation id ∧ y = .replacing sessionId rest ∧
        ∀ v, g v = true → TurnsAt now y k v (s v)
    | .numbered sessionId id => k = .continuation id ∧ y = .inserted sessionId id ∧
        ∀ v, g v = true → TurnsAt now y k v (s v)
    | .continuing id secret => y = .consumed id secret ∧ ∀ v, g v = true → TurnsAt now y k v (s v)
    | _ => False
  flush x k l n y :=
    match x with
    | .outside => (∃ sessionId, k = .deviceSession sessionId) ∧ y = .outside
    | .chosen id c => (∃ sessionId, k = .deviceSession sessionId) ∧ y = .chosen id c ∨
        y = .abandoned id ∧ (c.Pristine → ∀ v, TurnsAt now y k v (Schema.merge k l n v))
    | .preparing id c secret => y = .prepared id secret ∧
        (c.Pristine → ∀ v, TurnsAt now y k v (Schema.merge k l n v))
    | _ => False
  commit x y :=
    match x with
    | .outside | .replacing _ [] | .inserted _ _ | .abandoned _ => y = .outside
    | .chosen id c => y = .chosen id c
    | .prepared id secret => y = .left id secret
    | .consumed id secret => y = .redirected id secret
    | _ => False
  rollback x y :=
    match x with
    | .outside | .continuing _ _ => y = .outside
    | _ => False
  miss x k g y :=
    match x with
    | .replacing sessionId (id :: rest) => k = .continuation id ∧ y = .replacing sessionId rest ∧
        ∀ v, g v = false → ¬ OpenAt sessionId k v
    | _ => False

-- Only a continuation that was consumed answers with the provider's redirect.
def Answers (e : Response) (x : LogoutPhase) : Prop :=
  ∀ id secret, e = .redirectedToProvider id secret → x = .redirected id secret

section walks

variable {α β : Type} {now : Time} {x : LogoutPhase}

def Walks (now : Time) (x : LogoutPhase) (m : Op α) : Prop :=
  Writes (logoutCourse now) x m (fun _ _ => True) Answers

def Outside (now : Time) (m : Op α) : Prop :=
  Writes (logoutCourse now) .outside m (fun _ y => y = .outside) Answers

theorem Outside.bind {m : Op α} {f : α → Op β} (h : Outside now m) (hf : ∀ a, Outside now (f a)) :
    Outside now (m >>= f) := by
  apply Writes.bind (h.mono ?_ fun _ _ he => he)
  rintro a _ rfl
  exact hf a

theorem Outside.walks {m : Op α} {f : α → Op β} (h : Outside now m) (hf : ∀ a, Walks now .outside (f a)) :
    Walks now .outside (m >>= f) := by
  apply Writes.bind (h.mono ?_ fun _ _ he => he)
  rintro a _ rfl
  exact hf a

theorem Outside.ends {m : Op α} (h : Outside now m) : Walks now .outside m :=
  h.mono (fun _ _ _ => trivial) fun _ _ he => he

theorem outside_pure (a : α) : Outside now (pure a : Op α) := rfl

theorem outside_commit : Outside now commit := ⟨.outside,rfl,rfl⟩

theorem outside_rollback : Outside now rollback := ⟨.outside,rfl,rfl⟩

theorem outside_fresh : Outside now freshId := fun _ => ⟨.outside,Or.inl rfl,rfl⟩

theorem outside_get (k : Key) : Outside now (Rows.get (E := Key.Entity) k) :=
  fun _ _ => ⟨.outside,Or.inl rfl,rfl⟩

theorem walks_respond {response : Response} (h : ∀ id secret, response ≠ .redirectedToProvider id secret) :
    Walks now x (respond response : Op α) := fun id secret heq => (h id secret heq).elim

theorem outside_respond {response : Response} (h : ∀ id secret, response ≠ .redirectedToProvider id secret) :
    Outside now (respond response : Op α) := fun id secret heq => (h id secret heq).elim

theorem outside_http (statusCode : ℕ) (detail : String) : Outside now (respond (.http statusCode detail) : Op α) :=
  outside_respond fun _ _ h => by cases h

theorem outside_record {response : Response} (h : ∀ id secret, response ≠ .redirectedToProvider id secret) :
    Outside now (recordAndRespond response : Op α) := outside_commit.bind fun _ => outside_respond h

theorem outside_refuse (statusCode : ℕ) (detail : String) :
    Outside now (recordAndRespond (.http statusCode detail) : Op α) := outside_record fun _ _ h => by cases h

theorem outside_if {b : Prop} [Decidable b] {m m' : Op α} (h : Outside now m) (h' : Outside now m') :
    Outside now (if b then m else m') := by
  split
  · exact h
  · exact h'

theorem outside_update (id : Id) (guard : DeviceSession → Bool) (values : DeviceSession → DeviceSession) :
    Outside now (Rows.updateWhere (.deviceSession id) guard values) :=
  ⟨⟨.outside,⟨id,rfl,Or.inl rfl⟩,rfl⟩,.outside,Or.inl rfl,rfl⟩

theorem outside_updateEach (guard : Id → DeviceSession → Bool) (values : Id → DeviceSession → DeviceSession)
    (ids : List Id) : Outside now (Rows.updateEach Key.deviceSession guard values ids) := by
  induction ids with
  | nil => exact outside_pure _
  | cons id rest ih =>
    apply (outside_update id (guard id) (values id)).bind
    intro updated
    exact ih.bind fun _ => outside_pure _

theorem outside_updateAll (guard : Id → DeviceSession → Bool) (values : Id → DeviceSession → DeviceSession) :
    Outside now (Rows.updateAll Key.deviceSession guard values) :=
  fun _ _ => ⟨.outside,Or.inl rfl,outside_updateEach guard values _⟩

theorem outside_flush (id : Id) (l n : DeviceSession) : Outside now (Rows.flush (.deviceSession id) l n) :=
  ⟨fun _ => ⟨.outside,Or.inl rfl,rfl⟩,fun _ => ⟨.outside,⟨⟨id,rfl⟩,rfl⟩,rfl⟩⟩

theorem outside_invalid : Outside now (invalidUserSession : Op α) := outside_http _ _

theorem outside_refresh (id : Id) : Outside now (refreshDeviceSession id) := by
  apply (outside_get _).bind
  intro row
  cases row with
  | none => exact outside_invalid
  | some s => exact outside_pure s

theorem outside_resolveDeviceSession (id : Id) (s : DeviceSession) (secret : Id) (t : Time) :
    Outside now (resolveDeviceSession sessionRows id s secret t) := by
  have hrecord (reasonCode : String) : Outside now (recordAndReject sessionRows reasonCode) :=
    outside_commit.bind fun _ => outside_pure _
  apply outside_if (outside_if (outside_pure _) (hrecord _))
  apply outside_if (outside_pure _)
  apply outside_if ((outside_flush _ _ _).bind fun _ => hrecord _)
  apply outside_if ((outside_flush _ _ _).bind fun _ => hrecord _)
  exact outside_if (outside_pure _) (outside_pure _)

theorem outside_resolve (cookie : Option (Id × Id)) (t : Time) :
    Outside now (resolveUserSessionCredential sessionRows cookie t) := by
  cases cookie with
  | none => exact outside_pure _
  | some cookie =>
    apply (outside_get _).bind
    intro row
    cases row with
    | none => exact outside_pure _
    | some s => exact outside_resolveDeviceSession _ s _ t

theorem outside_rotate (id : Id) (s : DeviceSession) (presentedHash : ℕ) (t : Time) :
    Outside now (rotateUserSessionCredential id s presentedHash t) := by
  apply outside_fresh.bind
  intro newSecret
  apply (outside_update _ _ _).bind
  intro updated
  apply outside_if
  · exact outside_commit.bind fun _ => (outside_refresh id).bind fun _ => outside_pure _
  · apply Outside.bind ?_ fun _ => outside_pure _
    exact outside_rollback.bind fun _ => (outside_refresh id).bind fun _ =>
      outside_if (outside_pure _) outside_invalid

theorem outside_revokeUser (userId : Id) (t : Time) : Outside now (revokeUserSessions userId t) :=
  (outside_updateAll _ _).bind fun _ => outside_pure _

theorem outside_authorize (r : Request) (id : Id) (s : DeviceSession) : Outside now (authorizeRequest r id s) := by
  have hsync : Outside now (synchronizeRequestIdentityStatus r id s) := by
    rw [synchronizeRequestIdentityStatus]
    split
    · exact outside_pure s
    · exact outside_commit.bind fun _ => outside_refresh id
    · exact (outside_revokeUser _ _).bind fun _ => outside_commit.bind fun _ => outside_invalid
  have hrenew (s : DeviceSession) : Outside now (renewActivity id s r.now) := by
    apply outside_if ?_ (outside_pure s)
    exact (outside_update _ _ _).bind fun _ => outside_if (outside_commit.bind fun _ => outside_refresh id)
      (outside_rollback.bind fun _ => outside_refresh id)
  exact outside_if (outside_refuse _ _) (outside_if (outside_refuse _ _) (hsync.bind hrenew))

theorem outside_auth (r : Request) : Outside now (userSessionAuthContext r) := by
  apply (outside_resolve _ _).bind
  intro resolved
  cases resolved with
  | error rejected => exact outside_if outside_invalid (outside_refuse _ _)
  | ok resolved =>
    have hrotate : Outside now (rotateWhenDue resolved r.now) := outside_if (outside_rotate _ _ _ _) (outside_pure _)
    exact hrotate.bind fun current => (outside_authorize r _ _).bind fun _ => outside_pure _

theorem supersedes_row {sessionId id : Id} {rest : List Id} (v : Row (.continuation id))
    (hg : (v.any fun c : ProviderLogoutContinuation =>
      c.deviceSessionId = sessionId && c.status = .available) = true) :
    TurnsAt now (.replacing sessionId rest) (.continuation id) v
      (v.map fun c : ProviderLogoutContinuation => c.supersede now) := by
  cases v with
  | none => cases hg
  | some c => exact .turn ⟨by simpa [ProviderLogoutContinuation.OpenOn] using hg,rfl⟩

omit [SecretHash] in
theorem spares_row {sessionId id : Id} (v : Row (.continuation id))
    (hg : (v.any fun c : ProviderLogoutContinuation =>
      c.deviceSessionId = sessionId && c.status = .available) = false) :
    ¬ OpenAt sessionId (.continuation id) v := by
  rintro ⟨c,rfl,hopen⟩
  simp [hopen.1,hopen.2] at hg

def Replaced (sessionId : Id) (y : LogoutPhase) : Prop :=
  y = .replacing sessionId [] ∨ ∃ id, y = .inserted sessionId id

-- Replacing works through the rows found open, and inserts the new one last.
theorem writes_replace (sessionId : Id) (hint : Option String) :
    Writes (logoutCourse now) (.locked sessionId) (replaceProviderLogoutContinuation sessionId hint now)
      (fun _ y => Replaced sessionId y) Answers := by
  have hrows (ids : List Id) : Writes (logoutCourse now) (.replacing sessionId ids)
      (Rows.updateEach Key.continuation (fun _ (c : ProviderLogoutContinuation) =>
        c.deviceSessionId = sessionId && c.status = .available)
        (fun _ (c : ProviderLogoutContinuation) => c.supersede now) ids : Op (List Id))
      (fun _ y => y = .replacing sessionId []) Answers :=
    Rows.writes_updateEach (P := logoutCourse now) (X := LogoutPhase.replacing sessionId)
      (fun _ _ => ⟨rfl,rfl,supersedes_row⟩) (fun _ _ => ⟨rfl,rfl,spares_row⟩) ids
  unfold replaceProviderLogoutContinuation
  apply Writes.bind
  intro db next
  refine ⟨.replacing sessionId _,Or.inr ⟨_,rfl,fun id hid hopen => ?_⟩,(hrows _).mono ?_ fun _ _ he => he⟩
  · obtain ⟨c,hc,hsession,hstatus⟩ := hopen
    apply List.mem_filterMap.mpr ⟨id,List.mem_range.mpr hid,?_⟩
    rw [hc]
    simp [hsession,hstatus]
  · rintro _ _ rfl
    cases hint with
    | none => exact Or.inl rfl
    | some hint =>
      intro id
      refine ⟨.numbered sessionId id,Or.inr rfl,?_⟩
      refine ⟨⟨.inserted sessionId id,⟨rfl,rfl,fun v hv => ?_⟩,Or.inr ⟨id,rfl⟩⟩,.numbered sessionId id,
        Or.inl rfl,fun _ _ heq => by cases heq⟩
      obtain rfl := Option.isNone_iff_eq_none.mp hv
      exact .opens rfl rfl ⟨rfl,Option.some_ne_none _,rfl,rfl,rfl⟩

theorem walks_replaced {sessionId : Id} {y : LogoutPhase} (h : Replaced sessionId y) {response : Response}
    (hresponse : ∀ id secret, response ≠ .redirectedToProvider id secret) :
    Walks now y (recordAndRespond response : Op α) := by
  obtain rfl | ⟨id,rfl⟩ := h
  · exact ⟨.outside,rfl,walks_respond hresponse⟩
  · exact ⟨.outside,rfl,walks_respond hresponse⟩

theorem walks_login (c : SessionCreation) : Walks c.now .outside (createDeviceSession c) := by
  apply outside_fresh.walks
  intro secret
  apply outside_fresh.walks
  intro sessionId
  have hinsert : Writes (logoutCourse c.now) .outside
      (Rows.insert (.deviceSession sessionId) (newDeviceSession c (hashSessionSecret secret)) .integrityError : Op Unit)
      (fun _ y => y = .locked sessionId) Answers :=
    ⟨⟨.locked sessionId,⟨sessionId,rfl,Or.inr rfl⟩,rfl⟩,.outside,Or.inl rfl,fun _ _ heq => by cases heq⟩
  apply Writes.bind (hinsert.mono ?_ fun _ _ he => he)
  rintro _ _ rfl
  apply Writes.bind ((writes_replace sessionId c.logoutHint).mono ?_ fun _ _ he => he)
  intro _ y hy
  exact walks_replaced hy fun _ _ heq => by cases heq

theorem walks_reauthenticate (r : Reauthentication) : Walks r.now .outside (completeRecentAuthentication r) := by
  have hreject (reasonCode : String) : Walks r.now .outside (rejectCallback reasonCode : Op Unit) :=
    (outside_refuse 400 reasonCode).ends
  rw [completeRecentAuthentication]
  split
  · exact hreject _
  split
  · exact hreject _
  apply (outside_resolve _ _).walks
  intro resolved
  cases resolved with
  | error rejected => exact hreject _
  | ok resolved =>
    dsimp only
    split
    · exact hreject _
    split
    · exact hreject _
    apply outside_fresh.walks
    intro newSecret
    refine ⟨⟨.locked resolved.sessionId,⟨_,rfl,Or.inr rfl⟩,?_⟩,.outside,Or.inl rfl,?_⟩
    · apply Writes.bind ((writes_replace resolved.sessionId r.logoutHint).mono ?_ fun _ _ he => he)
      intro _ y hy
      exact walks_replaced hy fun _ _ heq => by cases heq
    · exact (outside_rollback.bind fun _ => outside_refuse 400 _).ends

omit [SecretHash] in
theorem foldl_chosen {α : Type} {choose : Option α → α → Option α}
    (hchoose : ∀ best a, choose best a = best ∨ choose best a = some a) {l : List α} {best : Option α} {e : α}
    (h : l.foldl choose best = some e) : best = some e ∨ e ∈ l := by
  induction l generalizing best with
  | nil => exact Or.inl h
  | cons a l ih =>
    rcases ih h with hbest | hrest
    · rcases hchoose best a with hkept | htaken
      · exact Or.inl (hkept.symm.trans hbest)
      · rw [htaken] at hbest
        exact Or.inr (List.mem_cons.mpr (Or.inl (Option.some.inj hbest).symm))
    · exact Or.inr (List.mem_cons_of_mem a hrest)

omit [SecretHash] in
theorem newest_mem {found : List (Id × ProviderLogoutContinuation)} {e : Id × ProviderLogoutContinuation}
    (h : newest found = some e) : e ∈ found := by
  refine (foldl_chosen (fun best entry => ?_) h).resolve_left (by simp)
  cases best with
  | none => exact Or.inr rfl
  | some b =>
    dsimp only
    split
    · exact Or.inr rfl
    · exact Or.inl rfl

def Latest (r : Option (Id × ProviderLogoutContinuation)) (y : LogoutPhase) : Prop :=
  match r with
  | none => y = .outside
  | some (id,c) => y = .chosen id c ∧ c.status = .available

theorem latest_phase {db : Db} {n : ℕ} (found : List (Id × ProviderLogoutContinuation))
    (h : ∀ e ∈ found, db (.continuation e.1) = some e.2 ∧ e.2.status = .available) :
    ∃ y, (y = .outside ∨ (logoutCourse now).learn .outside db n y) ∧ Latest (newest found) y := by
  cases hnewest : newest found with
  | none => exact ⟨.outside,Or.inl rfl,rfl⟩
  | some e =>
    obtain ⟨hrow,hstatus⟩ := h e (newest_mem hnewest)
    exact ⟨.chosen e.1 e.2,Or.inr (Or.inl ⟨e.1,e.2,rfl,hrow,hstatus⟩),rfl,hstatus⟩

theorem writes_latest (sessionId : Id) : Writes (logoutCourse now) .outside
    (latestProviderLogoutContinuation sessionId) Latest Answers := by
  intro db next
  apply latest_phase
  rintro ⟨id,c⟩ he
  obtain ⟨i,_,hi⟩ := List.mem_filterMap.mp he
  obtain ⟨c',hc',hview⟩ := Option.bind_eq_some_iff.mp hi
  dsimp only at hview
  split at hview
  · rename_i havailable
    cases hview
    exact ⟨hc',havailable.2.1⟩
  · cases hview

theorem flushes_row {id : Id} {y : LogoutPhase} {l n : ProviderLogoutContinuation} (hx : y.flushes id)
    (hturn : ∀ c, y.turn now id c (ProviderLogoutContinuation.flush l n c)) (v : Row (.continuation id)) :
    TurnsAt now y (.continuation id) v (Schema.merge (Key.continuation id) (some l) (some n) v) := by
  cases v with
  | none => exact .gone hx
  | some c => exact .turn (hturn c)

theorem walks_prepare {id : Id} {c : ProviderLogoutContinuation} (hc : c.status = .available) :
    Walks now (.chosen id c) (prepareContinuation id c now) := by
  intro secret
  refine ⟨.preparing id c secret,Or.inr rfl,fun heq => ?_,fun _ => ?_⟩
  · have hstatus := congrArg ProviderLogoutContinuation.status (Option.some.inj heq)
    cases hc.symm.trans hstatus
  · refine ⟨.prepared id secret,⟨rfl,fun hp => flushes_row rfl fun d => ⟨rfl,hp.flush_prepare _ _ d⟩⟩,?_⟩
    exact ⟨.left id secret,rfl,walks_respond fun _ _ heq => by cases heq⟩

theorem walks_abandon {id : Id} {c : ProviderLogoutContinuation} (hc : c.status = .available) :
    Walks now (.chosen id c) (do
      Rows.flush (.continuation id) c (c.abandon now)
      recordAndRespond (.signedOut none) : Op Unit) := by
  refine ⟨fun heq => ?_,fun _ => ?_⟩
  · have hstatus := congrArg ProviderLogoutContinuation.status (Option.some.inj heq)
    cases hc.symm.trans hstatus
  · refine ⟨.abandoned id,Or.inr ⟨rfl,fun hp => flushes_row rfl fun d => ⟨rfl,hp.flush_abandon _ d⟩⟩,?_⟩
    exact ⟨.outside,rfl,walks_respond fun _ _ heq => by cases heq⟩

theorem walks_signOut (sessionId : Id) (s : DeviceSession) (providerRedirect : Bool) :
    Walks now .outside (signOutCurrentDevice sessionId s now providerRedirect) := by
  apply Writes.bind ((writes_latest sessionId).mono ?_ fun _ _ he => he)
  intro r y hy
  cases r with
  | none =>
    obtain rfl : y = .outside := hy
    exact ((outside_flush _ _ _).bind fun _ => outside_commit.bind fun _ =>
      outside_record fun _ _ heq => by cases heq).ends
  | some e =>
    obtain ⟨rfl,hstatus⟩ := hy
    have htaken : Walks now (.chosen e.1 e.2) (if providerRedirect then prepareContinuation e.1 e.2 now else do
        Rows.flush (.continuation e.1) e.2 (e.2.abandon now)
        recordAndRespond (.signedOut none)) := by
      split
      · exact walks_prepare hstatus
      · exact walks_abandon hstatus
    exact ⟨fun _ => ⟨_,Or.inl rfl,_,rfl,htaken⟩,
      fun _ => ⟨_,Or.inl ⟨⟨sessionId,rfl⟩,rfl⟩,_,rfl,htaken⟩⟩

theorem consumes_row {id secret : Id} {c : ProviderLogoutContinuation}
    (hc : continuationAccepts c secret now = true) (v : Row (.continuation id))
    (hg : (v.any fun current : ProviderLogoutContinuation => current.status = .prepared &&
      current.browserSecretHash = c.browserSecretHash && current.consumedAt.isNone) = true) :
    TurnsAt now (.consumed id secret) (.continuation id) v
      (v.map fun current : ProviderLogoutContinuation => current.consume now) := by
  cases v with
  | none => cases hg
  | some current =>
    simp only [continuationAccepts,Bool.and_eq_true,decide_eq_true_eq] at hc
    simp only [Option.any_some,Bool.and_eq_true,decide_eq_true_eq,Option.isNone_iff_eq_none] at hg
    exact .turn ⟨rfl,hg.1.1,hg.1.2.trans hc.2,hg.2,rfl⟩

theorem walks_continue (cookie : Option (Id × Id)) (providerRedirect : Bool) :
    Walks now .outside (continueProviderLogout cookie now providerRedirect) := by
  have hhome : Walks now .outside (respond .redirectedHome : Op Unit) :=
    walks_respond fun _ _ heq => by cases heq
  cases cookie with
  | none => exact hhome
  | some cookie =>
    obtain ⟨id,secret⟩ := cookie
    intro db n
    suffices hrow : ∀ row : Row (.continuation id), db (.continuation id) = row →
        ∃ y, (y = .outside ∨ (logoutCourse now).learn .outside db n y) ∧ Walks now y (match row with
          | none => respond .redirectedHome
          | some c => if continuationAccepts c secret now then
              consumeContinuation id c secret now providerRedirect
            else respond .redirectedHome) from hrow _ rfl
    intro row hrow
    cases row with
    | none => exact ⟨.outside,Or.inl rfl,hhome⟩
    | some c =>
      dsimp only
      split
      · rename_i haccepts
        refine ⟨.continuing id secret,Or.inr (Or.inr ⟨id,secret,c,rfl,hrow,haccepts⟩),
          ⟨.consumed id secret,⟨rfl,consumes_row haccepts⟩,.redirected id secret,rfl,?_⟩,
          .continuing id secret,Or.inl rfl,.outside,rfl,hhome⟩
        intro id' secret' heq
        split at heq
        · cases heq
          rfl
        · cases heq
      · exact ⟨.outside,Or.inl rfl,hhome⟩

theorem walks_program (o : SessionOp) : Walks o.now .outside o.program := by
  cases o with
  | authenticate r => exact ((outside_auth r).bind fun _ => outside_respond fun _ _ heq => by cases heq).ends
  | reauthenticate r => exact walks_reauthenticate r
  | login c => exact walks_login c
  | signOut r now providerRedirect => exact (outside_auth r).walks fun _ => walks_signOut _ _ providerRedirect
  | continueLogout cookie now providerRedirect => exact walks_continue cookie providerRedirect
  | revokeDevice r target now =>
    apply (outside_auth r).walks
    intro auth
    apply Outside.ends
    apply outside_if (outside_refuse _ _)
    apply (outside_update _ _ _).bind
    intro revoked
    exact outside_if (outside_record fun _ _ heq => by cases heq) (outside_rollback.bind fun _ => outside_refuse _ _)
  | revokeOthers r recentlyAuthenticated fails now =>
    apply (outside_auth r).walks
    intro auth
    apply Outside.ends
    apply outside_if (outside_refuse _ _)
    apply outside_commit.bind
    intro _
    apply (outside_updateAll _ _).bind
    intro _
    exact outside_if (outside_rollback.bind fun _ => outside_refuse _ _) (outside_record fun _ _ heq => by cases heq)
  | confirmInactive userId now => exact ((outside_revokeUser _ _).bind fun _ => outside_commit).ends
  | securityRollback now => exact ((outside_updateAll _ _).bind fun _ => outside_commit).ends

end walks

end course

end AiScdc.DeviceSessions
