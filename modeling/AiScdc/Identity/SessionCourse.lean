import AiScdc.Identity.Operations
import AiScdc.Transaction.Execution

namespace AiScdc.Identity
open Transaction

def ExternalIdentity.live (i : ExternalIdentity) : Prop := i.status.controlledRestoration = false

-- What a transaction has done so far to identities and sessions. A login that has found an identity
-- confirms it and so locks its row, and opens a session; a login or a synchronisation that has made
-- an identity inactive revokes the sessions of its user. A blind login confirmed without writing.
inductive SessionPhase where
  | calm
  | marked
  | found (id userId : Id)
  | opening (id userId : Id)
  | numbered (id userId sessionId : Id)
  | opened (id userId sessionId : Id)
  | changed (id : Id)
  | revoking (id userId : Id)
  | sweeping (id userId : Id) (sessions : List Id)
  | mopping
  | blind

namespace SessionPhase

def closable : SessionPhase → Prop
  | .calm | .marked | .found _ _ | .opening _ _ | .opened _ _ _ | .sweeping _ _ [] | .mopping | .blind => True
  | _ => False

end SessionPhase

inductive SessionUpdate :
    SessionPhase → ∀ k : Key, (Row k → Bool) → (Row k → Row k) → SessionPhase → Prop
  | mild {x} (hx : x = .calm ∨ x = .marked) (id : Id) (g : ExternalIdentity → Bool)
      (f : ExternalIdentity → ExternalIdentity) (hu : ∀ i, (f i).userId = i.userId)
      (hl : ∀ i, i.live → (f i).live) :
      SessionUpdate x (.externalIdentity id) (fun row => row.any g) (fun row => row.map f) .marked
  | change (id : Id) (g : ExternalIdentity → Bool) (f : ExternalIdentity → ExternalIdentity)
      (hu : ∀ i, (f i).userId = i.userId) :
      SessionUpdate .calm (.externalIdentity id) (fun row => row.any g) (fun row => row.map f)
        (.changed id)
  | create (id : Id) (row : ExternalIdentity) (hl : row.live) :
      SessionUpdate .calm (.externalIdentity id) (fun row => row.isNone) (fun _ => some row)
        (.opening id row.userId)
  | session (id sessionId : Id) (row : DeviceSession) :
      SessionUpdate (.numbered id row.userId sessionId) (.deviceSession sessionId)
        (fun row => row.isNone) (fun _ => some row) (.opened id row.userId sessionId)
  | sweep (id userId sessionId : Id) (rest : List Id) (now : Time) :
      SessionUpdate (.sweeping id userId (sessionId :: rest)) (.deviceSession sessionId)
        (fun row => row.any fun s : DeviceSession => s.userId = userId && s.status = .active)
        (fun row => row.map fun s : DeviceSession => s.revoked now) (.sweeping id userId rest)
  | mop (sessionId : Id) (g : DeviceSession → Bool) (now : Time) :
      SessionUpdate .mopping (.deviceSession sessionId) (fun row => row.any g)
        (fun row => row.map fun s : DeviceSession => s.revoked now) .mopping
  | blind (k : Key) (g : Row k → Bool) (s : Row k → Row k) : SessionUpdate .blind k g s .blind

inductive SessionWrite : SessionPhase → ∀ k : Key, Row k → Row k → SessionPhase → Prop
  | confirm (id : Id) (l : ExternalIdentity) (now : Time) :
      SessionWrite (.found id l.userId) (.externalIdentity id) (some l) (some (l.recorded .active now))
        (.opening id l.userId)
  | again (id : Id) (l : ExternalIdentity) (now : Time) :
      SessionWrite (.opening id l.userId) (.externalIdentity id) (some l) (some (l.recorded .active now))
        (.opening id l.userId)
  | deactivate (id : Id) (l : ExternalIdentity) (s : Status) (now : Time) (h : s.inactive) :
      SessionWrite (.found id l.userId) (.externalIdentity id) (some l) (some (l.recorded s now))
        (.revoking id l.userId)

inductive SessionSkip : SessionPhase → ∀ k : Key, Row k → SessionPhase → Prop
  | confirm (id : Id) (l : ExternalIdentity) (now : Time) (h : l.recorded .active now = l) :
      SessionSkip (.found id l.userId) (.externalIdentity id) (some l) .blind
  | deactivate (id : Id) (l : ExternalIdentity) : SessionSkip (.found id l.userId) (.externalIdentity id)
      (some l) .mopping

inductive SessionMiss : SessionPhase → ∀ k : Key, (Row k → Bool) → SessionPhase → Prop
  | sweep (id userId sessionId : Id) (rest : List Id) :
      SessionMiss (.sweeping id userId (sessionId :: rest)) (.deviceSession sessionId)
        (fun row => row.any fun s : DeviceSession => s.userId = userId && s.status = .active)
        (.sweeping id userId rest)

inductive SessionLearn : SessionPhase → Db → ℕ → SessionPhase → Prop
  | find {db : Db} {n : ℕ} (id : Id) (i : ExternalIdentity) (h : db (.externalIdentity id) = some i) :
      SessionLearn .calm db n (.found id i.userId)
  | reload {db : Db} {n : ℕ} (id : Id) (i : ExternalIdentity) (h : db (.externalIdentity id) = some i) :
      SessionLearn (.changed id) db n (.revoking id i.userId)
  | select {db : Db} {n : ℕ} (id userId : Id) (sessions : List Id)
      (h : ∀ sessionId s, sessionId < n → db (.deviceSession sessionId) = some s →
        (s : DeviceSession).userId = userId → (s : DeviceSession).status = .active →
        sessionId ∈ sessions) :
      SessionLearn (.revoking id userId) db n (.sweeping id userId sessions)

def sessionCourse : Course Row SessionPhase where
  learn := SessionLearn
  number x n y := ∃ id userId, x = .opening id userId ∧ y = .numbered id userId n
  update := SessionUpdate
  flush := SessionWrite
  commit x y := x.closable ∧ y = .calm
  rollback _ y := y = .calm
  miss := SessionMiss
  skip := SessionSkip

section programs

variable {α : Type} {x : SessionPhase}

-- The program starts in the phase x, ends calm, and may fail in any phase.
def Settles (x : SessionPhase) (m : Op Unit) : Prop :=
  Writes sessionCourse x m (fun _ y => y = .calm) fun _ _ => True

theorem closable_calm : SessionPhase.calm.closable := trivial

theorem settles_commit (h : x.closable) : Settles x commit := ⟨.calm,⟨h,rfl⟩,rfl⟩

theorem settles_rollback : Settles x rollback := ⟨.calm,rfl,rfl⟩

theorem Settles.then {m m' : Op Unit} (h : Settles x m) (h' : Settles .calm m') :
    Settles x (do m; m') := by
  refine Writes.bind (Writes.mono h (fun _ y hy => ?_) fun _ _ _ => trivial)
  subst hy
  exact h'

theorem writes_reject (h : x.closable) (statusCode : ℕ) (reasonCode : String) {Q : α → SessionPhase → Prop} :
    Writes sessionCourse x (rejectCallback statusCode reasonCode : Op α) Q fun _ _ => True :=
  ⟨.calm,⟨h,rfl⟩,trivial⟩

theorem settles_guard (hx : x.closable) {b : Prop} [Decidable b] {statusCode : ℕ} {reasonCode : String}
    {m : Op Unit} (hm : Settles x m) : Settles x (do
      if b then rejectCallback statusCode reasonCode
      m) := by
  by_cases hb : b
  · rw [if_pos hb]
    exact Writes.bind (writes_reject hx _ _)
  · rw [if_neg hb]
    exact hm

-- A statement on one identity that leaves a live identity live.
theorem writes_mild {id : Id} {g : ExternalIdentity → Bool} {f : ExternalIdentity → ExternalIdentity}
    (hu : ∀ i, (f i).userId = i.userId) (hl : ∀ i, i.live → (f i).live) {k : Bool → Op Unit}
    (ht : Settles .marked (k true)) (hf : Settles .calm (k false)) : Settles .calm (do
      let b ← (Rows.updateWhere (.externalIdentity id) g f : Op Bool)
      k b) :=
  Writes.bind ⟨⟨.marked,.mild (Or.inl rfl) id g f hu hl,ht⟩,.calm,Or.inl rfl,hf⟩

theorem obeys_mild {g : ExternalIdentity → Bool} {f : ExternalIdentity → ExternalIdentity}
    (hu : ∀ i, (f i).userId = i.userId) (hl : ∀ i, i.live → (f i).live) :
    Obeys sessionCourse (fun y => y = .calm ∨ y = .marked)
      (Rows.updateAll Key.externalIdentity (fun _ => g) (fun _ => f) : Op (List Id)) :=
  Rows.obeys_updateAll fun id _ hx => ⟨.marked,Or.inr rfl,.mild hx id g f hu hl⟩

theorem writes_sweep (id userId : Id) (now : Time) :
    Writes sessionCourse (.revoking id userId) (revokeUserSessions userId now)
      (fun _ y => y = .sweeping id userId []) fun _ _ => True := by
  have hsweep (ids : List Id) : Writes sessionCourse (.sweeping id userId ids)
      (Rows.updateEach Key.deviceSession
        (fun _ (s : DeviceSession) => s.userId = userId && s.status = .active)
        (fun _ (s : DeviceSession) => s.revoked now) ids : Op (List Id))
      (fun _ y => y = .sweeping id userId []) fun _ _ => True :=
    Rows.writes_updateEach (P := sessionCourse) (X := SessionPhase.sweeping id userId)
      (fun i rest => SessionUpdate.sweep id userId i rest now)
      (fun i rest => SessionMiss.sweep id userId i rest) ids
  refine Writes.bind (Writes.bind fun db n => ?_)
  refine ⟨.sweeping id userId _,Or.inr (.select id userId _ ?_),
    Writes.mono (E := fun _ _ => True) (hsweep _) (fun _ _ hy => hy) fun _ _ ht => ht⟩
  intro sessionId s hlt hs hu ha
  refine List.mem_filterMap.mpr ⟨sessionId,List.mem_range.mpr hlt,?_⟩
  rw [hs]
  simp [hu,ha]

theorem obeys_mop (userId : Id) (now : Time) :
    Obeys sessionCourse (fun y => y = .mopping) (revokeUserSessions userId now) :=
  (Rows.obeys_updateAll fun id _ hx => ⟨.mopping,rfl,hx ▸ .mop id _ now⟩).bind fun _ => .pure _

theorem settles_failedClaim (id token : Id) : Settles .calm (recordFailedClaim id token) := by
  exact writes_mild (f := ExternalIdentity.checkFailed) (k := fun b => if b then commit else rollback)
    (fun _ => rfl) (fun _ h => h) (settles_commit trivial) settles_rollback

-- What a claimed check does once its result is on the row.
def finishClaim (id : Id) (s : Status) (t : Time) : Op Unit := do
  match ← Rows.get (E := Key.Entity) (.externalIdentity id) with
  | none => rollback
  | some identity => do
    recordConfirmedStatusEffects identity.userId s t
    commit

theorem settles_finish {x : SessionPhase} {id : Id} {s : Status} {t : Time}
    (h : ∀ db n, ∃ y, (y = x ∨ sessionCourse.learn x db n y) ∧ Settles y (match db (.externalIdentity id) with
      | none => rollback
      | some identity => do
        recordConfirmedStatusEffects identity.userId s t
        commit)) : Settles x (finishClaim id s t) := h

theorem settles_inactive {id : Id} {s : Status} (hs : s ≠ .active) (t : Time) :
    Settles (.changed id) (finishClaim id s t) := by
  refine settles_finish fun db n => ?_
  cases hrow : db (.externalIdentity id) with
  | none => exact ⟨.changed id,Or.inl rfl,settles_rollback⟩
  | some i =>
    refine ⟨.revoking id i.userId,Or.inr (.reload id i hrow),?_⟩
    show Settles _ (do
      recordConfirmedStatusEffects i.userId s t
      commit)
    rw [recordConfirmedStatusEffects,if_neg hs]
    refine Writes.bind ((writes_sweep id i.userId t).mono (fun _ y hy => ?_) fun _ _ _ => trivial)
    subst hy
    exact settles_commit trivial

theorem settles_active (id : Id) (t : Time) : Settles .marked (finishClaim id .active t) := by
  refine settles_finish fun db n => ⟨.marked,Or.inl rfl,?_⟩
  cases hrow : db (.externalIdentity id) with
  | none => exact settles_rollback
  | some i => exact settles_commit trivial

theorem settles_confirmedClaim (id token : Id) (s : Status) (t : Time) :
    Settles .calm (applyConfirmedClaim id token s t) := by
  by_cases hs : s = .active
  · subst hs
    exact writes_mild (f := fun i => i.checked .active .active t)
      (k := fun b => if b then finishClaim id .active t else rollback) (fun _ => rfl) (fun _ _ => rfl)
      (settles_active id t) settles_rollback
  · refine Writes.bind ⟨⟨.changed id,.change id _ _ fun _ => rfl,?_⟩,.calm,Or.inl rfl,?_⟩
    · exact settles_inactive hs t
    · exact settles_rollback

theorem settles_completeClaims (token : Id) (now : Time) (provider : Id → ProviderReply)
    (claims : List Id) : Settles .calm (completeClaims token now provider claims) := by
  induction claims with
  | nil => rfl
  | cons id rest ih =>
    unfold completeClaims
    cases provider id with
    | unavailable => exact (settles_failedClaim id token).then ih
    | status s =>
      dsimp only
      split
      · exact (settles_confirmedClaim id token s now).then ih
      · exact (settles_failedClaim id token).then ih

theorem settles_synchronize (userId : Id) (now : Time) (interval : ℤ) (provider : Id → ProviderReply) :
    Settles .calm (synchronizeDueIdentityStatus userId now interval provider) := by
  refine Writes.bind (Writes.bind fun token => ⟨.calm,Or.inl rfl,?_⟩)
  have hclaim := obeys_mild (g := dueForCheck userId (now - interval))
    (f := fun i => i.claimed token now) (fun _ => rfl) fun _ h => h
  refine hclaim.then (Or.inl rfl) (fun claims y hy => ?_) fun _ _ _ => trivial
  refine ⟨.calm,⟨?_,rfl⟩,settles_completeClaims token now provider claims⟩
  rcases hy with rfl | rfl <;> trivial

def foundPhase : Option (Id × ExternalIdentity) → SessionPhase
  | none => .calm
  | some (id,i) => .found id i.userId

theorem writes_find (issuer subject : String) :
    Writes sessionCourse .calm (findIdentity issuer subject) (fun found y => y = foundPhase found)
      fun _ _ => True := by
  refine Writes.bind fun db n => ?_
  cases hfound : (((List.range n).filterMap fun id =>
      (db (.externalIdentity id)).bind fun i : ExternalIdentity =>
        if i.issuer = issuer ∧ i.subject = subject then some (id,i) else none).head?) with
  | none =>
    refine ⟨.calm,Or.inl rfl,?_⟩
    show SessionPhase.calm = foundPhase (List.head? _)
    rw [hfound]
    rfl
  | some entry =>
    obtain ⟨id',_,hbind⟩ := List.mem_filterMap.mp (List.mem_of_mem_head? hfound)
    obtain ⟨i,hi,hif⟩ := Option.bind_eq_some_iff.mp hbind
    simp only [Option.ite_none_right_eq_some,Option.some.injEq] at hif
    obtain ⟨_,rfl⟩ := hif
    refine ⟨.found id' i.userId,Or.inr (.find id' i hi),?_⟩
    show SessionPhase.found id' i.userId = foundPhase (List.head? _)
    rw [hfound]
    rfl

theorem settles_deactivate (id : Id) (i : ExternalIdentity) (s : Status) (now : Time)
    (h : s.inactive) : Writes sessionCourse (.found id i.userId)
      (recordConfirmedIdentityStatus id i s now) (fun _ y => y.closable) fun _ _ => True := by
  have hs : s ≠ .active := by
    rintro rfl
    cases h
  have heffects : recordConfirmedStatusEffects i.userId s now = revokeUserSessions i.userId now :=
    if_neg hs
  unfold recordConfirmedIdentityStatus
  rw [heffects]
  refine Writes.bind ⟨fun _ => ⟨.mopping,Or.inr (.deactivate id i),?_⟩,
    fun _ => ⟨_,.deactivate id i s now h,?_⟩⟩
  · exact (obeys_mop i.userId now _ rfl).mono (fun _ y hy => by rw [hy]; trivial) fun _ _ _ => trivial
  · exact (writes_sweep id i.userId now).mono (fun _ y hy => by rw [hy]; trivial) fun _ _ _ => trivial

theorem settles_opening (c : LoginCallback) (id userId : Id) : Settles (.opening id userId) (do
    createDeviceSession userId c
    commit) := by
  refine Writes.bind (Writes.bind fun n => ⟨.numbered id userId n,Or.inr ⟨id,userId,rfl,rfl⟩,?_⟩)
  refine Writes.bind ⟨⟨_,.session id n
    (⟨userId,.active,c.now + c.idleSeconds * 1000000,none⟩ : DeviceSession),?_⟩,_,Or.inl rfl,trivial⟩
  exact settles_commit trivial

theorem settles_blind (c : LoginCallback) (userId : Id) : Settles .blind (do
    createDeviceSession userId c
    commit) := by
  refine Writes.bind (Writes.bind fun n => ⟨.blind,Or.inl rfl,?_⟩)
  refine Writes.bind ⟨⟨.blind,.blind _ _ _,?_⟩,.blind,Or.inl rfl,trivial⟩
  exact settles_commit trivial

theorem settles_createSession (c : LoginCallback) (id : Id) (i : ExternalIdentity) :
    Settles (.found id i.userId) (createSession c id i) := by
  refine Writes.bind (Writes.bind ⟨fun heq => ⟨.blind,Or.inr (.confirm id i c.now ?_),?_⟩,
    fun _ => ⟨_,.confirm id i c.now,?_⟩⟩)
  · exact (Option.some.inj heq).symm
  · exact settles_blind c i.userId
  · exact settles_opening c id i.userId

theorem settles_createdSession (c : LoginCallback) (id : Id) (i : ExternalIdentity) :
    Settles (.opening id i.userId) (createSession c id i) :=
  Writes.bind (Writes.bind ⟨fun _ => ⟨_,Or.inl rfl,settles_opening c id i.userId⟩,
    fun _ => ⟨_,.again id i c.now,settles_opening c id i.userId⟩⟩)

theorem settles_confirm (c : LoginCallback) (id : Id) (i : ExternalIdentity) :
    Settles (.found id i.userId) (confirmRecentAuthentication c id i) := by
  have hx : (SessionPhase.found id i.userId).closable := trivial
  refine settles_guard hx ?_
  split
  · refine Writes.bind (Writes.bind ⟨fun heq => ⟨.blind,Or.inr (.confirm id i c.now ?_),?_⟩,
      fun _ => ⟨_,.confirm id i c.now,?_⟩⟩)
    · exact (Option.some.inj heq).symm
    · exact settles_commit trivial
    · exact settles_commit trivial
  · exact Writes.bind ⟨.calm,rfl,writes_reject closable_calm _ _⟩

theorem settles_recentAuthentication (c : LoginCallback) (found : Option (Id × ExternalIdentity)) :
    Settles (foundPhase found) (completeRecentAuthentication c found) := by
  have hx : (foundPhase found).closable := by cases found <;> trivial
  unfold completeRecentAuthentication
  split
  · exact writes_reject hx _ _
  cases found with
  | some entry => exact settles_confirm c entry.1 entry.2
  | none =>
    refine Writes.bind ((writes_find _ _).mono (fun found y hy => ?_) fun _ _ _ => trivial)
    subst hy
    cases found with
    | some entry => exact settles_confirm c entry.1 entry.2
    | none => exact writes_reject closable_calm _ _

theorem settles_login (c : LoginCallback) : Settles .calm (completeLoginCallback c) := by
  have hlogin (found : Option (Id × ExternalIdentity)) :
      Settles (foundPhase found) (completeLogin c found) := by
    have hx : (foundPhase found).closable := by cases found <;> trivial
    refine settles_guard hx (settles_guard hx ?_)
    cases found with
    | none =>
      refine settles_guard hx (Writes.bind (Writes.bind fun userId => ⟨.calm,Or.inl rfl,?_⟩))
      refine Writes.bind fun id => ⟨.calm,Or.inl rfl,Writes.bind fun t => ?_⟩
      refine Writes.bind (Writes.bind ⟨⟨_,.create id
        ⟨c.issuer,c.subject,userId,.active,.active,t,t,none,t⟩ rfl,?_⟩,.calm,Or.inl rfl,trivial⟩)
      exact settles_createdSession c id _
    | some entry => exact settles_guard hx (settles_guard hx (settles_createSession c entry.1 entry.2))
  have hpurpose (found : Option (Id × ExternalIdentity)) :
      Settles (foundPhase found) (completeForPurpose c found) := by
    have hx : (foundPhase found).closable := by cases found <;> trivial
    unfold completeForPurpose
    split
    · exact settles_recentAuthentication c found
    · exact writes_reject hx _ _
    · exact hlogin found
  refine Writes.bind ((writes_find _ _).mono (fun found y hy => ?_) fun _ _ _ => trivial)
  subst hy
  cases found with
  | none => exact settles_guard closable_calm (hpurpose none)
  | some entry =>
    have hx : (foundPhase (some entry)).closable := trivial
    dsimp only
    split
    · rename_i hin
      refine Writes.bind ((settles_deactivate entry.1 entry.2 _ c.now hin).mono (fun _ y hy => ?_)
        fun _ _ _ => trivial)
      have hne : c.identityStatus ≠ .active := by
        intro ha
        rw [ha] at hin
        cases hin
      rw [if_pos hne]
      exact Writes.bind (writes_reject hy _ _)
    · exact settles_guard hx (hpurpose (some entry))

theorem settles_restore (r : Restoration) : Settles .calm (restoreExternalIdentity r) := by
  have happly (id : Id) : Settles .calm (applyRestoration id r.now) := by
    exact writes_mild (f := fun i => i.checked .active .active r.now)
      (k := fun b => if b then commit else do
        rollback
        rejectCallback 409 "restoration_conflict") (fun _ => rfl) (fun _ _ => rfl)
      (settles_commit trivial) (Writes.bind ⟨.calm,rfl,writes_reject closable_calm _ _⟩)
  unfold restoreExternalIdentity
  split
  · exact writes_reject closable_calm _ _
  · refine Writes.bind ((writes_find _ _).mono (fun found y hy => ?_) fun _ _ _ => trivial)
    subst hy
    cases found with
    | none => exact writes_reject closable_calm _ _
    | some entry =>
      have hx : (foundPhase (some entry)).closable := trivial
      refine settles_guard hx (Settles.then (settles_commit hx) ?_)
      split
      · exact writes_reject closable_calm _ _
      · exact settles_guard closable_calm (happly entry.1)

theorem settles_program (o : IdentityOp) :
    Writes sessionCourse .calm o.program (fun _ _ => True) fun _ _ => True := by
  cases o with
  | login c => exact (settles_login c).mono (fun _ _ _ => trivial) fun _ _ _ => trivial
  | restore r => exact (settles_restore r).mono (fun _ _ _ => trivial) fun _ _ _ => trivial
  | synchronize userId now interval provider =>
    exact (settles_synchronize userId now interval provider).mono (fun _ _ _ => trivial)
      fun _ _ _ => trivial

end programs

end AiScdc.Identity
