import AiScdc.DeviceSessions.Secrets
import AiScdc.Transaction.Absorbing

namespace AiScdc.DeviceSessions
open Transaction

-- Where a request stands that presents the secret whose rotation is due.
inductive Turn where
  | arriving | due | drawn (x : Id) | turning (x : Id) | turned (x : Id) | beaten | graced | lost

-- A change of a device session row.
def OnSession (R : DeviceSession → DeviceSession → Prop) : RowChange
  | .deviceSession _, v, u => ∃ s s' : DeviceSession, v = some s ∧ u = some s' ∧ R s s'
  | .continuation _, _, _ => False

section race

variable [SecretHash] {ι : Type} (id secret : Id) (s₀ : DeviceSession) (r : ι → Request)

structure RotatedBy (i : ι) (x : Id) (s : DeviceSession) : Prop where
  active : s.status = .active
  current : s.secretHash = hashSessionSecret x
  previous : s.previousSecretHash = some (hashSessionSecret secret)
  window : s.previousSecretValidUntil = some ((r i).now + previousSecretValidity)
  live : ∀ j, (r j).now < s.idleExpiresAt
  fresh : x ≠ secret

def RotatedRow (row : Option DeviceSession) : Prop := ∃ i x s, row = some s ∧ RotatedBy secret r i x s

-- A read that shows what no interleaving leaves is lost, and nothing is asked of what follows.
def raceCourse (i : ι) : Course Row Turn where
  learn x db _ y :=
    match x with
    | .arriving => db (.deviceSession id) = some s₀ ∧ y = .due ∨
        RotatedRow secret r (db (.deviceSession id)) ∧ y = .graced ∨
        db (.deviceSession id) ≠ some s₀ ∧ ¬ RotatedRow secret r (db (.deviceSession id)) ∧ y = .lost
    | .beaten => RotatedRow secret r (db (.deviceSession id)) ∧ y = .graced ∨
        ¬ RotatedRow secret r (db (.deviceSession id)) ∧ y = .lost
    | .graced | .turned _ => ¬ RotatedRow secret r (db (.deviceSession id)) ∧ y = .lost
    | _ => False
  number x n y := x = .due ∧ y = .drawn n
  update x k g s y :=
    match x with
    | .drawn n => k = .deviceSession id ∧ y = .turning n ∧ ∀ v, g v = true → OnSession (fun s s' =>
        s.secretHash = hashSessionSecret secret ∧ (s = s₀ → n ≠ secret → RotatedBy secret r i n s')) k v (s v)
    | .graced | .turned _ => k = .deviceSession id ∧ y = x ∧ ∀ v, g v = true → OnSession (fun s s' =>
        ∀ j z, RotatedBy secret r j z s → RotatedBy secret r j z s') k v (s v)
    | .lost => y = .lost
    | _ => False
  flush x _ _ _ y := x = .lost ∧ y = .lost
  commit x y :=
    match x with
    | .turning n => y = .turned n
    | .graced | .turned _ | .lost => y = x
    | _ => False
  rollback x y :=
    match x with
    | .beaten | .graced | .turned _ | .lost => y = x
    | _ => False
  miss x k g y :=
    match x with
    | .drawn _ => k = .deviceSession id ∧ y = .beaten ∧
        ∀ v, OnSession (fun s _ => s = s₀) k v v → g v = true
    | _ => False

-- Requests that present the current secret of a live session, whose rotation is due.
structure RotationDue (rotatedAt : Time) (older : List (Id × Time)) (w : World) : Prop where
  row : w.db (.deviceSession id) = some s₀
  issued : Agrees ((secret,rotatedAt) :: older) s₀ w.next
  active : s₀.status = .active
  cookie : ∀ i, (r i).cookie = some (id,secret)
  due : ∀ i, s₀.secretRotatedAt + userSessionRotation ≤ (r i).now
  together : ∀ i j, (r i).now ≤ (r j).now + previousSecretValidity
  live : ∀ i, (r i).now < s₀.idleExpiresAt
  user : ∀ i, (r i).userActive = true
  workspace : ∀ i, (r i).workspaceAccess = true ∨ (r i).selectionRecovery = true
  identity : ∀ i, (r i).identityCheck ≠ some false

variable {id secret s₀ r} {rotatedAt : Time} {older : List (Id × Time)} {w₀ : World}

theorem RotationDue.current (h : RotationDue id secret s₀ r rotatedAt older w₀) :
    s₀.secretHash = hashSessionSecret secret := by
  obtain ⟨current,_,_,heq,hpart⟩ := h.issued.part
  cases heq
  exact partOf_current hpart

theorem RotationDue.previous (h : RotationDue id secret s₀ r rotatedAt older w₀) :
    s₀.previousSecretHash ≠ some (hashSessionSecret secret) := by
  obtain ⟨current,_,_,heq,hpart⟩ := h.issued.part
  cases heq
  intro hprevious
  obtain ⟨e,he,hsame⟩ := Option.map_eq_some_iff.mp ((partOf_previous secret hpart).mp hprevious)
  exact (List.nodup_cons.mp h.issued.nodup).1 (List.mem_map.mpr ⟨e,List.mem_of_mem_head? he,hsame⟩)

theorem resolve_original (h : RotationDue id secret s₀ r rotatedAt older w₀) (i : ι) :
    resolveDeviceSession sessionRows id s₀ secret (r i).now =
      pure (.ok ⟨id,s₀,hashSessionSecret secret,true⟩) := by
  have hrevoked : s₀.status ≠ .revoked := by
    rw [h.active]
    decide
  unfold resolveDeviceSession
  dsimp only
  rw [if_neg hrevoked,if_neg (not_not.mpr h.active),if_neg (Int.not_le.mpr (h.live i)),
    if_neg (by simp [h.previous]),if_neg (by simp [h.current])]
  simp [h.current]

theorem resolve_rotated {j : ι} {x : Id} {s : DeviceSession}
    (h : RotationDue id secret s₀ r rotatedAt older w₀) (hs : RotatedBy secret r j x s) (i : ι) :
    resolveDeviceSession sessionRows id s secret (r i).now =
      pure (.ok ⟨id,s,hashSessionSecret secret,false⟩) := by
  have hrevoked : s.status ≠ .revoked := by
    rw [hs.active]
    decide
  have hcurrent : ¬ s.secretHash = hashSessionSecret secret := by
    rw [hs.current,SecretHash.injective.eq_iff]
    exact hs.fresh
  have hgrace : s.graceOver (r i).now = false := by
    rw [DeviceSession.graceOver,hs.window]
    simpa using h.together i j
  unfold resolveDeviceSession
  dsimp only
  rw [if_neg hrevoked,if_neg (not_not.mpr hs.active),if_neg (Int.not_le.mpr (hs.live i)),
    if_neg (by simp [hgrace]),if_neg (by simp [hs.previous])]
  simp [hcurrent]

section walks

variable {α β : Type} {i : ι}

theorem lost_absorbing : Absorbing (raceCourse id secret s₀ r i) .lost :=
  ⟨fun _ _ _ => rfl,fun _ _ _ => ⟨rfl,rfl⟩,rfl,rfl⟩

theorem lost_any (m : Op α) {Q : α → Turn → Prop} {E : Response → Turn → Prop} (hQ : ∀ a, Q a .lost)
    (hE : ∀ e, E e .lost) : Writes (raceCourse id secret s₀ r i) .lost m Q E :=
  lost_absorbing.writes m hQ hE

-- From y the program stays in y, unless it is lost.
def Stays (P : Course Row Turn) (y : Turn) (m : Op α) : Prop :=
  Writes P y m (fun _ z => z = y ∨ z = .lost) fun _ z => z = .lost

theorem Stays.then {y : Turn} {m : Op α} {f : α → Op β} {Q : β → Turn → Prop}
    (h : Stays (raceCourse id secret s₀ r i) y m) (hQ : ∀ b, Q b .lost)
    (hf : ∀ a, Writes (raceCourse id secret s₀ r i) y (f a) Q fun _ z => z = .lost) :
    Writes (raceCourse id secret s₀ r i) y (m >>= f) Q fun _ z => z = .lost := by
  refine Writes.bind (h.mono (fun a z hz => ?_) fun _ _ hz => hz)
  rcases hz with rfl | rfl
  · exact hf a
  · exact lost_any _ hQ fun _ => rfl

theorem Stays.bind {y : Turn} {m : Op α} {f : α → Op β} (h : Stays (raceCourse id secret s₀ r i) y m)
    (hf : ∀ a, Stays (raceCourse id secret s₀ r i) y (f a)) :
    Stays (raceCourse id secret s₀ r i) y (m >>= f) := h.then (fun _ => Or.inr rfl) hf

inductive Settled : Turn → Prop
  | turned (x : Id) : Settled (.turned x)
  | graced : Settled .graced

variable {y : Turn}

theorem stays_commit (hy : Settled y) : Stays (raceCourse id secret s₀ r i) y commit := by
  cases hy <;> exact ⟨_,rfl,Or.inl rfl⟩

theorem stays_rollback (hy : Settled y) : Stays (raceCourse id secret s₀ r i) y rollback := by
  cases hy <;> exact ⟨_,rfl,Or.inl rfl⟩

theorem stays_refresh (hy : Settled y) :
    Stays (raceCourse id secret s₀ r i) y (refreshDeviceSession id) := by
  intro db n
  by_cases hrow : RotatedRow secret r (db (.deviceSession id))
  · refine ⟨y,Or.inl rfl,?_⟩
    obtain ⟨_,_,s,hs,_⟩ := hrow
    show Writes _ y (match db (.deviceSession id) with
      | none => invalidUserSession
      | some s => pure s) _ _
    rw [hs]
    exact Or.inl rfl
  · refine ⟨.lost,Or.inr ?_,lost_any _ (fun _ => Or.inr rfl) fun _ => rfl⟩
    cases hy <;> exact ⟨hrow,rfl⟩

theorem RotatedBy.renewed {j : ι} {x : Id} {s : DeviceSession} (h : RotationDue id secret s₀ r rotatedAt older w₀)
    (hs : RotatedBy secret r j x s) (i : ι) : RotatedBy secret r j x (s.renew (r i).now) where
  active := hs.active
  current := hs.current
  previous := hs.previous
  window := hs.window
  live k := by
    have hlonger : previousSecretValidity < userSessionIdle := by decide
    exact Int.lt_of_le_of_lt (h.together k i) (Int.add_lt_add_left hlonger _)
  fresh := hs.fresh

theorem stays_renew (h : RotationDue id secret s₀ r rotatedAt older w₀) (hy : Settled y) (s : DeviceSession) :
    Stays (raceCourse id secret s₀ r i) y (renewActivity id s (r i).now) := by
  have hupdate : Stays (raceCourse id secret s₀ r i) y (Rows.updateWhere (.deviceSession id)
      (fun c : DeviceSession => c.status = .active && c.lastSeenAt = s.lastSeenAt)
      fun c : DeviceSession => c.renew (r i).now) := by
    have hrenew : ∀ v : Row (.deviceSession id), (v.any fun c : DeviceSession =>
        c.status = .active && c.lastSeenAt = s.lastSeenAt) = true → OnSession (fun s s' => ∀ j z,
          RotatedBy secret r j z s → RotatedBy secret r j z s') (.deviceSession id) v
          (v.map fun c : DeviceSession => c.renew (r i).now) := by
      intro v hv
      obtain ⟨c,rfl,_⟩ := (Option.any_eq_true _ _).mp hv
      exact ⟨c,_,rfl,rfl,fun _ _ hc => hc.renewed h i⟩
    cases hy <;> exact ⟨⟨_,⟨rfl,rfl,hrenew⟩,Or.inl rfl⟩,_,Or.inl rfl,Or.inl rfl⟩
  rw [renewActivity]
  split
  · refine hupdate.bind fun renewed => ?_
    cases renewed with
    | true => exact (stays_commit hy).bind fun _ => stays_refresh hy
    | false => exact (stays_rollback hy).bind fun _ => stays_refresh hy
  · exact Or.inl rfl

theorem stays_authorize (h : RotationDue id secret s₀ r rotatedAt older w₀) (hy : Settled y) (s : DeviceSession) :
    Stays (raceCourse id secret s₀ r i) y (authorizeRequest (r i) id s) := by
  have hworkspace : ¬ (!(r i).workspaceAccess && !(r i).selectionRecovery) = true := by
    rcases h.workspace i with hw | hw <;> simp [hw]
  have hsync : Stays (raceCourse id secret s₀ r i) y (synchronizeRequestIdentityStatus (r i) id s) := by
    unfold synchronizeRequestIdentityStatus
    split
    · exact Or.inl rfl
    · exact (stays_commit hy).bind fun _ => stays_refresh hy
    · rename_i hinactive
      exact (h.identity i hinactive).elim
  rw [authorizeRequest,if_neg (by simp [h.user i]),if_neg hworkspace]
  exact hsync.bind fun s => stays_renew h hy s

-- What the phase says of the secret handed out.
def Holds (cookie : Option Id) : Turn → Prop
  | .graced => cookie = none
  | .turned x => cookie = some x
  | .lost => True
  | _ => False

theorem turned_writes (x : Id) : Writes (raceCourse id secret s₀ r i) (.turning x) (do
      commit
      let current ← refreshDeviceSession id
      pure (current,some x) : Op (DeviceSession × Option Id)) (fun found z => Holds found.2 z)
      fun _ z => z = .lost :=
  ⟨.turned x,rfl,(stays_refresh (.turned x)).then (fun _ => trivial) fun _ => rfl⟩

theorem beaten_writes (h : RotationDue id secret s₀ r rotatedAt older w₀) :
    Writes (raceCourse id secret s₀ r i) .beaten (do
      let current ← recoverRotated id (hashSessionSecret secret) (r i).now
      pure (current,none) : Op (DeviceSession × Option Id)) (fun found z => Holds found.2 z)
      fun _ z => z = .lost := by
  refine ⟨.beaten,rfl,fun db n => ?_⟩
  by_cases hrow : RotatedRow secret r (db (.deviceSession id))
  · refine ⟨.graced,Or.inr (Or.inl ⟨hrow,rfl⟩),?_⟩
    obtain ⟨j,x,s,hs,hrotated⟩ := hrow
    have hwindow : s.previousSecretValidUntil.any fun validUntil => (r i).now ≤ validUntil := by
      rw [hrotated.window]
      simpa using h.together i j
    have hgrace : (if s.status = .active ∧ s.previousSecretHash = some (hashSessionSecret secret) ∧
        s.previousSecretValidUntil.any fun validUntil => (r i).now ≤ validUntil then
          pure s else invalidUserSession : Op DeviceSession) = pure s :=
      if_pos ⟨hrotated.active,hrotated.previous,hwindow⟩
    show Writes _ _ (((match db (.deviceSession id) with
      | none => invalidUserSession
      | some s => pure s) >>= fun current => if current.status = .active ∧
          current.previousSecretHash = some (hashSessionSecret secret) ∧
          current.previousSecretValidUntil.any fun validUntil => (r i).now ≤ validUntil then
        pure current else invalidUserSession) >>= fun current => pure (current,none)) _ _
    rw [hs]
    show Writes _ _ ((if s.status = .active ∧ s.previousSecretHash = some (hashSessionSecret secret) ∧
        s.previousSecretValidUntil.any fun validUntil => (r i).now ≤ validUntil then
          pure s else invalidUserSession : Op DeviceSession) >>= fun current => pure (current,none)) _ _
    rw [hgrace]
    exact rfl
  · exact ⟨.lost,Or.inr (Or.inr ⟨hrow,rfl⟩),lost_any _ (fun _ => trivial) fun _ => rfl⟩

theorem rotate_writes (h : RotationDue id secret s₀ r rotatedAt older w₀) :
    Writes (raceCourse id secret s₀ r i) .due
      (rotateUserSessionCredential id s₀ (hashSessionSecret secret) (r i).now)
      (fun found z => Holds found.2 z) fun _ z => z = .lost := by
  intro x
  refine ⟨.drawn x,Or.inr ⟨rfl,rfl⟩,⟨.turning x,⟨rfl,rfl,fun v hv => ?_⟩,turned_writes x⟩,.beaten,
    Or.inr ⟨rfl,rfl,?_⟩,beaten_writes h⟩
  · obtain ⟨c,rfl,hc⟩ := (Option.any_eq_true _ _).mp hv
    simp only [Bool.and_eq_true,decide_eq_true_eq] at hc
    refine ⟨c,_,rfl,rfl,hc.1.2,?_⟩
    rintro rfl hx
    have hrotated : RotatedBy secret r i x (c.rotate (hashSessionSecret x) (hashSessionSecret secret) (r i).now) :=
      ⟨h.active,rfl,rfl,rfl,h.live,hx⟩
    split
    · exact hrotated.renewed h i
    · exact hrotated
  · rintro v ⟨_,_,rfl,_,rfl⟩
    simp [h.active,h.current]

theorem resolve_writes (h : RotationDue id secret s₀ r rotatedAt older w₀) :
    Writes (raceCourse id secret s₀ r i) .arriving
      (resolveUserSessionCredential sessionRows (some (id,secret)) (r i).now)
      (fun resolved z => z = .lost ∨ z = .due ∧ resolved = .ok ⟨id,s₀,hashSessionSecret secret,true⟩ ∨
        z = .graced ∧ ∃ s, resolved = .ok ⟨id,s,hashSessionSecret secret,false⟩) fun _ z => z = .lost := by
  have hrow {db : Db} {s : DeviceSession} (hs : db (.deviceSession id) = some s) :
      resolveFound sessionRows id secret (r i).now (db (.deviceSession id)) =
        resolveDeviceSession sessionRows id s secret (r i).now := by
    rw [hs]
    rfl
  intro db n
  show ∃ y, _ ∧ Writes _ y (resolveFound sessionRows id secret (r i).now (db (.deviceSession id))) _ _
  by_cases hdue : db (.deviceSession id) = some s₀
  · refine ⟨.due,Or.inr (Or.inl ⟨hdue,rfl⟩),?_⟩
    rw [hrow hdue,resolve_original h i]
    exact Or.inr (Or.inl ⟨rfl,rfl⟩)
  by_cases hrotated : RotatedRow secret r (db (.deviceSession id))
  · refine ⟨.graced,Or.inr (Or.inr (Or.inl ⟨hrotated,rfl⟩)),?_⟩
    obtain ⟨_,_,s,hs,hby⟩ := hrotated
    rw [hrow hs,resolve_rotated h hby i]
    exact Or.inr (Or.inr ⟨rfl,s,rfl⟩)
  · exact ⟨.lost,Or.inr (Or.inr (Or.inr ⟨hdue,hrotated,rfl⟩)),
      lost_any _ (fun _ => Or.inl rfl) fun _ => rfl⟩

-- How a request of the race ends.
def Finishes (id : Id) (e : Response) (y : Turn) : Prop :=
  y = .lost ∨ ∃ cookie, e = .authenticated id cookie ∧ Settled y ∧ Holds cookie y

theorem admit_writes (h : RotationDue id secret s₀ r rotatedAt older w₀) (s : DeviceSession)
    (cookie : Option Id) (hy : Settled y) (hcookie : Holds cookie y) :
    Writes (raceCourse id secret s₀ r i) y (do
      let auth ← (do
        let s ← authorizeRequest (r i) id s
        pure ⟨id,s,cookie⟩ : Op Authenticated)
      respond (.authenticated auth.sessionId auth.cookie) : Op Unit) (fun _ _ => True)
      fun e z => Finishes id e z := by
  rw [bind_assoc]
  refine Writes.bind ((stays_authorize h hy s).mono (fun s z hz => ?_) fun _ _ hz => Or.inl hz)
  rcases hz with rfl | rfl
  · exact Or.inr ⟨cookie,rfl,hy,hcookie⟩
  · exact Or.inl rfl

theorem authenticate_writes (h : RotationDue id secret s₀ r rotatedAt older w₀) :
    Writes (raceCourse id secret s₀ r i) .arriving (authenticate (r i)) (fun _ _ => True)
      fun e z => Finishes id e z := by
  rw [authenticate,userSessionAuthContext,h.cookie i,bind_assoc]
  refine Writes.bind ((resolve_writes h).mono (fun resolved z hz => ?_) fun _ _ hz => Or.inl hz)
  rcases hz with rfl | ⟨rfl,rfl⟩ | ⟨rfl,s,rfl⟩
  · exact lost_any _ (fun _ => trivial) fun _ => Or.inl rfl
  · have hrotate : rotateWhenDue ⟨id,s₀,hashSessionSecret secret,true⟩ (r i).now =
        rotateUserSessionCredential id s₀ (hashSessionSecret secret) (r i).now := if_pos ⟨rfl,h.due i⟩
    show Writes _ _ ((rotateWhenDue _ (r i).now >>= fun _ => _) >>= _) _ _
    rw [hrotate,bind_assoc]
    refine Writes.bind ((rotate_writes h).mono (fun found z hz => ?_) fun _ _ hz => Or.inl hz)
    obtain ⟨s,cookie⟩ := found
    cases z with
    | graced => exact admit_writes h s cookie .graced hz
    | turned x => exact admit_writes h s cookie (.turned x) hz
    | lost => exact lost_any _ (fun _ => trivial) fun _ => Or.inl rfl
    | _ => exact hz.elim
  · exact admit_writes h s none .graced rfl

end walks

abbrev SessionWrite (id : Id) := Option (Write Row (.deviceSession id))

-- What the transaction of a request has written of the session.
def Writing (id : Id) (A : DeviceSession → Prop) (p : SessionWrite id) : Prop :=
  ∀ wr, p = some wr → ∃ s : DeviceSession, wr.value = some s ∧ A s

-- A request while nobody has committed a rotation.
def Before (id secret : Id) (r : ι → Request) (i : ι) (p : SessionWrite id) : Turn → Prop
  | .arriving | .due => p = none
  | .drawn x => x ≠ secret ∧ p = none
  | .turning x => p ≠ none ∧ Writing id (RotatedBy secret r i x) p
  | _ => False

-- A request once the request i₀ has rotated the secret to x.
def After (id secret : Id) (r : ι → Request) (i₀ : ι) (x : Id) (i : ι) (p : SessionWrite id) : Turn → Prop
  | .arriving | .due | .drawn _ | .beaten => i ≠ i₀ ∧ p = none
  | .graced => i ≠ i₀ ∧ Writing id (RotatedBy secret r i₀ x) p
  | .turned y => i = i₀ ∧ y = x ∧ Writing id (RotatedBy secret r i₀ x) p
  | _ => False

def hashOf (row : Option DeviceSession) : Option ℕ := row.map DeviceSession.secretHash

-- The commits that change the session's secret.
def rotations (id : Id) (tr : List (Commit ι Row)) : ℕ :=
  tr.countP fun c => decide (hashOf (c.before (.deviceSession id)) ≠ hashOf (c.after (.deviceSession id)))

inductive Race (id secret : Id) (s₀ : DeviceSession) (r : ι → Request) (tr : List (Commit ι Row))
    (ph : ι → Turn) (pd : ι → Pending Row) (w : World) : Prop
  | before (hnext : secret < w.next) (hrow : w.db (.deviceSession id) = some s₀)
      (hcount : rotations id tr = 0)
      (hall : ∀ i, Before id secret r i (pd i (.deviceSession id)) (ph i))
  | after (hnext : secret < w.next) (i₀ : ι) (x : Id) (s : DeviceSession)
      (hrow : w.db (.deviceSession id) = some s) (hs : RotatedBy secret r i₀ x s)
      (hcount : rotations id tr = 1)
      (hall : ∀ i, After id secret r i₀ x i (pd i (.deviceSession id)) (ph i))

omit [SecretHash] in
theorem writing_none {A : DeviceSession → Prop} : Writing id A none := fun _ h => by cases h

theorem Before.after {i j : ι} {x : Id} {p : SessionWrite id} {y : Turn}
    (h : Before id secret r j p y) (hj : j ≠ i) (hfree : p = none) : After id secret r i x j p y := by
  cases y with
  | arriving | due => exact ⟨hj,h⟩
  | drawn => exact ⟨hj,h.2⟩
  | turning => exact (h.1 hfree).elim
  | beaten | graced | turned | lost => exact h.elim

theorem After.drop {i₀ i : ι} {x : Id} {p : SessionWrite id} {y : Turn}
    (h : After id secret r i₀ x i p y) : After id secret r i₀ x i none y := by
  cases y with
  | arriving | due | drawn | beaten => exact ⟨h.1,rfl⟩
  | graced => exact ⟨h.1,writing_none⟩
  | turned => exact ⟨h.1,h.2.1,writing_none⟩
  | turning | lost => exact h

section updates

variable [DecidableEq ι] {ph : ι → Turn} {pd : ι → Pending Row} {i : ι} {y : Turn}
  {Q : ι → SessionWrite id → Turn → Prop}

omit [SecretHash] in
theorem all_update {p : Pending Row} (h : ∀ j, Q j (pd j (.deviceSession id)) (ph j))
    (hi : Q i (p (.deviceSession id)) y) (j : ι) :
    Q j (Function.update pd i p j (.deviceSession id)) (Function.update ph i y j) := by
  by_cases hj : j = i
  · subst hj
    simpa using hi
  · simpa [hj] using h j

omit [SecretHash] in
theorem all_phase (h : ∀ j, Q j (pd j (.deviceSession id)) (ph j))
    (hi : Q i (pd i (.deviceSession id)) y) (j : ι) :
    Q j (pd j (.deviceSession id)) (Function.update ph i y j) := by
  have hup := all_update (p := pd i) h hi j
  rwa [Function.update_eq_self] at hup

omit [DecidableEq ι] in
theorem rotatedRow_view {i₀ : ι} {x : Id} {s : DeviceSession} {p : Pending Row} {db : Db}
    (hrow : db (.deviceSession id) = some s) (hs : RotatedBy secret r i₀ x s)
    (hp : Writing id (RotatedBy secret r i₀ x) (p (.deviceSession id))) :
    ∃ s', p.view db (.deviceSession id) = some s' ∧ RotatedBy secret r i₀ x s' := by
  cases hw : p (.deviceSession id) with
  | none => exact ⟨s,by rw [Pending.view_of_none hw,hrow],hs⟩
  | some wr =>
    obtain ⟨s',hs',hby⟩ := hp wr hw
    exact ⟨s',by rw [Pending.view_of_some hw,hs'],hby⟩

omit [DecidableEq ι] in
theorem original_not_rotated (h : RotationDue id secret s₀ r rotatedAt older w₀) :
    ¬ RotatedRow secret r (some s₀) := by
  rintro ⟨j,x,s,heq,hs⟩
  obtain rfl := Option.some.inj heq
  exact hs.fresh (SecretHash.injective (hs.current.symm.trans h.current))

variable {tr : List (Commit ι Row)} {w : World}

theorem race_learn (h : RotationDue id secret s₀ r rotatedAt older w₀)
    (hJ : Race id secret s₀ r tr ph pd w)
    (hlearn : (raceCourse id secret s₀ r i).learn (ph i) ((pd i).view w.db) w.next y) :
    Race id secret s₀ r tr (Function.update ph i y) pd w := by
  cases hJ with
  | before hnext hrow hcount hall =>
    have hi := hall i
    cases hph : ph i with
    | arriving =>
      rw [hph] at hi hlearn
      have hview : (pd i).view w.db (.deviceSession id) = some s₀ := by rw [Pending.view_of_none hi,hrow]
      rcases hlearn with ⟨_,rfl⟩ | ⟨hrotated,_⟩ | ⟨hne,_⟩
      · exact .before hnext hrow hcount (all_phase hall hi)
      · rw [hview] at hrotated
        exact (original_not_rotated h hrotated).elim
      · exact (hne hview).elim
    | beaten | graced | turned | lost =>
      rw [hph] at hi
      exact hi.elim
    | _ =>
      rw [hph] at hlearn
      exact hlearn.elim
  | after hnext i₀ x s hrow hs hcount hall =>
    have hi := hall i
    have hseen (hp : pd i (.deviceSession id) = none) :
        RotatedRow secret r ((pd i).view w.db (.deviceSession id)) :=
      ⟨i₀,x,s,by rw [Pending.view_of_none hp,hrow],hs⟩
    cases hph : ph i with
    | arriving =>
      rw [hph] at hi hlearn
      rcases hlearn with ⟨_,rfl⟩ | ⟨_,rfl⟩ | ⟨_,hnot,_⟩
      · exact .after hnext i₀ x s hrow hs hcount (all_phase hall hi)
      · exact .after hnext i₀ x s hrow hs hcount (all_phase hall ⟨hi.1,hi.2 ▸ writing_none⟩)
      · exact (hnot (hseen hi.2)).elim
    | beaten =>
      rw [hph] at hi hlearn
      rcases hlearn with ⟨_,rfl⟩ | ⟨hnot,_⟩
      · exact .after hnext i₀ x s hrow hs hcount (all_phase hall ⟨hi.1,hi.2 ▸ writing_none⟩)
      · exact (hnot (hseen hi.2)).elim
    | graced =>
      rw [hph] at hi hlearn
      obtain ⟨s',hs',hby⟩ := rotatedRow_view hrow hs hi.2
      exact (hlearn.1 ⟨i₀,x,s',hs',hby⟩).elim
    | turned =>
      rw [hph] at hi hlearn
      obtain ⟨s',hs',hby⟩ := rotatedRow_view hrow hs hi.2.2
      exact (hlearn.1 ⟨i₀,x,s',hs',hby⟩).elim
    | _ =>
      rw [hph] at hlearn
      exact hlearn.elim

theorem race_number (hJ : Race id secret s₀ r tr ph pd w) (hph : ph i = .due) :
    Race id secret s₀ r tr (Function.update ph i (.drawn w.next)) pd w.bump := by
  cases hJ with
  | before hnext hrow hcount hall =>
    have hi := hall i
    rw [hph] at hi
    exact .before (Nat.lt_succ_of_lt hnext) hrow hcount (all_phase hall ⟨(Nat.ne_of_gt hnext),hi⟩)
  | after hnext i₀ x s hrow hs hcount hall =>
    have hi := hall i
    rw [hph] at hi
    exact .after (Nat.lt_succ_of_lt hnext) i₀ x s hrow hs hcount (all_phase hall hi)

omit [SecretHash] in
theorem writing_put {A : DeviceSession → Prop} {p : Pending Row} {l u : Row (.deviceSession id)}
    {s : DeviceSession} (hu : u = some s) (hA : A s) :
    Writing id A (p.put (.deviceSession id) l u (.deviceSession id)) := by
  intro wr hwr
  rw [Pending.put_self] at hwr
  cases hwr
  exact ⟨s,hu,hA⟩

theorem race_update (hJ : Race id secret s₀ r tr ph pd w) {k : Key} {g : Row k → Bool} {set : Row k → Row k}
    (hup : (raceCourse id secret s₀ r i).update (ph i) k g set y)
    (hg : g ((pd i).view w.db k) = true) :
    Race id secret s₀ r tr (Function.update ph i y)
      (Function.update pd i ((pd i).put k (w.db k) (set ((pd i).view w.db k)))) w := by
  cases hJ with
  | before hnext hrow hcount hall =>
    have hi := hall i
    cases hph : ph i with
    | drawn n =>
      rw [hph] at hi hup
      obtain ⟨rfl,rfl,hset⟩ := hup
      obtain ⟨s,s',hs,hs',_,hrotated⟩ := hset _ hg
      rw [Pending.view_of_none hi.2,hrow] at hs
      obtain rfl := Option.some.inj hs
      refine .before hnext hrow hcount (all_update hall ⟨?_,writing_put hs' (hrotated rfl hi.1)⟩)
      rw [Pending.put_self]
      exact Option.some_ne_none _
    | beaten | graced | turned | lost =>
      rw [hph] at hi
      exact hi.elim
    | _ =>
      rw [hph] at hup
      exact hup.elim
  | after hnext i₀ x s hrow hs hcount hall =>
    have hi := hall i
    cases hph : ph i with
    | drawn n =>
      rw [hph] at hi hup
      obtain ⟨rfl,rfl,hset⟩ := hup
      obtain ⟨s',_,hs',_,hhash,_⟩ := hset _ hg
      rw [Pending.view_of_none hi.2,hrow] at hs'
      obtain rfl := Option.some.inj hs'
      exact (hs.fresh (SecretHash.injective (hs.current.symm.trans hhash))).elim
    | graced =>
      rw [hph] at hi hup
      obtain ⟨rfl,rfl,hset⟩ := hup
      obtain ⟨s',hs',hby⟩ := rotatedRow_view hrow hs hi.2
      obtain ⟨_,u,hv,hu,hkeep⟩ := hset _ hg
      obtain rfl := Option.some.inj (hs'.symm.trans hv)
      exact .after hnext i₀ x s hrow hs hcount (all_update hall ⟨hi.1,writing_put hu (hkeep _ _ hby)⟩)
    | turned =>
      rw [hph] at hi hup
      obtain ⟨rfl,rfl,hset⟩ := hup
      obtain ⟨s',hs',hby⟩ := rotatedRow_view hrow hs hi.2.2
      obtain ⟨_,u,hv,hu,hkeep⟩ := hset _ hg
      obtain rfl := Option.some.inj (hs'.symm.trans hv)
      exact .after hnext i₀ x s hrow hs hcount
        (all_update hall ⟨hi.1,hi.2.1,writing_put hu (hkeep _ _ hby)⟩)
    | turning | lost =>
      rw [hph] at hi
      exact hi.elim
    | _ =>
      rw [hph] at hup
      exact hup.elim

theorem race_commit (h : RotationDue id secret s₀ r rotatedAt older w₀)
    (hJ : Race id secret s₀ r tr ph pd w) (ha : Apart pd)
    (hcommit : (raceCourse id secret s₀ r i).commit (ph i) y) :
    Race id secret s₀ r (tr ++ [⟨i,pd i,w.db⟩]) (Function.update ph i y)
      (Function.update pd i Pending.empty) ⟨(pd i).view w.db,w.next⟩ := by
  have hlast : rotations id (tr ++ [⟨i,pd i,w.db⟩]) = rotations id tr + if
      hashOf (w.db (.deviceSession id)) ≠ hashOf ((pd i).view w.db (.deviceSession id)) then 1 else 0 := by
    simp only [rotations,List.countP_append,List.countP_singleton,decide_eq_true_eq]
    rfl
  cases hJ with
  | before hnext hrow hcount hall =>
    have hi := hall i
    cases hph : ph i with
    | turning n =>
      rw [hph] at hi hcommit
      obtain rfl := hcommit
      obtain ⟨wr,hwr⟩ := Option.ne_none_iff_exists'.mp hi.1
      obtain ⟨s',hs',hby⟩ := hi.2 wr hwr
      have hview : (pd i).view w.db (.deviceSession id) = some s' := by rw [Pending.view_of_some hwr,hs']
      refine .after hnext i n s' hview hby ?_ fun j => ?_
      · rw [hlast,hcount,hrow,hview,if_pos]
        simpa [hashOf,h.current,hby.current,SecretHash.injective.eq_iff] using hby.fresh.symm
      · by_cases hj : j = i
        · subst hj
          rw [Function.update_self,Function.update_self]
          exact ⟨rfl,rfl,writing_none⟩
        · have hfree := ha i j (.deviceSession id) (Ne.symm hj) (by simp [hwr])
          simpa [hj] using (hall j).after hj hfree
    | beaten | graced | turned | lost =>
      rw [hph] at hi
      exact hi.elim
    | _ =>
      rw [hph] at hcommit
      exact hcommit.elim
  | after hnext i₀ x s hrow hs hcount hall =>
    have hi := hall i
    have hsettled (hp : Writing id (RotatedBy secret r i₀ x) (pd i (.deviceSession id)))
        (hy : After id secret r i₀ x i none y) :
        Race id secret s₀ r (tr ++ [⟨i,pd i,w.db⟩]) (Function.update ph i y)
          (Function.update pd i Pending.empty) ⟨(pd i).view w.db,w.next⟩ := by
      obtain ⟨s',hs',hby⟩ := rotatedRow_view hrow hs hp
      refine .after hnext i₀ x s' hs' hby ?_ (all_update hall hy)
      rw [hlast,hcount,hrow,hs',if_neg]
      simp [hashOf,hs.current,hby.current]
    cases hph : ph i with
    | graced =>
      rw [hph] at hi hcommit
      obtain rfl := hcommit
      exact hsettled hi.2 hi.drop
    | turned =>
      rw [hph] at hi hcommit
      obtain rfl := hcommit
      exact hsettled hi.2.2 hi.drop
    | turning | lost =>
      rw [hph] at hi
      exact hi.elim
    | _ =>
      rw [hph] at hcommit
      exact hcommit.elim

theorem race_rollback (hJ : Race id secret s₀ r tr ph pd w)
    (hroll : (raceCourse id secret s₀ r i).rollback (ph i) y) :
    Race id secret s₀ r tr (Function.update ph i y) (Function.update pd i Pending.empty) w := by
  cases hJ with
  | before hnext hrow hcount hall =>
    have hi := hall i
    cases hph : ph i with
    | beaten | graced | turned | lost =>
      rw [hph] at hi
      exact hi.elim
    | _ =>
      rw [hph] at hroll
      exact hroll.elim
  | after hnext i₀ x s hrow hs hcount hall =>
    have hi := hall i
    cases hph : ph i with
    | beaten | graced | turned | lost =>
      rw [hph] at hi hroll
      obtain rfl := hroll
      exact .after hnext i₀ x s hrow hs hcount (all_update hall hi.drop)
    | _ =>
      rw [hph] at hroll
      exact hroll.elim

theorem race_miss (hJ : Race id secret s₀ r tr ph pd w) {k : Key} {g : Row k → Bool}
    (hmiss : (raceCourse id secret s₀ r i).miss (ph i) k g y) (hg : g ((pd i).view w.db k) = false) :
    Race id secret s₀ r tr (Function.update ph i y) pd w := by
  cases hph : ph i with
  | drawn n =>
    rw [hph] at hmiss
    obtain ⟨rfl,rfl,hdue⟩ := hmiss
    cases hJ with
    | before hnext hrow hcount hall =>
      have hi := hall i
      rw [hph] at hi
      have hview : (pd i).view w.db (.deviceSession id) = some s₀ := by
        rw [Pending.view_of_none hi.2,hrow]
      rw [hdue _ ⟨s₀,s₀,hview,hview,rfl⟩] at hg
      cases hg
    | after hnext i₀ x s hrow hs hcount hall =>
      have hi := hall i
      rw [hph] at hi
      exact .after hnext i₀ x s hrow hs hcount (all_phase hall hi)
  | _ =>
    rw [hph] at hmiss
    exact hmiss.elim

theorem race_annotated (h : RotationDue id secret s₀ r rotatedAt older w₀) :
    Annotated (raceCourse id secret s₀ r) (fun _ _ _ _ _ => True) (Race id secret s₀ r) where
  bump hJ := by
    cases hJ with
    | before hnext hrow hcount hall => exact .before (Nat.lt_succ_of_lt hnext) hrow hcount hall
    | after hnext i₀ x s hrow hs hcount hall =>
      exact .after (Nat.lt_succ_of_lt hnext) i₀ x s hrow hs hcount hall
  learn hJ hlearn := race_learn h hJ hlearn
  number := by
    rintro tr ph pd w i y hJ ⟨hph,rfl⟩
    exact race_number hJ hph
  update hJ _ _ hup hg := race_update hJ hup hg
  flush := by
    rintro tr ph pd w i y k l n hJ _ _ ⟨hph,_⟩ _ _
    cases hJ with
    | before _ _ _ hall =>
      have hi := hall i
      rw [hph] at hi
      exact hi.elim
    | after _ _ _ _ _ _ _ hall =>
      have hi := hall i
      rw [hph] at hi
      exact hi.elim
  commit hJ ha hcommit := race_commit h hJ ha hcommit
  rollback hJ hroll := race_rollback hJ hroll
  stop := by
    rintro tr ph pd w i hJ
    cases hJ with
    | before hnext hrow hcount hall =>
      exact ⟨.arriving,.before hnext hrow hcount (all_update hall rfl)⟩
    | after hnext i₀ x s hrow hs hcount hall =>
      exact ⟨ph i,.after hnext i₀ x s hrow hs hcount (all_update hall (hall i).drop)⟩
  miss hJ hmiss hg := race_miss hJ hmiss hg
  skip hJ hskip := hskip.elim

theorem race_ends : Ends (fun _ : ι => Finishes id) (Race id secret s₀ r) := by
  intro tr ph pd w i e hJ he
  refine ⟨ph i,he,?_⟩
  cases hJ with
  | before hnext hrow hcount hall =>
    have hi := hall i
    rcases he with hlost | ⟨_,_,hsettled,_⟩
    · rw [hlost] at hi
      exact hi.elim
    · cases hph : ph i with
      | graced | turned =>
        rw [hph] at hi
        exact hi.elim
      | _ =>
        rw [hph] at hsettled
        cases hsettled
  | after hnext i₀ x s hrow hs hcount hall =>
    exact .after hnext i₀ x s hrow hs hcount (all_update hall (hall i).drop)

theorem After.response {i₀ : ι} {x : Id} {p : SessionWrite id} {e : Response}
    (h : After id secret r i₀ x i p y) (he : Finishes id e y) :
    e = .authenticated id (if i = i₀ then some x else none) := by
  rcases he with rfl | ⟨cookie,rfl,hsettled,hholds⟩
  · exact h.elim
  · cases hsettled with
    | graced =>
      obtain rfl : cookie = none := hholds
      rw [if_neg h.1]
    | turned z =>
      obtain rfl : cookie = some z := hholds
      obtain ⟨rfl,rfl,_⟩ := h
      rw [if_pos rfl]

omit [DecidableEq ι] in
theorem Before.unfinished {p : SessionWrite id} {e : Response} (h : Before id secret r i p y)
    (he : Finishes id e y) : False := by
  rcases he with rfl | ⟨_,_,hsettled,_⟩
  · exact h
  · cases hsettled <;> exact h

variable [Fintype ι] {g : Global ι Row Time Response}

theorem concurrent_rotations (h : RotationDue id secret s₀ r rotatedAt older w₀)
    (hrun : Execution (fun _ _ => True) (Global.init w₀ fun i => authenticate (r i)) tr g) :
    (∃ s : DeviceSession, g.world.db (.deviceSession id) = some s ∧ s.status = .active) ∧
      rotations id tr ≤ 1 ∧
      ∀ i e, (g.thread i).prog = .throw e → rotations id tr = 1 ∧
        ∃ (i₀ : ι) (x : Id) (s : DeviceSession), x ≠ secret ∧
          g.world.db (.deviceSession id) = some s ∧ s.secretHash = hashSessionSecret x ∧
          ∀ j e', (g.thread j).prog = .throw e' →
            e' = .authenticated id (if j = i₀ then some x else none) := by
  have hstart : Race id secret s₀ r [] (fun _ => .arriving) (fun _ => Pending.empty) w₀ :=
    .before (h.issued.drawn (secret,rotatedAt) List.mem_cons_self) h.row rfl fun _ => rfl
  obtain ⟨ph,hst⟩ := hrun.ending (race_annotated h) race_ends (fun _ _ _ _ _ _ _ _ _ => trivial)
    (fun i => authenticate_writes h) hstart
  have hends (i : ι) (e : Response) (hp : (g.thread i).prog = .throw e) : Finishes id e (ph i) := by
    have hcourse := hst.course i
    rw [hp] at hcourse
    exact hcourse
  cases hst.inv with
  | before hnext hrow hcount hall =>
    refine ⟨⟨s₀,hrow,h.active⟩,by omega,fun i e hp => ?_⟩
    exact ((hall i).unfinished (hends i e hp)).elim
  | after hnext i₀ x s hrow hs hcount hall =>
    refine ⟨⟨s,hrow,hs.active⟩,by omega,fun i e hp => ⟨hcount,i₀,x,s,hs.fresh,hrow,hs.current,?_⟩⟩
    exact fun j e' hp' => (hall j).response (hends j e' hp')

end updates

end race

def responseOf : Op Unit → Option Response
  | .throw e => some e
  | _ => none

theorem responseOf_some {m : Op Unit} {e : Response} (h : responseOf m = some e) : m = .throw e := by
  cases m with
  | throw e' =>
    cases h
    rfl
  | _ => cases h

-- Both requests read the session before the first of them updates it.
def racingSchedule : List (Bool × Time) :=
  [(false,0),(true,0),(false,0),(true,0),(false,0),(false,0),(true,0),(false,0),(true,0),(true,0)]

theorem opened_rotation_due :
    let _ := plainSecretHash
    RotationDue 2 5 openedSession (fun _ : Bool => sampleRequest userSessionRotation) 0 [] openedWorld := by
  let _ := plainSecretHash
  refine ⟨rfl,⟨⟨5,0,[],rfl,rfl⟩,by decide,by decide⟩,rfl,fun _ => rfl,?_,?_,?_,fun _ => rfl,?_,?_⟩
  · exact fun _ => by decide
  · exact fun _ _ => by decide
  · exact fun _ => by decide
  · exact fun _ => Or.inl rfl
  · exact fun _ h => by cases h

theorem racing_requests_authenticated :
    let _ := plainSecretHash
    ∃ tr g, Execution (fun _ _ => True)
        (Global.init openedWorld fun _ : Bool => authenticate (sampleRequest userSessionRotation)) tr g ∧
      (g.thread false).prog = .throw (.authenticated 2 (some 6)) ∧
      (g.thread true).prog = .throw (.authenticated 2 none) ∧ rotations 2 tr = 1 := by
  let _ := plainSecretHash
  have hplay : (((Global.init openedWorld fun _ : Bool =>
      authenticate (sampleRequest userSessionRotation)).play (fun _ _ => true) racingSchedule).map fun r =>
        (responseOf (r.2.thread false).prog,responseOf (r.2.thread true).prog)) =
      some (some (.authenticated 2 (some 6)),some (.authenticated 2 none)) := by decide +kernel
  obtain ⟨⟨tr,g⟩,hp,hresponses⟩ := Option.map_eq_some_iff.mp hplay
  obtain ⟨hfalse,htrue⟩ := Prod.mk.inj hresponses
  have hrun := (Global.play_run (.refl) _ hp).execution.weaken fun _ _ _ => trivial
  rw [List.nil_append] at hrun
  have hended := responseOf_some hfalse
  exact ⟨tr,g,hrun,hended,responseOf_some htrue,
    ((concurrent_rotations opened_rotation_due hrun).2.2 false _ hended).1⟩

end AiScdc.DeviceSessions
