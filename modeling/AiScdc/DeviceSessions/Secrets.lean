import AiScdc.DeviceSessions.Lifetimes
import AiScdc.Transaction.Sequential

namespace AiScdc.DeviceSessions
open Transaction

def KeepsSecrets : RowChange
  | .deviceSession _, v, u => ∀ s : DeviceSession, v = some s →
      ∃ s' : DeviceSession, u = some s' ∧ s'.secretPart = s.secretPart
  | .continuation _, _, _ => True

theorem flush_secretPart {l n : DeviceSession} (h : n.secretPart = l.secretPart) (s : DeviceSession) :
    (DeviceSession.flush l n s).secretPart = s.secretPart := by
  simp only [DeviceSession.secretPart,Prod.mk.injEq] at h
  obtain ⟨h₁,h₂,h₃,h₄⟩ := h
  simp [DeviceSession.secretPart,DeviceSession.flush,pick,h₁,h₂,h₃,h₄]

theorem keepsSecrets_map {id : Id} {f : DeviceSession → DeviceSession}
    (hf : ∀ s, (f s).secretPart = s.secretPart) (v : Row (.deviceSession id)) :
    KeepsSecrets (.deviceSession id) v (v.map f) := by
  rintro s rfl
  exact ⟨f s,rfl,hf s⟩

theorem keepsSecrets_mild : Mild KeepsSecrets where
  ending := by
    rintro id l n _ h v s rfl
    exact ⟨DeviceSession.flush l n s,rfl,flush_secretPart h s⟩
  revoking now _ v _ := keepsSecrets_map (f := fun s => s.revoke now) (fun _ => rfl) v
  renewing now _ v _ := keepsSecrets_map (f := fun s => s.renew now) (fun _ => rfl) v
  continuation _ _ := trivial

abbrev SecretPart := ℕ × Option ℕ × Option Time × Time

-- The session's row, as the transaction sees it and as committed, has a secret part of A.
structure Parted (id : Id) (A : SecretPart → Prop) (n : ℕ) (p : Pending Row) (w : World) : Prop where
  view : ∃ s : DeviceSession, p.view w.db (.deviceSession id) = some s ∧ A s.secretPart
  row : ∃ s : DeviceSession, w.db (.deviceSession id) = some s ∧ A s.secretPart
  next : n ≤ w.next

section quiet

variable {id : Id} {A : SecretPart → Prop} {n : ℕ} {p : Pending Row} {w : World}

theorem Parted.put (h : Parted id A n p w) {k : Key} {l u : Row k}
    (hu : KeepsSecrets k (p.view w.db k) u) : Parted id A n (p.put k l u) w := by
  refine ⟨?_,h.row,h.next⟩
  by_cases hk : Key.deviceSession id = k
  · subst hk
    obtain ⟨s,hs,hA⟩ := h.view
    obtain ⟨s',rfl,hs'⟩ := hu s hs
    exact ⟨s',by simp,by rw [hs']; exact hA⟩
  · rw [Pending.view_put_ne _ _ _ _ hk]
    exact h.view

theorem parted_stable : Stable alone (rowCourse KeepsSecrets) fun _ p w => Parted id A n p w where
  env h he := by
    rw [env_alone] at he
    subst he
    exact h
  bump h := ⟨h.view,h.row,Nat.le_succ_of_le h.next⟩
  learn h hl := hl.elim
  number h hl := hl.elim
  update h hP hg := h.put (hP _ hg)
  flush h hP _ _ := h.put (hP _)
  commit h _ := ⟨trivial,h.view,h.view,h.next⟩
  rollback h _ := ⟨h.row,h.row,h.next⟩
  miss h hm := hm.elim
  skip h hm := hm.elim

theorem quiet_wp {α : Type} {m : Op α} (hm : Changes KeepsSecrets m) (h : Parted id A n p w) :
    wp alone m (fun _ p' w' => Parted id A n p' w') (fun _ p' w' => Parted id A n p' w') p w :=
  wp_mono m (fun _ _ _ ⟨_,_,h'⟩ => h') (fun _ _ _ ⟨_,_,h'⟩ => h')
    (wp_writes parted_stable m (hm () trivial) h)

end quiet

section rotations

variable [SecretHash]

theorem resolve_shape (id : Id) (s : DeviceSession) (secret : Id) (now : Time) :
    (∃ rejected, ∃ m : Op Unit, Changes KeepsSecrets m ∧
      resolveDeviceSession sessionRows id s secret now = (m >>= fun _ => pure (.error rejected))) ∨
    s.status = .active ∧ resolveDeviceSession sessionRows id s secret now =
      pure (.ok ⟨id,s,hashSessionSecret secret,s.secretHash = hashSessionSecret secret⟩) := by
  have hexpire : Changes KeepsSecrets (Rows.flush (.deviceSession id) s (s.expire now)) :=
    changes_end keepsSecrets_mild (fun h => by cases h) rfl
  have hrevoke : Changes KeepsSecrets (Rows.flush (.deviceSession id) s (s.revoke now)) :=
    changes_end keepsSecrets_mild (fun h => by cases h) rfl
  unfold resolveDeviceSession
  dsimp only
  split
  · split
    · exact Or.inl ⟨_,pure (),changes_pure (),rfl⟩
    · exact Or.inl ⟨_,commit,changes_commit,rfl⟩
  split
  · exact Or.inl ⟨_,pure (),changes_pure (),rfl⟩
  rename_i hactive
  split
  · exact Or.inl ⟨_,_,hexpire.bind fun _ => changes_commit,(bind_assoc _ _ _).symm⟩
  split
  · exact Or.inl ⟨_,_,hrevoke.bind fun _ => changes_commit,(bind_assoc _ _ _).symm⟩
  split
  · exact Or.inl ⟨_,pure (),changes_pure (),rfl⟩
  · exact Or.inr ⟨not_not.mp hactive,rfl⟩

inductive RotationRequest where
  | request (r : Request)
  | recentAuthentication (r : Reauthentication)

namespace RotationRequest

def cookie : RotationRequest → Option (Id × Id)
  | .request r => r.cookie
  | .recentAuthentication r => r.cookie

def now : RotationRequest → Time
  | .request r => r.now
  | .recentAuthentication r => r.now

def program : RotationRequest → Op Unit
  | .request r => authenticate r
  | .recentAuthentication r => completeRecentAuthentication r

end RotationRequest

-- What a rotation at the time now leaves of the secrets of a session.
def rotatedPart (s : DeviceSession) (now : Time) (newSecret : Id) : SecretPart :=
  (hashSessionSecret newSecret,some s.secretHash,some (now + previousSecretValidity),now)

def partAfter (s : DeviceSession) (now : Time) (newSecret : Id) (a : SecretPart) : Prop :=
  a = s.secretPart ∨ a = rotatedPart s now newSecret

-- What an operation leaves of the session s: its secrets, or one rotation more.
def Turned (id : Id) (s : DeviceSession) (now : Time) (next : ℕ) (w : World) : Prop :=
  next ≤ w.next ∧ ∃ s' : DeviceSession, w.db (.deviceSession id) = some s' ∧
    (s'.secretPart = s.secretPart ∨
      ∃ x, next ≤ x ∧ x < w.next ∧ s'.secretPart = rotatedPart s now x)

variable {id secret : Id} {s : DeviceSession} {w : World} {now : Time}

omit [SecretHash] in
theorem parted_start (hrow : w.db (.deviceSession id) = some s) :
    Parted id (fun a => a = s.secretPart) w.next Pending.empty w := ⟨⟨s,hrow,rfl⟩,⟨s,hrow,rfl⟩,le_rfl⟩

theorem Parted.still {n : ℕ} {p : Pending Row} {w' : World}
    (h : Parted id (fun a => a = s.secretPart) n p w') : Turned id s now n w' := by
  obtain ⟨s',hs',hpart⟩ := h.row
  exact ⟨h.next,s',hs',Or.inl hpart⟩

theorem Parted.turned {x n : ℕ} {p : Pending Row} {w' : World} (hx : n ≤ x)
    (h : Parted id (partAfter s now x) (x + 1) p w') : Turned id s now n w' := by
  obtain ⟨s',hs',hpart⟩ := h.row
  have hnext : x < w'.next := h.next
  exact ⟨by omega,s',hs',hpart.imp (fun hsame => hsame) fun hrotated => ⟨x,hx,hnext,hrotated⟩⟩

theorem still_wp {m : Op Unit} (hm : Changes KeepsSecrets m) (hrow : w.db (.deviceSession id) = some s) :
    wp alone m (fun _ _ w' => Turned id s now w.next w') (fun _ _ w' => Turned id s now w.next w')
      Pending.empty w :=
  wp_mono m (fun _ _ _ h => h.still) (fun _ _ _ h => h.still) (quiet_wp hm (parted_start hrow))

-- A rotation draws its secret, updates the row, and leaves the secrets alone from there on.
theorem rotating_wp {g : DeviceSession → Bool} {f : Id → DeviceSession → DeviceSession}
    {k : Id → Bool → Op Unit} (hk : ∀ x, Changes KeepsSecrets (k x true))
    (hrow : w.db (.deviceSession id) = some s) (hg : g s = true)
    (hf : ∀ x, (f x s).secretPart = rotatedPart s now x) :
    wp alone (do
        let newSecret ← freshId
        let updated ← Rows.updateWhere (.deviceSession id) g (f newSecret)
        k newSecret updated)
      (fun _ _ w' => Turned id s now w.next w') (fun _ _ w' => Turned id s now w.next w')
      Pending.empty w := by
  have hview : (Pending.empty : Pending Row).view w.bump.db (.deviceSession id) = some s := hrow
  have hput : Parted id (partAfter s now w.next) (w.next + 1)
      ((Pending.empty : Pending Row).put (Key.deviceSession id) (w.bump.db (.deviceSession id))
        (some (f w.next s))) w.bump := by
    refine ⟨⟨f w.next s,by simp,Or.inr (hf _)⟩,⟨s,hrow,Or.inl rfl⟩,le_rfl⟩
  rw [wp_monad_bind]
  refine (alone_freshId _).mpr ?_
  show wp alone (Rows.updateWhere (Key.deviceSession id) g (f w.next) >>= k w.next) _ _ _ w.bump
  rw [wp_monad_bind]
  refine (alone_update _ _ _ _).mpr ⟨fun _ => ?_,fun hfalse => ?_⟩
  · rw [hview]
    show wp alone (k w.next true) _ _ _ w.bump
    exact wp_mono _ (fun _ _ _ h => h.turned le_rfl) (fun _ _ _ h => h.turned le_rfl)
      (quiet_wp (hk w.next) hput)
  · rw [hview] at hfalse
    simp [hg] at hfalse

theorem rotate_wp {k : DeviceSession × Option Id → Op Unit} (hk : ∀ r, Changes KeepsSecrets (k r))
    (hrow : w.db (.deviceSession id) = some s) (hactive : s.status = .active) :
    wp alone (rotateUserSessionCredential id s s.secretHash now >>= k)
      (fun _ _ w' => Turned id s now w.next w') (fun _ _ w' => Turned id s now w.next w')
      Pending.empty w := by
  rw [rotateUserSessionCredential,bind_assoc]
  simp only [bind_assoc]
  refine rotating_wp (fun x => ?_) hrow (by simp [hactive]) fun x => ?_
  · rw [if_pos rfl]
    exact Changes.bind (changes_commit.bind fun _ => (changes_refresh id).bind fun _ => changes_pure _) hk
  · split <;> rfl

theorem authenticate_wp {r : Request} (hcookie : r.cookie = some (id,secret))
    (hrow : w.db (.deviceSession id) = some s) :
    wp alone (authenticate r) (fun _ _ w' => Turned id s r.now w.next w')
      (fun _ _ w' => Turned id s r.now w.next w') Pending.empty w := by
  have hrest (auth : Authenticated) : Changes KeepsSecrets
      (respond (.authenticated auth.sessionId auth.cookie) : Op Unit) := changes_respond _
  have hrejection (rejected : Rejected) : Changes KeepsSecrets (admitRequest r (.error rejected)) :=
    changes_if changes_invalid (changes_record _)
  rw [authenticate,userSessionAuthContext,hcookie,bind_assoc,resolveUserSessionCredential,bind_assoc,
    wp_monad_bind]
  refine (alone_select _).mpr ?_
  have hview : Pending.empty.view w.db (.deviceSession id) = some s := hrow
  rw [hview]
  change wp alone (resolveDeviceSession sessionRows id s secret r.now >>= _) _ _ _ w
  rcases resolve_shape id s secret r.now with ⟨rejected,m,hm,heq⟩ | ⟨hactive,heq⟩
  · rw [heq,bind_assoc]
    exact still_wp (hm.bind fun _ => (hrejection rejected).bind hrest) hrow
  · rw [heq]
    have hlater (x : DeviceSession × Option Id) : Changes KeepsSecrets (do
        let auth ← (do
          let s ← authorizeRequest r id x.1
          pure ⟨id,s,x.2⟩ : Op Authenticated)
        respond (.authenticated auth.sessionId auth.cookie) : Op Unit) :=
      ((changes_authorize keepsSecrets_mild r id x.1).bind fun _ => changes_pure _).bind hrest
    show wp alone ((rotateWhenDue _ r.now >>= fun x => _) >>= _) _ _ _ w
    rw [bind_assoc,rotateWhenDue]
    split
    · rename_i hdue
      have hcurrent : s.secretHash = hashSessionSecret secret := by simpa using hdue.1
      rw [← hcurrent]
      exact rotate_wp hlater hrow hactive
    · exact still_wp (hlater (s,none)) hrow

theorem reauthenticate_wp {r : Reauthentication} (hcookie : r.cookie = some (id,secret))
    (hrow : w.db (.deviceSession id) = some s) :
    wp alone (completeRecentAuthentication r) (fun _ _ w' => Turned id s r.now w.next w')
      (fun _ _ w' => Turned id s r.now w.next w') Pending.empty w := by
  rw [completeRecentAuthentication]
  split
  · exact still_wp (changes_record _) hrow
  split
  · exact still_wp (changes_record _) hrow
  rw [hcookie,resolveUserSessionCredential,bind_assoc,wp_monad_bind]
  refine (alone_select _).mpr ?_
  have hview : Pending.empty.view w.db (.deviceSession id) = some s := hrow
  rw [hview]
  change wp alone (resolveDeviceSession sessionRows id s secret r.now >>= _) _ _ _ w
  rcases resolve_shape id s secret r.now with ⟨rejected,m,hm,heq⟩ | ⟨hactive,heq⟩
  · rw [heq,bind_assoc]
    exact still_wp (hm.bind fun _ => changes_record _) hrow
  · rw [heq]
    show wp alone (if r.requestedSessionId ≠ some id then _ else _) _ _ _ w
    split
    · exact still_wp (changes_record _) hrow
    split
    · exact still_wp (changes_record _) hrow
    refine rotating_wp (fun x => ?_) hrow (by simp [hactive]) fun x => rfl
    rw [if_pos rfl]
    exact (changes_replace keepsSecrets_mild _ _ _).bind fun _ => changes_record _

theorem request_turns (o : RotationRequest) (hcookie : o.cookie = some (id,secret))
    (hrow : w.db (.deviceSession id) = some s) (clock : ℕ → Time) :
    Turned id s o.now w.next (perform clock o.program w).2 := by
  refine perform_inv clock o.program ?_
  cases o with
  | request r => exact authenticate_wp hcookie hrow
  | recentAuthentication r => exact reauthenticate_wp hcookie hrow

-- The secrets of a session after a request: one more where the current digest has changed.
def Issued (id : Id) (now : Time) (w w' : World) (issued issued' : List (Id × Time)) : Prop :=
  ∃ s s' : DeviceSession, w.db (.deviceSession id) = some s ∧ w'.db (.deviceSession id) = some s' ∧
    ((s'.secretHash = s.secretHash ∧ issued' = issued) ∨ (s'.secretHash ≠ s.secretHash ∧
      ∃ x, s'.secretHash = hashSessionSecret x ∧ issued' = (x,now) :: issued))

-- The secrets that a session has had, newest first, each with the time it became current.
inductive SecretHistory (id : Id) : List (Id × Time) → Time → World → Prop
  | opened (c : SessionCreation) (secret : Id) (w : World)
      (hrow : w.db (.deviceSession id) = some (newDeviceSession c (hashSessionSecret secret)))
      (hdrawn : secret < w.next) : SecretHistory id [(secret,c.now)] c.now w
  | request {issued issued' : List (Id × Time)} {t : Time} {w : World} (o : RotationRequest)
      (secret : Id) (clock : ℕ → Time) (h : SecretHistory id issued t w)
      (hcookie : o.cookie = some (id,secret)) (ht : t ≤ o.now)
      (hissued : Issued id o.now w (perform clock o.program w).2 issued issued') :
      SecretHistory id issued' o.now (perform clock o.program w).2
  | elsewhere {issued : List (Id × Time)} {t : Time} {w w' : World} (h : SecretHistory id issued t w)
      (hrow : w'.db (.deviceSession id) = w.db (.deviceSession id)) (hnext : w.next ≤ w'.next) :
      SecretHistory id issued t w'

def partOf (current : Id) (rotatedAt : Time) : List (Id × Time) → SecretPart
  | [] => (hashSessionSecret current,none,none,rotatedAt)
  | (previous,_) :: _ => (hashSessionSecret current,some (hashSessionSecret previous),
      some (rotatedAt + previousSecretValidity),rotatedAt)

structure Agrees (issued : List (Id × Time)) (s : DeviceSession) (next : ℕ) : Prop where
  part : ∃ current rotatedAt older, issued = (current,rotatedAt) :: older ∧
    s.secretPart = partOf current rotatedAt older
  drawn : ∀ e ∈ issued, e.1 < next
  nodup : (issued.map Prod.fst).Nodup

theorem Agrees.turn {issued issued' : List (Id × Time)} {next : ℕ} {s s' : DeviceSession} {w' : World}
    (h : Agrees issued s next) (hnext : next ≤ w'.next)
    (hturn : s'.secretPart = s.secretPart ∨
      ∃ x, next ≤ x ∧ x < w'.next ∧ s'.secretPart = rotatedPart s now x)
    (hissued : (s'.secretHash = s.secretHash ∧ issued' = issued) ∨ (s'.secretHash ≠ s.secretHash ∧
      ∃ x, s'.secretHash = hashSessionSecret x ∧ issued' = (x,now) :: issued)) :
    Agrees issued' s' w'.next := by
  obtain ⟨current,rotatedAt,older,rfl,hpart⟩ := h.part
  have hcurrent : s.secretHash = hashSessionSecret current := by
    have h₁ := congrArg Prod.fst hpart
    cases older <;> exact h₁
  have hdrawn := h.drawn (current,rotatedAt) List.mem_cons_self
  rcases hturn with hsame | ⟨x,hx,hxw,hrotated⟩
  · have hhash : s'.secretHash = s.secretHash := congrArg Prod.fst hsame
    rcases hissued with ⟨_,rfl⟩ | ⟨hne,_⟩
    · exact ⟨⟨current,rotatedAt,older,rfl,hsame.trans hpart⟩,
        fun e he => Nat.lt_of_lt_of_le (h.drawn e he) hnext,h.nodup⟩
    · exact (hne hhash).elim
  · have hhash : s'.secretHash = hashSessionSecret x := congrArg Prod.fst hrotated
    rcases hissued with ⟨heq,_⟩ | ⟨_,y,hy,rfl⟩
    · rw [hhash,hcurrent] at heq
      have hsame : x = current := SecretHash.injective heq
      have hfresh : x < next := hsame ▸ hdrawn
      exact (Nat.not_lt.mpr hx hfresh).elim
    · obtain rfl := SecretHash.injective (hhash.symm.trans hy)
      refine ⟨⟨x,now,_,rfl,?_⟩,fun e he => ?_,?_⟩
      · rw [hrotated,rotatedPart,hcurrent,partOf]
      · rcases List.mem_cons.mp he with rfl | he
        · exact hxw
        · exact Nat.lt_of_lt_of_le (h.drawn e he) hnext
      · rw [List.map_cons,List.nodup_cons]
        refine ⟨fun hmem => ?_,h.nodup⟩
        obtain ⟨e,he,hsame⟩ := List.mem_map.mp hmem
        have hsame : e.1 = x := hsame
        have hfresh := h.drawn e he
        rw [hsame] at hfresh
        exact Nat.not_lt.mpr hx hfresh

theorem history_agrees {issued : List (Id × Time)} {t : Time} (h : SecretHistory id issued t w) :
    ∃ s : DeviceSession, w.db (.deviceSession id) = some s ∧ Agrees issued s w.next := by
  induction h with
  | opened c secret w hrow hdrawn =>
    refine ⟨_,hrow,⟨secret,c.now,[],rfl,rfl⟩,?_,by simp⟩
    simpa using hdrawn
  | request o secret clock _ hcookie _ hissued ih =>
    obtain ⟨s,hrow,hagrees⟩ := ih
    obtain ⟨hnext,s',hrow',hturn⟩ := request_turns o hcookie hrow clock
    obtain ⟨_,_,hs,hs',hissued⟩ := hissued
    rw [hrow] at hs
    rw [hrow'] at hs'
    cases hs
    cases hs'
    exact ⟨s',hrow',hagrees.turn hnext hturn hissued⟩
  | elsewhere _ hrow hnext ih =>
    obtain ⟨s,hs,hagrees⟩ := ih
    exact ⟨s,hrow.trans hs,hagrees.part,fun e he => Nat.lt_of_lt_of_le (hagrees.drawn e he) hnext,
      hagrees.nodup⟩

def Accepted (r : Except Response (Except Rejected Resolved)) : Prop := ∃ resolved, r = .ok (.ok resolved)

def Refused (r : Except Response (Except Rejected Resolved)) : Prop := ∃ rejected, r = .ok (.error rejected)

omit [SecretHash] in
theorem Accepted.not_refused {r : Except Response (Except Rejected Resolved)} (h : Accepted r) :
    ¬ Refused r := by
  obtain ⟨resolved,rfl⟩ := h
  rintro ⟨rejected,hr⟩
  cases hr

-- The presented secret is the one that the current one replaced.
def Preceding (older : List (Id × Time)) (secret : Id) : Prop := older.head?.map Prod.fst = some secret

omit [SecretHash] in
theorem perform_revoke (hrow : w.db (.deviceSession id) = some s) (hactive : s.status = .active)
    (clock : ℕ → Time) :
    let r := perform clock (do
      Rows.flush (.deviceSession id) s (s.revoke now)
      recordAndReject sessionRows "suspected_replay" : Op (Except Rejected Resolved)) w
    Refused r.1 ∧ r.2.db (.deviceSession id) = some (s.revoke now) := by
  have hne : (some s : Row (.deviceSession id)) ≠ some (s.revoke now) := by
    intro h
    have hstatus := congrArg DeviceSession.status (Option.some.inj h)
    rw [hactive] at hstatus
    cases hstatus
  have hview : (Pending.empty : Pending Row).view w.db (.deviceSession id) = some s := hrow
  have hmerge : Schema.merge (V := Row) (Key.deviceSession id) (some s) (some (s.revoke now)) (some s) =
      some (s.revoke now) := Schema.merge_loaded _ _ _
  have hperform : perform clock (do
      Rows.flush (.deviceSession id) s (s.revoke now)
      recordAndReject sessionRows "suspected_replay" : Op (Except Rejected Resolved)) w =
      (.ok (.error ⟨"suspected_replay",true⟩),
        ⟨((Pending.empty : Pending Row).put (Key.deviceSession id) (some s) (some (s.revoke now))).view w.db,
          w.next⟩) := by
    refine perform_eq clock _ ((alone_flush _ _ _ _).mpr ⟨fun h => (hne h).elim,fun _ => ?_⟩)
    rw [hview,hmerge]
    exact (alone_commit _).mpr ⟨rfl,rfl⟩
  dsimp only
  rw [hperform]
  exact ⟨⟨_,rfl⟩,Pending.view_put_self _ _ _ _ _⟩

-- The lookup by what the row has of the presented secret.
theorem perform_resolve (secret : Id) (hrow : w.db (.deviceSession id) = some s)
    (hactive : s.status = .active) (hidle : now < s.idleExpiresAt) (clock : ℕ → Time) :
    let r := perform clock (resolveUserSessionCredential sessionRows (some (id,secret)) now) w
    (s.previousSecretHash = some (hashSessionSecret secret) → s.graceOver now = true →
      Refused r.1 ∧ r.2.db (.deviceSession id) = some (s.revoke now)) ∧
    (s.secretHash ≠ hashSessionSecret secret → s.previousSecretHash ≠ some (hashSessionSecret secret) →
      Refused r.1 ∧ r.2 = w) ∧
    (s.previousSecretHash = some (hashSessionSecret secret) → s.graceOver now = false → Accepted r.1) ∧
    (s.secretHash = hashSessionSecret secret → s.previousSecretHash ≠ some (hashSessionSecret secret) →
      Accepted r.1) := by
  have hresolve : perform clock (resolveUserSessionCredential sessionRows (some (id,secret)) now) w =
      perform clock (resolveDeviceSession sessionRows id s secret now) w := by
    show perform clock (resolveFound sessionRows id secret now (w.db (.deviceSession id))) w = _
    rw [hrow]
    rfl
  have hrevoked : s.status ≠ .revoked := by
    rw [hactive]
    decide
  dsimp only
  rw [hresolve,resolveDeviceSession,if_neg hrevoked,if_neg (not_not.mpr hactive),
    if_neg (Int.not_le.mpr hidle)]
  refine ⟨fun hprevious hover => ?_,fun hcurrent hprevious => ?_,fun hprevious hover => ?_,
    fun hcurrent hprevious => ?_⟩
  · rw [if_pos (by simp [hprevious,hover])]
    exact perform_revoke hrow hactive clock
  · rw [if_neg (by simp [hprevious]),if_pos (by simp [hcurrent,hprevious])]
    exact ⟨⟨_,rfl⟩,rfl⟩
  · rw [if_neg (by simp [hover]),if_neg (by simp [hprevious])]
    exact ⟨_,rfl⟩
  · rw [if_neg (by simp [hprevious]),if_neg (by simp [hcurrent])]
    exact ⟨_,rfl⟩

theorem partOf_current {current : Id} {rotatedAt : Time} {older : List (Id × Time)}
    (h : s.secretPart = partOf current rotatedAt older) : s.secretHash = hashSessionSecret current := by
  have hfirst := congrArg Prod.fst h
  cases older <;> exact hfirst

theorem partOf_previous (secret : Id) {current : Id} {rotatedAt : Time} {older : List (Id × Time)}
    (h : s.secretPart = partOf current rotatedAt older) :
    s.previousSecretHash = some (hashSessionSecret secret) ↔ Preceding older secret := by
  have hprevious : s.previousSecretHash = (partOf current rotatedAt older).2.1 :=
    congrArg (fun a => a.2.1) h
  rw [hprevious]
  cases older with
  | nil => simp [partOf,Preceding]
  | cons e older => simp [partOf,Preceding,SecretHash.injective.eq_iff]

theorem partOf_grace (now : Time) {current : Id} {rotatedAt : Time} {older : List (Id × Time)}
    (h : s.secretPart = partOf current rotatedAt older) (hold : Preceding older secret) :
    s.graceOver now = decide (rotatedAt + previousSecretValidity < now) := by
  have hvalid : s.previousSecretValidUntil = (partOf current rotatedAt older).2.2.1 :=
    congrArg (fun a => a.2.2.1) h
  rw [DeviceSession.graceOver,hvalid]
  cases older with
  | nil => cases hold
  | cons e older => rfl

theorem secrets_that_work {issued : List (Id × Time)} {t : Time} (h : SecretHistory id issued t w)
    (hrow : w.db (.deviceSession id) = some s) (hactive : s.status = .active)
    (hidle : now < s.idleExpiresAt) (secret : Id) (clock : ℕ → Time) :
    let r := perform clock (resolveUserSessionCredential sessionRows (some (id,secret)) now) w
    ∃ current rotatedAt older, issued = (current,rotatedAt) :: older ∧ (issued.map Prod.fst).Nodup ∧
      (Accepted r.1 ↔ secret = current ∨
        Preceding older secret ∧ now ≤ rotatedAt + previousSecretValidity) ∧
      (Preceding older secret → rotatedAt + previousSecretValidity < now →
        Refused r.1 ∧ r.2.db (.deviceSession id) = some (s.revoke now)) ∧
      (secret ≠ current → ¬ Preceding older secret → Refused r.1 ∧ r.2 = w) := by
  obtain ⟨s',hs',hagrees⟩ := history_agrees h
  obtain rfl : s = s' := Option.some.inj (hrow.symm.trans hs')
  obtain ⟨current,rotatedAt,older,rfl,hpart⟩ := hagrees.part
  have hcurrent := partOf_current hpart
  have hprevious := partOf_previous secret hpart
  have hgrace := fun hold : Preceding older secret => partOf_grace now hpart hold
  have hdistinct : Preceding older secret → secret ≠ current := by
    rintro hold rfl
    obtain ⟨e,he,hsame⟩ := Option.map_eq_some_iff.mp hold
    have hnodup := (List.nodup_cons.mp hagrees.nodup).1
    exact hnodup (List.mem_map.mpr ⟨e,List.mem_of_mem_head? he,hsame⟩)
  obtain ⟨hover,hunknown,hwithin,hvalid⟩ :=
    perform_resolve secret hrow hactive hidle clock
  have hhash : s.secretHash = hashSessionSecret secret ↔ secret = current := by
    rw [hcurrent,SecretHash.injective.eq_iff]
    exact eq_comm
  refine ⟨current,rotatedAt,older,rfl,hagrees.nodup,⟨fun haccepted => ?_,?_⟩,fun hold hlate => ?_,
    fun hne hold => ?_⟩
  · by_contra hnot
    rw [not_or,not_and] at hnot
    obtain ⟨hne,hlate⟩ := hnot
    by_cases hold : Preceding older secret
    · have hlate : rotatedAt + previousSecretValidity < now := Int.not_le.mp (hlate hold)
      exact haccepted.not_refused (hover (hprevious.mpr hold) (by rw [hgrace hold]; simpa using hlate)).1
    · exact haccepted.not_refused
        (hunknown (fun h => hne (hhash.mp h)) fun h => hold (hprevious.mp h)).1
  · rintro (hsame | ⟨hold,hearly⟩)
    · exact hvalid (hhash.mpr hsame) fun h => hdistinct (hprevious.mp h) hsame
    · exact hwithin (hprevious.mpr hold) (by rw [hgrace hold]; simpa using hearly)
  · exact hover (hprevious.mpr hold) (by rw [hgrace hold]; simpa using hlate)
  · exact hunknown (fun h => hne (hhash.mp h)) fun h => hold (hprevious.mp h)

end rotations

def openedSession : DeviceSession :=
  let _ := plainSecretHash
  newDeviceSession ⟨1,0,none,0⟩ 5

def openedWorld : World where
  db
    | .deviceSession id => if id = 2 then some openedSession else none
    | .continuation _ => none
  next := 6

def rotatedSession : DeviceSession := (openedSession.rotate 6 5 userSessionRotation).renew userSessionRotation

theorem preceding_secret_works :
    let _ := plainSecretHash
    let w := (perform (fun _ => 0) (authenticate (sampleRequest userSessionRotation)) openedWorld).2
    SecretHistory 2 [(6,userSessionRotation),(5,0)] userSessionRotation w ∧
      Accepted (perform (fun _ => 0)
        (resolveUserSessionCredential sessionRows (some (2,5)) (userSessionRotation + 1)) w).1 := by
  let _ := plainSecretHash
  have hrow : (perform (fun _ => 0) (authenticate (sampleRequest userSessionRotation)) openedWorld).2.db
      (.deviceSession 2) = some rotatedSession := by decide +kernel
  have hopened : SecretHistory 2 [(5,0)] 0 openedWorld := .opened ⟨1,0,none,0⟩ 5 openedWorld rfl (by decide)
  have hhistory := SecretHistory.request (.request (sampleRequest userSessionRotation)) 5 (fun _ => 0)
    hopened rfl (by decide)
    ⟨openedSession,rotatedSession,rfl,hrow,Or.inr ⟨by decide,6,rfl,rfl⟩⟩
  have hidle : userSessionRotation + 1 < rotatedSession.idleExpiresAt := by decide
  obtain ⟨current,rotatedAt,older,heq,_,haccepted,_⟩ :=
    secrets_that_work hhistory hrow rfl hidle 5 fun _ => 0
  cases heq
  exact ⟨hhistory,haccepted.mpr (Or.inr ⟨rfl,by decide⟩)⟩

end AiScdc.DeviceSessions
