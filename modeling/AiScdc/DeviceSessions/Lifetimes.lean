import AiScdc.DeviceSessions.Footprints

namespace AiScdc.DeviceSessions
open Transaction

def Dead (row : Option DeviceSession) : Prop := ∃ s, row = some s ∧ s.status ≠ .active

def KeepsDead : ∀ k : Key, Row k → Row k → Prop
  | .deviceSession _, v, u => Dead v → Dead u
  | .continuation _, _, _ => True

theorem KeepsDead.trans {k : Key} {v u z : Row k} (h : KeepsDead k v u) (h' : KeepsDead k u z) :
    KeepsDead k v z := by
  cases k with
  | deviceSession id => exact h' ∘ h
  | continuation id => trivial

theorem keepsDead_rotates : Rotates KeepsDead where
  ending := by
    rintro id l n hn _ v ⟨s,rfl,hs⟩
    refine ⟨DeviceSession.flush l n s,rfl,?_⟩
    show pick l.status n.status s.status ≠ .active
    unfold pick
    split
    · exact hs
    · exact hn
  revoking := by
    rintro id g now hg v hv ⟨s,rfl,hs⟩
    exact (hs (hg s hv)).elim
  renewing := by
    rintro id g now hg v hv ⟨s,rfl,hs⟩
    exact (hs (hg s hv)).elim
  continuation _ _ := trivial
  rotating := by
    rintro id g f hg v hv ⟨s,rfl,hs⟩
    exact (hs (hg s hv)).elim
  opening s := by
    rintro ⟨_,h,_⟩
    cases h

-- The lookup of a request reads a dead row and refuses, having at most an audit event to commit.
theorem dead_refused [SecretHash] (id secret : Id) (now : Time) {s : DeviceSession} (hs : s.status ≠ .active) :
    ∃ rejected, resolveDeviceSession sessionRows id s secret now = pure (.error rejected) ∨
      resolveDeviceSession sessionRows id s secret now = (commit >>= fun _ => pure (.error rejected)) := by
  unfold resolveDeviceSession
  by_cases hr : s.status = .revoked
  · rw [if_pos hr]
    split
    · exact ⟨_,Or.inl rfl⟩
    · exact ⟨_,Or.inr rfl⟩
  · rw [if_neg hr,if_pos hs]
    exact ⟨_,Or.inl rfl⟩

section executions

variable {ι : Type} [DecidableEq ι] [Fintype ι] [SecretHash] {ops : ι → SessionOp} {w : World}
  {tr : List (Commit ι Row)} {g : Global ι Row Time Response}

theorem commits_keep_dead
    (h : Execution (fun _ _ => True) (Global.init w fun i => (ops i).program) tr g) (id : Id) :
    ∀ c ∈ tr, Dead (c.before (.deviceSession id)) → Dead (c.after (.deviceSession id)) := by
  intro c hc hdead
  have hrows := h.rowWise (fun i => (changes_program keepsDead_rotates (ops i) () trivial).mono
    (fun _ _ _ => trivial) fun _ _ _ => trivial) (fun _ => rowCourse_rules KeepsDead.trans)
    (fun _ _ _ _ _ _ _ _ => trivial) c hc
  show Dead (c.pend.view c.before (.deviceSession id))
  cases hp : c.pend (.deviceSession id) with
  | none =>
    rw [Pending.view_of_none hp]
    exact hdead
  | some wr =>
    rw [Pending.view_of_some hp]
    exact hrows (.deviceSession id) wr hp hdead

theorem device_sessions_die_once
    (h : Execution (fun _ _ => True) (Global.init w fun i => (ops i).program) tr g) {id : Id}
    {tr₁ tr₂ : List (Commit ι Row)} (heq : tr = tr₁ ++ tr₂) {db : Db} (hdb : chained w.db tr₁ db)
    (hdead : Dead (db (.deviceSession id))) :
    (∀ c ∈ tr₂, Dead (c.after (.deviceSession id))) ∧
      ∀ (i : ι) (secret : Id) (now t : Time) (k : Except Rejected Resolved → Op Unit)
        (g' : Global ι Row Time Response),
        (g.thread i).prog = resolveUserSessionCredential sessionRows (some (id,secret)) now >>= k →
        (g.thread i).pend (.deviceSession id) = none → g.step i t = some g' →
        ∃ rejected, (g'.thread i).prog = k (.error rejected) ∨
          (g'.thread i).prog = (commit >>= fun _ => k (.error rejected)) := by
  have hkeep := commits_keep_dead h id
  have hchain : chained w.db tr g.world.db := h.chained
  rw [heq,chained_append] at hchain
  obtain ⟨db',hdb',hrest⟩ := hchain
  obtain rfl := chained_unique hdb' hdb
  constructor
  · intro c hc
    obtain ⟨before,rest,rfl⟩ := List.append_of_mem hc
    obtain ⟨m,hm,rfl,_⟩ := chained_append.mp hrest
    have hbefore : Dead (c.before (.deviceSession id)) :=
      chained_kept (I := fun db => Dead (db (.deviceSession id))) (fun d hd => hkeep d (by simp [heq,hd])) hm hdead
    exact hkeep c (by simp [heq]) hbefore
  · intro i secret now t k g' hprog hpend hstep
    obtain ⟨s,hs,hstatus⟩ : Dead (g.world.db (.deviceSession id)) :=
      chained_kept (I := fun db => Dead (db (.deviceSession id))) (fun d hd => hkeep d (by simp [heq,hd]))
        hrest hdead
    have hrow : (g.thread i).pend.view g.world.db (.deviceSession id) = some s := by
      rw [Pending.view_of_none hpend,hs]
    obtain ⟨rejected,hr⟩ := dead_refused id secret now hstatus
    have hselect : (g.thread i).prog = .select fun db _ =>
        resolveFound sessionRows id secret now (db (.deviceSession id)) >>= k := hprog
    have hnext : (g'.thread i).prog = resolveDeviceSession sessionRows id s secret now >>= k := by
      simp only [Global.step,hselect,Option.some.injEq] at hstep
      subst hstep
      simp [Global.advance,hrow,resolveFound]
    rcases hr with hr | hr
    · exact ⟨rejected,Or.inl (by rw [hnext,hr]; rfl)⟩
    · exact ⟨rejected,Or.inr (by rw [hnext,hr]; rfl)⟩

end executions

abbrev plainSecretHash : SecretHash := ⟨fun n => n,fun _ _ h => h⟩

def sampleSession : DeviceSession := ⟨1,5,none,none,0,none,.active,userSessionIdle,0,0,none⟩

def sampleWorld : World where
  db
    | .deviceSession id => if id = 2 then some sampleSession else none
    | .continuation _ => none
  next := 6

def sampleRequest (now : Time) : Request := ⟨some (2,5),now,true,true,false,none,now⟩

def signOutThenRequest : Bool → SessionOp
  | false => .signOut (sampleRequest 1) 1 false
  | true => .authenticate (sampleRequest 2)

def statusesOver (tr : List (Commit Bool Row)) : List (Option SessionStatus) :=
  tr.map fun c => (c.after (.deviceSession 2)).map fun s : DeviceSession => s.status

theorem signed_out_session_refused :
    let _ := plainSecretHash
    ∃ tr g, Execution (fun _ _ => True)
        (Global.init sampleWorld fun i => (signOutThenRequest i).program) tr g ∧
      Dead (g.world.db (.deviceSession 2)) ∧ ∃ g', g.step true 2 = some g' ∧
        ∃ (rejected : Rejected) (k : Except Rejected Resolved → Op Unit),
          (g'.thread true).prog = k (.error rejected) ∨
            (g'.thread true).prog = (commit >>= fun _ => k (.error rejected)) := by
  let _ := plainSecretHash
  have hplay : (((Global.init sampleWorld fun i => (signOutThenRequest i).program).play
      (fun _ _ => true) (List.replicate 4 (false,1))).map fun r => statusesOver r.1) =
      some [some .revoked] := by decide +kernel
  obtain ⟨⟨tr,g⟩,hp,hstatuses⟩ := Option.map_eq_some_iff.mp hplay
  have hrun := (Global.play_run (.refl) _ hp).execution.weaken fun _ _ _ => trivial
  rw [List.nil_append] at hrun
  have hthread : g.thread true = ⟨(signOutThenRequest true).program,Pending.empty,false⟩ :=
    Global.play_thread _ (by simp) hp
  obtain ⟨c,rfl⟩ : ∃ c, tr = [c] := by
    have hlen : tr.length = 1 := by simpa [statusesOver] using congrArg List.length hstatuses
    exact List.length_eq_one_iff.mp hlen
  have hdead : Dead (g.world.db (.deviceSession 2)) := by
    obtain ⟨_,hend⟩ := hrun.chained
    have hend : g.world.db = c.after := hend
    simp only [statusesOver,List.map_cons,List.cons.injEq,Option.map_eq_some_iff] at hstatuses
    obtain ⟨⟨s,hs,hstatus⟩,_⟩ := hstatuses
    exact ⟨s,by rw [hend,hs],by rw [hstatus]; decide⟩
  have hprog : (g.thread true).prog = resolveUserSessionCredential sessionRows (some (2,5)) 2 >>= fun resolved =>
      admitRequest (sampleRequest 2) resolved >>= fun auth =>
        respond (.authenticated auth.sessionId auth.cookie) := by
    rw [hthread]
    exact bind_assoc _ _ _
  have hpend : (g.thread true).pend (.deviceSession 2) = none := by rw [hthread]; rfl
  obtain ⟨g',hstep⟩ : ∃ g', g.step true 2 = some g' := by
    simp only [Global.step,hprog]
    exact ⟨_,rfl⟩
  obtain ⟨rejected,h⟩ := (device_sessions_die_once hrun (List.append_nil _).symm hrun.chained hdead).2
    true 5 2 2 _ g' hprog hpend hstep
  exact ⟨_,g,hrun,hdead,g',hstep,rejected,fun resolved => admitRequest (sampleRequest 2) resolved >>=
    fun auth => respond (.authenticated auth.sessionId auth.cookie),h⟩

end AiScdc.DeviceSessions
