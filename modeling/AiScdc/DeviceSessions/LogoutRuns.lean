import AiScdc.DeviceSessions.Lifetimes
import AiScdc.DeviceSessions.Logouts

namespace AiScdc.DeviceSessions
open Transaction

section steps

variable {ι : Type} [SecretHash] [DecidableEq ι] {now : ι → Time} {tr : List (Commit ι Row)}
  {ph : ι → LogoutPhase} {pd : ι → Pending Row} {w : World} {i : ι} {y : LogoutPhase}

-- A step into a phase that holds no secret and has accepted and answered nothing.
theorem Logouts.plain (h : Logouts now tr ph pd w) {p : Pending Row} {n : ℕ} (hn : w.next ≤ n)
    (hfact : LogoutFact (now i) y p ⟨w.db,n⟩) (hissued : (ph i).issued = none) (hsecret : y.secret = none)
    (haccepted : y.accepted = none) (hanswered : y.answered = none) :
    Logouts now tr (Function.update ph i y) (Function.update pd i p) ⟨w.db,n⟩ :=
  h.turn hn hfact (fun _ hy => by cases hsecret.symm.trans hy) (fun _ hx => by cases hissued.symm.trans hx)
    (fun _ _ hy => by cases haccepted.symm.trans hy) fun _ hy => by cases hanswered.symm.trans hy

theorem logouts_learn (h : Logouts now tr ph pd w)
    (hlearn : (logoutCourse (now i)).learn (ph i) ((pd i).view w.db) w.next y) :
    Logouts now tr (Function.update ph i y) pd w := by
  have hfact := h.facts i
  cases hph : ph i with
  | outside =>
    rw [hph] at hlearn hfact
    have hview (id : Id) : (pd i).view w.db (.continuation id) = w.db (.continuation id) :=
      Pending.view_of_none (hfact.quiet_unwritten trivial id) w.db
    rcases hlearn with ⟨id,c,rfl,hc,hstatus⟩ | ⟨id,s,c,rfl,hc,haccepts⟩
    · have hpristine := (h.view_lawful i id c hc).unused hstatus
      have hchosen : LogoutFact (now i) (.chosen id c) (pd i) ⟨w.db,w.next⟩ :=
        hfact.phase trivial (fun _ hy => by cases hy) (fun _ _ hy => by cases hy) rfl
          (fun _ hy => by cases hy; exact hpristine) fun _ _ hy => by cases hy
      have hturn := h.plain (le_refl w.next) hchosen (by rw [hph]; rfl) rfl rfl rfl
      rwa [Function.update_eq_self] at hturn
    · have hturn := h.turn (i := i) (le_refl w.next) (hfact.phase (y := .continuing id s) trivial (fun _ hy => by cases hy)
        (fun _ _ hy => by cases hy) rfl (fun _ hy => by cases hy) fun _ _ hy => by cases hy)
        (fun _ hy => by cases hy) (fun _ hx => by rw [hph] at hx; cases hx) (fun id' s' hy => ?_)
        fun _ hy => by cases hy
      · rwa [Function.update_eq_self] at hturn
      cases hy
      simp only [continuationAccepts,Bool.and_eq_true,decide_eq_true_eq] at haccepts
      rw [hview] at hc
      obtain ⟨d,⟨pre,post,rfl,hd,_⟩,hdate⟩ := h.dated id c _ hc haccepts.2
      refine Or.inr ⟨d,by simp,hd,?_⟩
      have htime := haccepts.1.2
      rw [hdate,Option.any_some,decide_eq_true_eq] at htime
      exact htime
  | locked sessionId =>
    rw [hph] at hlearn hfact
    obtain ⟨rest,rfl,hlists⟩ := hlearn
    have hreplacing : LogoutFact (now i) (.replacing sessionId rest) (pd i) ⟨w.db,w.next⟩ := by
      refine hfact.phase trivial (fun _ hy => hy) (fun sessionId' id hy hopen => ?_) rfl
        (fun _ hy => by cases hy) fun _ _ hy => by cases hy
      cases hy
      refine hlists id (h.view_numbered i id ?_) hopen
      obtain ⟨c,hc,_⟩ := hopen
      rw [hc]
      exact Option.some_ne_none _
    have hturn := h.plain (le_refl w.next) hreplacing (by rw [hph]; rfl) rfl rfl rfl
    rwa [Function.update_eq_self] at hturn
  | _ =>
    rw [hph] at hlearn
    exact hlearn.elim

theorem logouts_number (h : Logouts now tr ph pd w)
    (hnumber : (logoutCourse (now i)).number (ph i) w.next y) :
    Logouts now tr (Function.update ph i y) pd w.bump := by
  have hfact := h.facts i
  have hlt : w.next < w.next + 1 := Nat.lt_succ_self _
  cases hph : ph i with
  | replacing sessionId rest =>
    cases rest with
    | cons =>
      rw [hph] at hnumber
      exact hnumber.elim
    | nil =>
      rw [hph] at hnumber hfact
      obtain rfl : y = .numbered sessionId w.next := hnumber
      have hnumbered : LogoutFact (now i) (.numbered sessionId w.next) (pd i) w.bump := {
        rows := fun id wr hwr => (hfact.rows id wr hwr).mono (fun _ _ ht => ht) (fun hf => hf) fun _ hx => by cases hx
        lock := hfact.lock
        clear := fun sessionId' id hy hopen => by
          have hrest := hfact.clear sessionId' id hy hopen
          cases hrest
        drawn := fun id hy => by
          cases hy
          exact hlt
        loaded := fun _ hy => by cases hy
        written := fun _ _ hy => by cases hy }
      have hturn := h.plain (Nat.le_succ _) hnumbered (by rw [hph]; rfl) rfl rfl rfl
      rwa [Function.update_eq_self] at hturn
  | chosen id c =>
    rw [hph] at hnumber hfact
    obtain rfl : y = .preparing id c w.next := hnumber
    have hpreparing : LogoutFact (now i) (.preparing id c w.next) (pd i) w.bump :=
      hfact.phase trivial (fun _ hy => by cases hy) (fun _ _ hy => by cases hy) rfl
        (fun c' hc => hfact.loaded c' hc) fun _ _ hy => by cases hy
    have hturn := h.turn (i := i) (Nat.le_succ _) hpreparing
      (fun s hs => Or.inr (by cases hs; exact ⟨le_refl _,hlt⟩)) (fun _ hx => by rw [hph] at hx; cases hx)
      (fun _ _ hy => by cases hy) fun _ hy => by cases hy
    rwa [Function.update_eq_self] at hturn
  | _ =>
    rw [hph] at hnumber
    exact hnumber.elim

-- A call that stops or rolls back loses what it has not committed.
theorem Logouts.drop (h : Logouts now tr ph pd w) :
    Logouts now tr (Function.update ph i (ph i).resting) (Function.update pd i Pending.empty) w := by
  have hresting : LogoutFact (now i) (ph i).resting Pending.empty w := by
    cases ph i <;> exact .empty rfl rfl rfl (fun _ hc => by cases hc) fun _ _ hx => by cases hx
  refine h.turn (le_refl _) hresting (fun s hs => Or.inl ?_) (fun e he => ?_) (fun id s hs => ?_) fun e he => ?_
  · cases hph : ph i <;> rw [hph] at hs <;> first | exact hs | cases hs
  · cases hph : ph i with
    | left id s =>
      rw [hph] at he
      exact he
    | _ =>
      rw [hph] at he
      cases he
  · cases hph : ph i <;> rw [hph] at hs <;> cases hs
  · cases hph : ph i with
    | redirected id s =>
      rw [hph] at he
      exact he
    | _ =>
      rw [hph] at he
      cases he

theorem logouts_rollback (h : Logouts now tr ph pd w) (hroll : (logoutCourse (now i)).rollback (ph i) y) :
    Logouts now tr (Function.update ph i y) (Function.update pd i Pending.empty) w := by
  have hdrop := h.drop (i := i)
  cases hph : ph i with
  | outside | continuing =>
    rw [hph] at hroll hdrop
    obtain rfl : y = .outside := hroll
    exact hdrop
  | _ =>
    rw [hph] at hroll
    exact hroll.elim

theorem logouts_miss (h : Logouts now tr ph pd w) {k : Key} {g : Row k → Bool}
    (hmiss : (logoutCourse (now i)).miss (ph i) k g y) (hg : g ((pd i).view w.db k) = false) :
    Logouts now tr (Function.update ph i y) pd w := by
  have hfact := h.facts i
  cases hph : ph i with
  | replacing sessionId rest =>
    cases rest with
    | nil =>
      rw [hph] at hmiss
      exact hmiss.elim
    | cons id rest =>
      rw [hph] at hmiss hfact
      obtain ⟨rfl,rfl,hspares⟩ := hmiss
      have hreplacing : LogoutFact (now i) (.replacing sessionId rest) (pd i) ⟨w.db,w.next⟩ := {
        rows := fun id wr hwr => (hfact.rows id wr hwr).mono (fun _ _ ht => ht) (fun hf => hf) fun _ hx => by cases hx
        lock := hfact.lock
        clear := fun sessionId' id' hy hopen => by
          cases hy
          rcases List.mem_cons.mp (hfact.clear sessionId id' rfl hopen) with rfl | hmem
          · exact (hspares _ hg hopen).elim
          · exact hmem
        drawn := fun _ hy => by cases hy
        loaded := fun _ hy => by cases hy
        written := fun _ _ hy => by cases hy }
      have hturn := h.plain (le_refl w.next) hreplacing (by rw [hph]; rfl) rfl rfl rfl
      rwa [Function.update_eq_self] at hturn
  | _ =>
    rw [hph] at hmiss
    exact hmiss.elim

theorem logouts_update (h : Logouts now tr ph pd w) {k : Key} {g : Row k → Bool} {f : Row k → Row k}
    (hup : (logoutCourse (now i)).update (ph i) k g f y) (hg : g ((pd i).view w.db k) = true) :
    Logouts now tr (Function.update ph i y)
      (Function.update pd i ((pd i).put k (w.db k) (f ((pd i).view w.db k)))) w := by
  have hfact := h.facts i
  cases hph : ph i with
  | outside =>
    rw [hph] at hup hfact
    obtain ⟨sessionId,rfl,rfl | rfl⟩ := hup
    · exact h.plain (le_refl _) (hfact.put_session trivial (Or.inl rfl) rfl rfl (fun _ hc => by cases hc)
        fun _ _ hx => by cases hx) (by rw [hph]; rfl) rfl rfl rfl
    · exact h.plain (le_refl _) (hfact.put_session trivial (Or.inr rfl) rfl rfl (fun _ hc => by cases hc)
        fun _ _ hx => by cases hx) (by rw [hph]; rfl) rfl rfl rfl
  | replacing sessionId rest =>
    cases rest with
    | nil =>
      rw [hph] at hup
      exact hup.elim
    | cons id rest =>
      rw [hph] at hup hfact
      obtain ⟨rfl,rfl,hturns⟩ := hup
      have hturn : Turns (now i) (.replacing sessionId rest) id _ _ := hturns _ hg
      have hfree := hfact.untouched (y := .replacing sessionId rest) (fun _ _ hx => by cases hx) (fun hf => hf) (fun hf => hf)
        (fun _ _ ht => ⟨_,ht.1⟩) hturn
      refine h.plain (le_refl _) (hfact.put_row hfree hturn (fun _ _ _ _ ht => ht.mono (fun _ _ ht => ht)
        (fun hf => hf) fun _ hx => by cases hx) (fun _ hy => hy) (fun _ hy => hy) (fun id' hid hmem => ?_)
        (fun _ hy => hy) rfl fun _ _ hx => by cases hx) (by rw [hph]; rfl) rfl rfl rfl
      exact (List.mem_cons.mp hmem).resolve_left hid
  | numbered sessionId id =>
    rw [hph] at hup hfact
    obtain ⟨rfl,rfl,hturns⟩ := hup
    have hturn : Turns (now i) (.inserted sessionId id) id _ _ := hturns _ hg
    have hfree := hfact.untouched (y := .inserted sessionId id) (fun _ _ hx => by cases hx) (fun hf => hf) (fun hf => hf)
      (fun _ _ ht => ⟨_,ht.1⟩) hturn
    exact h.plain (le_refl _) (hfact.put_row hfree hturn (fun _ _ _ _ ht => ht.mono (fun _ _ ht => ht)
      (fun hf => hf) fun _ hx => by cases hx) (fun _ hy => hy) (fun _ hy => hy) (fun _ _ hrest => hrest.elim)
      (fun _ hy => hy) rfl fun _ _ hx => by cases hx) (by rw [hph]; rfl) rfl rfl rfl
  | continuing id s =>
    rw [hph] at hup hfact
    obtain ⟨rfl,hturns⟩ := hup
    cases k with
    | deviceSession _ => exact (hturns _ hg).elim
    | continuation id' =>
      have hturn : Turns (now i) (.consumed id s) id' _ _ := hturns _ hg
      have hconsumed : LogoutFact (now i) (.consumed id s) ((pd i).put (.continuation id')
          (w.db (.continuation id')) (f ((pd i).view w.db (.continuation id')))) w := by
        refine hfact.put_row (hfact.quiet_unwritten trivial id') hturn
          (fun _ _ _ _ ht => (quiet_turns (x := .continuing id s) trivial ht).elim) (fun _ hy => by cases hy) (fun _ hy => by cases hy)
          (fun _ _ hrest => hrest.elim) (fun _ hy => by cases hy) rfl fun id'' s' hx => ?_
        cases hx
        generalize (pd i).view w.db (.continuation id') = v at hg hturn
        cases v with
        | none =>
          generalize f none = u at hturn
          cases hturn with
          | gone hflushes => exact hflushes.elim
          | opens hinserted => cases hinserted
        | some b =>
          generalize f (some b) = u at hturn
          cases hturn with
          | turn ht => exact ht.1.symm
      exact h.turn (le_refl _) hconsumed (fun _ hy => by cases hy) (fun _ hx => by rw [hph] at hx; cases hx)
        (fun _ _ hy => Or.inl (by rw [hph]; exact hy)) fun _ hy => by cases hy
  | _ =>
    rw [hph] at hup
    exact hup.elim

theorem logouts_flush (h : Logouts now tr ph pd w) {k : Key} {l n : Row k}
    (hflush : (logoutCourse (now i)).flush (ph i) k l n y) :
    Logouts now tr (Function.update ph i y)
      (Function.update pd i ((pd i).put k l (Schema.merge k l n ((pd i).view w.db k)))) w := by
  have hfact := h.facts i
  cases hph : ph i with
  | outside =>
    rw [hph] at hflush hfact
    obtain ⟨⟨sessionId,rfl⟩,rfl⟩ := hflush
    exact h.plain (le_refl _) (hfact.put_session trivial (Or.inl rfl) rfl rfl (fun _ hc => by cases hc)
      fun _ _ hx => by cases hx) (by rw [hph]; rfl) rfl rfl rfl
  | chosen id c =>
    rw [hph] at hflush hfact
    rcases hflush with ⟨⟨sessionId,rfl⟩,rfl⟩ | ⟨rfl,hturns⟩
    · exact h.plain (le_refl _) (hfact.put_session trivial (Or.inl rfl) rfl rfl (fun _ hc => hc)
        fun _ _ hx => by cases hx) (by rw [hph]; rfl) rfl rfl rfl
    · cases k with
      | deviceSession _ => exact (hturns (hfact.loaded c rfl) ((pd i).view w.db _)).elim
      | continuation id' =>
        exact h.plain (le_refl _) (hfact.put_row (hfact.quiet_unwritten trivial id')
          (hturns (hfact.loaded c rfl) _) (fun _ _ _ _ ht => (quiet_turns (x := .chosen id c) trivial ht).elim)
          (fun _ hy => by cases hy) (fun _ hy => by cases hy) (fun _ _ hrest => hrest.elim)
          (fun _ hy => by cases hy) rfl fun _ _ hx => by cases hx) (by rw [hph]; rfl) rfl rfl rfl
  | preparing id c s =>
    rw [hph] at hflush hfact
    obtain ⟨rfl,hturns⟩ := hflush
    cases k with
    | deviceSession _ => exact (hturns (hfact.loaded c rfl) ((pd i).view w.db _)).elim
    | continuation id' =>
      have hprepared : LogoutFact (now i) (.prepared id s) ((pd i).put (.continuation id') l
          (Schema.merge (Key.continuation id') l n ((pd i).view w.db (.continuation id')))) w :=
        hfact.put_row (hfact.quiet_unwritten trivial id') (hturns (hfact.loaded c rfl) _)
          (fun _ _ _ _ ht => (quiet_turns (x := .preparing id c s) trivial ht).elim) (fun _ hy => by cases hy) (fun _ hy => by cases hy)
          (fun _ _ hrest => hrest.elim) (fun _ hy => by cases hy) rfl fun _ _ hx => by cases hx
      exact h.turn (le_refl _) hprepared (fun s' hs => Or.inl (by rw [hph]; exact hs))
        (fun _ hx => by rw [hph] at hx; cases hx) (fun _ _ hy => by cases hy) fun _ hy => by cases hy
  | _ =>
    rw [hph] at hflush
    exact hflush.elim

theorem logouts_annotated (now : ι → Time) :
    Annotated (fun i => logoutCourse (now i)) (fun _ _ _ _ _ => True) fun tr ph pd w => Logouts now tr ph pd w where
  bump {_ ph pd w} h := by
    have hle : w.next ≤ w.next + 1 := Nat.le_succ _
    exact { h with
      facts := fun i => (h.facts i).bump hle
      numbered := fun id hne => lt_of_lt_of_le (h.numbered id hne) hle
      drawn := fun i s hs => lt_of_lt_of_le (h.drawn i s hs) hle }
  learn := logouts_learn
  number := logouts_number
  update h _ _ hup hg := logouts_update h hup hg
  flush h _ _ hflush _ _ := logouts_flush h hflush
  commit h ha hcommit := h.commit ha hcommit
  rollback := logouts_rollback
  stop _ h := ⟨_,h.drop⟩
  miss h hmiss hg := logouts_miss h hmiss hg
  skip _ hskip := hskip.elim

theorem logouts_end : Ends (fun _ : ι => Answers) fun tr ph pd w => Logouts now tr ph pd w := by
  intro tr ph pd w i e h he
  refine ⟨(ph i).resting,fun id s heq => ?_,h.drop⟩
  rw [he id s heq]
  rfl

end steps

section executions

variable {ι : Type} [SecretHash] [DecidableEq ι] [Fintype ι] {ops : ι → SessionOp} {w : World}
  {tr : List (Commit ι Row)} {g : Global ι Row Time Response}

-- The call answers the browser with the provider's redirect.
def RedirectedBy (g : Global ι Row Time Response) (i : ι) (id secret : Id) : Prop :=
  (g.thread i).prog = .throw (.redirectedToProvider id secret)

structure SingleUse (now : ι → Time) (tr : List (Commit ι Row)) (g : Global ι Row Time Response) : Prop where
  single : ∀ sessionId id id', OpenAt sessionId (.continuation id) (g.world.db (.continuation id)) →
    OpenAt sessionId (.continuation id') (g.world.db (.continuation id')) → id = id'
  closed : ∀ id, ∀ c : ProviderLogoutContinuation, g.world.db (.continuation id) = some c →
    c.status = .consumed ∨ c.status = .superseded → c.sealedProviderHint = none
  removed : ∀ c ∈ tr, ∀ id, HintRemoved (c.before (.continuation id)) → HintRemoved (c.after (.continuation id))
  once : ∀ i j id s s', RedirectedBy g i id s → RedirectedBy g j id s' → i = j
  redirects : ∀ i id s, RedirectedBy g i id s → Redirects now tr i id s

theorem logout_continuation_single_use (hnone : ∀ id, w.db (.continuation id) = none)
    (h : Execution (fun _ _ => True) (Global.init w fun i => (ops i).program) tr g) :
    SingleUse (fun i => (ops i).now) tr g := by
  have hstart : Logouts (fun i => (ops i).now) [] (fun _ => .outside) (fun _ => Pending.empty) w := {
    facts := fun i => .empty rfl rfl rfl (fun _ hc => by cases hc) fun _ _ hx => by cases hx
    numbered := fun id hne => (hne (hnone id)).elim
    lawful := fun id c hc => by cases (hnone id).symm.trans hc
    single := fun sessionId id _ ho => by
      obtain ⟨c,hc,_⟩ := ho
      cases (hnone id).symm.trans hc
    secrets := fun _ _ _ hs => by cases hs
    drawn := fun _ _ hs => by cases hs
    issued := fun _ hc => by cases hc
    dated := fun id r _ hr => by cases (hnone id).symm.trans hr
    accepted := fun _ _ _ hs => by cases hs
    kept := fun _ hc => by cases hc
    spent := fun _ _ _ hs => by cases hs
    once := fun _ _ _ _ _ hs => by cases hs
    answered := fun _ _ _ hs => by cases hs }
  obtain ⟨ph,hst⟩ := h.ending (logouts_annotated _) logouts_end (fun _ _ _ _ _ _ _ _ _ => trivial)
    (fun i => walks_program (ops i)) hstart
  have hphase {i : ι} {id s : Id} (hr : RedirectedBy g i id s) : (ph i).answered = some (id,s) := by
    have hcourse := hst.course i
    rw [hr] at hcourse
    rw [show ph i = .redirected id s from hcourse id s rfl]
    rfl
  exact ⟨hst.inv.single,fun id c hc => (hst.inv.lawful id c hc).closed,hst.inv.kept,
    fun i j id s s' hi hj => hst.inv.once i j id s s' (hphase hi) (hphase hj),
    fun i id s hi => hst.inv.answered i id s (hphase hi)⟩

end executions

-- A recent authentication, the sign-out after it, and two calls that continue it.
def logoutCalls : Fin 4 → SessionOp
  | 0 => .reauthenticate ⟨some (2,5),some 2,true,true,true,0,some "hint",1⟩
  | 1 => .signOut { sampleRequest 2 with cookie := some (2,6) } 2 true
  | 2 => .continueLogout (some (7,8)) 3 true
  | 3 => .continueLogout (some (7,8)) 4 true

def answer (m : Op Unit) : Option Response :=
  match m with
  | .throw e => some e
  | _ => none

theorem answer_throw {m : Op Unit} {e : Response} (h : answer m = some e) : m = .throw e := by
  cases m with
  | throw e' =>
    cases h
    rfl
  | _ => cases h

theorem second_logout_continuation_refused :
    let _ := plainSecretHash
    ∃ tr g, Execution (fun _ _ => True) (Global.init sampleWorld fun i => (logoutCalls i).program) tr g ∧
      RedirectedBy g 2 7 8 ∧ (g.thread 3).prog = .throw .redirectedHome ∧
      SingleUse (fun i => (logoutCalls i).now) tr g := by
  let _ := plainSecretHash
  have hplay : ((Global.init sampleWorld fun i => (logoutCalls i).program).play (fun _ _ => true)
      (List.replicate 20 (0,0) ++ List.replicate 20 (1,0) ++ List.replicate 20 (2,0) ++
        List.replicate 20 (3,0))).map (fun r => (answer (r.2.thread 2).prog,answer (r.2.thread 3).prog)) =
      some (some (.redirectedToProvider 7 8),some .redirectedHome) := by decide +kernel
  obtain ⟨⟨tr,g⟩,hp,heq⟩ := Option.map_eq_some_iff.mp hplay
  obtain ⟨hfirst,hsecond⟩ := Prod.mk.inj heq
  have hrun := (Global.play_run (.refl) _ hp).execution.weaken fun _ _ _ => trivial
  rw [List.nil_append] at hrun
  exact ⟨tr,g,hrun,answer_throw hfirst,answer_throw hsecond,
    logout_continuation_single_use (fun _ => rfl) hrun⟩

end AiScdc.DeviceSessions
