import AiScdc.DeviceSessions.Continuations

namespace AiScdc.DeviceSessions
open Transaction

section logouts

variable {ι : Type} [SecretHash]

-- The commit leaves a digest on the continuation that it did not hold before.
def Prepares (id : Id) (secretHash : ℕ) (c : Commit ι Row) : Prop :=
  ∃ a : ProviderLogoutContinuation, c.after (.continuation id) = some a ∧
    a.browserSecretHash = some secretHash ∧ ∀ b : ProviderLogoutContinuation,
      c.before (.continuation id) = some b → b.browserSecretHash ≠ some secretHash

-- The call c was the last to prepare the continuation, and left this digest.
def LastPrepared (tr : List (Commit ι Row)) (id : Id) (secretHash : ℕ) (c : Commit ι Row) : Prop :=
  ∃ pre post, tr = pre ++ c :: post ∧ Prepares id secretHash c ∧ ∀ d ∈ post, ∀ n, ¬ Prepares id n d

def Consumes (id : Id) (c : Commit ι Row) : Prop :=
  ∃ b a : ProviderLogoutContinuation, c.before (.continuation id) = some b ∧ b.status = .prepared ∧
    c.after (.continuation id) = some a ∧ a.status = .consumed

-- The call consumed the continuation, in time and for the secret prepared last.
def Redirects (now : ι → Time) (tr : List (Commit ι Row)) (i : ι) (id secret : Id) : Prop :=
  ∃ pre c post, tr = pre ++ c :: post ∧ c.thread = i ∧ Consumes id c ∧
    ∃ d, LastPrepared pre id (hashSessionSecret secret) d ∧
      now i < now d.thread + providerLogoutContinuation

structure Logouts (now : ι → Time) (tr : List (Commit ι Row)) (ph : ι → LogoutPhase)
    (pd : ι → Pending Row) (w : World) : Prop where
  facts : ∀ i, LogoutFact (now i) (ph i) (pd i) w
  numbered : ∀ id, w.db (.continuation id) ≠ none → id < w.next
  lawful : ∀ id, ∀ c : ProviderLogoutContinuation, w.db (.continuation id) = some c → c.Lawful
  single : ∀ sessionId id id', OpenAt sessionId (.continuation id) (w.db (.continuation id)) →
    OpenAt sessionId (.continuation id') (w.db (.continuation id')) → id = id'
  secrets : ∀ i j s, (ph i).secret = some s → (ph j).secret = some s → i = j
  drawn : ∀ i s, (ph i).secret = some s → s < w.next
  issued : ∀ c ∈ tr, ∀ id n, Prepares id n c →
    ∃ s, (ph c.thread).issued = some (id,s) ∧ n = hashSessionSecret s
  dated : ∀ id, ∀ r : ProviderLogoutContinuation, ∀ n, w.db (.continuation id) = some r →
    r.browserSecretHash = some n → ∃ c, LastPrepared tr id n c ∧
      r.browserSecretExpiresAt = some (now c.thread + providerLogoutContinuation)
  accepted : ∀ i id s, (ph i).accepted = some (id,s) → ∃ c ∈ tr, Prepares id (hashSessionSecret s) c ∧
    now i < now c.thread + providerLogoutContinuation
  kept : ∀ c ∈ tr, ∀ id, HintRemoved (c.before (.continuation id)) → HintRemoved (c.after (.continuation id))
  spent : ∀ i id s, (ph i).answered = some (id,s) → Spent (w.db (.continuation id))
  once : ∀ i j id s s', (ph i).answered = some (id,s) → (ph j).answered = some (id,s') → i = j
  answered : ∀ i id s, (ph i).answered = some (id,s) → Redirects now tr i id s

variable {now : ι → Time} {tr : List (Commit ι Row)} {ph : ι → LogoutPhase} {pd : ι → Pending Row}
  {w : World} {i : ι} {y : LogoutPhase}

-- Who prepared a digest is known by the secret it left with.
theorem Logouts.preparer (h : Logouts now tr ph pd w) {id : Id} {n : ℕ} {c d : Commit ι Row}
    (hc : c ∈ tr) (hd : d ∈ tr) (hcn : Prepares id n c) (hdn : Prepares id n d) : c.thread = d.thread := by
  obtain ⟨s,hs,hn⟩ := h.issued c hc id n hcn
  obtain ⟨s',hs',hn'⟩ := h.issued d hd id n hdn
  obtain rfl := SecretHash.injective (hn.symm.trans hn')
  have hsecret (x : LogoutPhase) (hx : x.issued = some (id,s)) : x.secret = some s := by
    cases x with
    | left _ _ =>
      cases hx
      rfl
    | _ => cases hx
  exact h.secrets _ _ s (hsecret _ hs) (hsecret _ hs')

theorem Logouts.view_lawful (h : Logouts now tr ph pd w) (i : ι) (id : Id)
    (c : ProviderLogoutContinuation) (hc : (pd i).view w.db (.continuation id) = some c) : c.Lawful := by
  rcases (h.facts i).view id with heq | hturn
  · exact h.lawful id c (heq.symm.trans hc)
  · exact hturn.lawful c hc

theorem Logouts.view_numbered (h : Logouts now tr ph pd w) (i : ι) (id : Id)
    (hne : (pd i).view w.db (.continuation id) ≠ none) : id < w.next := by
  rcases (h.facts i).view id with heq | hturn
  · exact h.numbered id (heq ▸ hne)
  · rcases hturn.present hne with hv | ⟨sessionId,hx⟩
    · exact h.numbered id hv
    · exact (h.facts i).drawn id (by rw [hx]; rfl)

theorem Logouts.view_single (h : Logouts now tr ph pd w) (i : ι) (sessionId id id' : Id)
    (ho : OpenAt sessionId (.continuation id) ((pd i).view w.db (.continuation id)))
    (ho' : OpenAt sessionId (.continuation id') ((pd i).view w.db (.continuation id'))) : id = id' := by
  have hinserted {x x' : Id} (hx : ph i = .inserted sessionId x)
      (ho' : OpenAt sessionId (.continuation x') ((pd i).view w.db (.continuation x'))) : x' = x := by
    have hrest := (h.facts i).clear sessionId x' (by rw [hx]; rfl) ho'
    rw [hx] at hrest
    exact hrest
  rcases (h.facts i).view id with heq | hturn
  · rcases (h.facts i).view id' with heq' | hturn'
    · exact h.single sessionId id id' (heq ▸ ho) (heq' ▸ ho')
    · exact hinserted (hturn'.open_inserted ho') ho
  · exact (hinserted (hturn.open_inserted ho) ho').symm

-- What a commit leaves of a digest, and when the commit has prepared it.
theorem LogoutFact.hash {nw : Time} {x : LogoutPhase} {p : Pending Row} (h : LogoutFact nw x p w) {id : Id}
    {a : ProviderLogoutContinuation} (ha : p.view w.db (.continuation id) = some a) {n : ℕ}
    (hn : a.browserSecretHash = some n) :
    (∃ b : ProviderLogoutContinuation, w.db (.continuation id) = some b ∧ b.browserSecretHash = some n ∧
        b.browserSecretExpiresAt = a.browserSecretExpiresAt) ∨
      ∃ secret, x = .prepared id secret ∧ n = hashSessionSecret secret ∧
        a.browserSecretExpiresAt = some (nw + providerLogoutContinuation) := by
  rcases h.view id with heq | hturn
  · exact Or.inl ⟨a,heq.symm.trans ha,hn,rfl⟩
  · exact hturn.hash ha hn

theorem Logouts.prepares (h : Logouts now tr ph pd w) {id : Id} {n : ℕ}
    (hp : Prepares id n ⟨i,pd i,w.db⟩) : ∃ s, ph i = .prepared id s ∧ n = hashSessionSecret s := by
  obtain ⟨a,ha,hn,hnew⟩ := hp
  rcases (h.facts i).hash ha hn with ⟨b,hb,hsame,_⟩ | ⟨s,hx,hs,_⟩
  · exact (hnew b hb hsame).elim
  · exact ⟨s,hx,hs⟩

-- The secret is new, so that no continuation holds its digest yet.
theorem Logouts.unprepared (h : Logouts now tr ph pd w) {id id' s : Id} (hx : ph i = .prepared id s)
    {b : ProviderLogoutContinuation} (hb : w.db (.continuation id') = some b) :
    b.browserSecretHash ≠ some (hashSessionSecret s) := by
  intro hn
  obtain ⟨c,⟨pre,post,rfl,hc,_⟩,_⟩ := h.dated id' b _ hb hn
  obtain ⟨s',hs',heq⟩ := h.issued c (by simp) id' _ hc
  obtain rfl := SecretHash.injective heq
  have hsecret : (ph c.thread).secret = some s := by
    cases hph : ph c.thread with
    | left _ _ =>
      rw [hph] at hs'
      cases hs'
      rfl
    | _ =>
      rw [hph] at hs'
      cases hs'
  have hsame := h.secrets c.thread i s hsecret (by rw [hx]; rfl)
  rw [hsame,hx] at hs'
  cases hs'

theorem Logouts.next_dated (h : Logouts now tr ph pd w) (id : Id) (a : ProviderLogoutContinuation) (n : ℕ)
    (ha : (pd i).view w.db (.continuation id) = some a) (hn : a.browserSecretHash = some n) :
    ∃ c, LastPrepared (tr ++ [⟨i,pd i,w.db⟩]) id n c ∧
      a.browserSecretExpiresAt = some (now c.thread + providerLogoutContinuation) := by
  by_cases hp : ∃ n', Prepares id n' ⟨i,pd i,w.db⟩
  · obtain ⟨n',hp⟩ := hp
    obtain ⟨s,hx,rfl⟩ := h.prepares hp
    rcases (h.facts i).hash ha hn with ⟨b,hb,hsame,_⟩ | ⟨s',hx',rfl,hexpires⟩
    · obtain ⟨a',ha',hn',_⟩ := hp
      obtain rfl : a = a' := Option.some.inj (ha.symm.trans ha')
      obtain rfl := Option.some.inj (hn.symm.trans hn')
      exact (h.unprepared hx hb hsame).elim
    · obtain ⟨_,rfl⟩ := LogoutPhase.prepared.inj (hx'.symm.trans hx)
      exact ⟨_,⟨tr,[],rfl,hp,fun _ hd => by cases hd⟩,hexpires⟩
  · rcases (h.facts i).hash ha hn with ⟨b,hb,hsame,hexpires⟩ | ⟨s,hx,rfl,_⟩
    · obtain ⟨c,⟨pre,post,rfl,hc,hlast⟩,hdate⟩ := h.dated id b n hb hsame
      refine ⟨c,⟨pre,post ++ [⟨i,pd i,w.db⟩],by simp,hc,fun d hd n' hd' => ?_⟩,hexpires.symm.trans hdate⟩
      rcases List.mem_append.mp hd with hd | hd
      · exact hlast d hd n' hd'
      · obtain rfl := List.mem_singleton.mp hd
        exact hp ⟨n',hd'⟩
    · exact (hp ⟨_,a,ha,hn,fun b hb => h.unprepared hx hb⟩).elim

-- A continuation just consumed was prepared last for the secret that was presented, and in time.
theorem Logouts.redirects (h : Logouts now tr ph pd w) {id s : Id} (hx : ph i = .consumed id s) :
    Redirects now (tr ++ [⟨i,pd i,w.db⟩]) i id s ∧ Spent ((pd i).view w.db (.continuation id)) ∧
      ∃ b : ProviderLogoutContinuation, w.db (.continuation id) = some b ∧ b.consumedAt = none := by
  obtain ⟨wr,hwr⟩ := Option.ne_none_iff_exists'.mp ((h.facts i).written id s hx)
  have hturns := (h.facts i).rows id wr hwr
  have hview : (pd i).view w.db (.continuation id) = wr.value := Pending.view_of_some hwr w.db
  rw [hx] at hturns
  rw [hview]
  generalize hb : w.db (.continuation id) = v at hturns
  generalize ha : wr.value = u at hturns hview
  cases hturns with
  | gone hflushes => exact hflushes.elim
  | opens hinserted => cases hinserted
  | turn hturn =>
    rename_i b a
    obtain ⟨_,hstatus,hhash,hconsumed,rfl⟩ := hturn
    obtain ⟨d,hlast,_⟩ := h.dated id b _ hb hhash
    obtain ⟨e,he,hprepares,htime⟩ := h.accepted i id s (by rw [hx]; rfl)
    have hd : d ∈ tr ∧ Prepares id (hashSessionSecret s) d := by
      obtain ⟨pre,post,rfl,hd,_⟩ := hlast
      exact ⟨by simp,hd⟩
    rw [h.preparer he hd.1 hprepares hd.2] at htime
    exact ⟨⟨tr,_,[],rfl,rfl,⟨b,_,hb,hstatus,hview,rfl⟩,d,hlast,htime⟩,⟨_,rfl,Option.some_ne_none _⟩,
      b,rfl,hconsumed⟩

theorem Logouts.kept_append (h : Logouts now tr ph pd w) (c : Commit ι Row)
    (hc : c ∈ tr ++ [⟨i,pd i,w.db⟩]) (id : Id) (hremoved : HintRemoved (c.before (.continuation id))) :
    HintRemoved (c.after (.continuation id)) := by
  rcases List.mem_append.mp hc with hc | hc
  · exact h.kept c hc id hremoved
  · obtain rfl := List.mem_singleton.mp hc
    show HintRemoved ((pd i).view w.db (.continuation id))
    rcases (h.facts i).view id with heq | hturn
    · rw [heq]
      exact hremoved
    · exact hturn.removed hremoved

theorem Logouts.view_spent (h : Logouts now tr ph pd w) (i : ι) {id : Id}
    (hs : Spent (w.db (.continuation id))) : Spent ((pd i).view w.db (.continuation id)) := by
  rcases (h.facts i).view id with heq | hturn
  · rw [heq]
    exact hs
  · exact hturn.spent hs

theorem Redirects.append {id s : Id} (h : Redirects now tr i id s) (c : Commit ι Row) :
    Redirects now (tr ++ [c]) i id s := by
  obtain ⟨pre,d,post,rfl,hrest⟩ := h
  exact ⟨pre,d,post ++ [c],by simp,hrest⟩

section steps

variable [DecidableEq ι]

omit [SecretHash] in
theorem updated_phase {β : Type} (f : LogoutPhase → Option β) {j : ι} {b : β}
    (h : f (Function.update ph i y j) = some b) : j = i ∧ f y = some b ∨ j ≠ i ∧ f (ph j) = some b := by
  by_cases hj : j = i
  · subst hj
    rw [Function.update_self] at h
    exact Or.inl ⟨rfl,h⟩
  · rw [Function.update_of_ne hj] at h
    exact Or.inr ⟨hj,h⟩

omit [SecretHash] in
theorem secrets_apart {n : ℕ} (hsecrets : ∀ i j s, (ph i).secret = some s → (ph j).secret = some s → i = j)
    (hdrawn : ∀ i s, (ph i).secret = some s → s < n)
    (hy : ∀ s, y.secret = some s → (ph i).secret = some s ∨ n ≤ s) (a b : ι) (s : Id)
    (ha : (Function.update ph i y a).secret = some s) (hb : (Function.update ph i y b).secret = some s) :
    a = b := by
  have hnew {j : ι} (hs : y.secret = some s) (hj : (ph j).secret = some s) : j = i := by
    rcases hy s hs with hold | hle
    · exact hsecrets j i s hj hold
    · exact absurd (hdrawn j s hj) (not_lt.mpr hle)
  rcases updated_phase LogoutPhase.secret ha with ⟨rfl,hown⟩ | ⟨_,hother⟩
  · rcases updated_phase LogoutPhase.secret hb with ⟨rfl,_⟩ | ⟨_,hb⟩
    · rfl
    · exact (hnew hown hb).symm
  · rcases updated_phase LogoutPhase.secret hb with ⟨rfl,hown⟩ | ⟨_,hb⟩
    · exact hnew hown hother
    · exact hsecrets a b s hother hb

-- A step of one call that commits nothing.
theorem Logouts.turn (h : Logouts now tr ph pd w) {p : Pending Row} {n : ℕ} (hn : w.next ≤ n)
    (hfact : LogoutFact (now i) y p ⟨w.db,n⟩)
    (hsecret : ∀ s, y.secret = some s → (ph i).secret = some s ∨ w.next ≤ s ∧ s < n)
    (hissued : ∀ e, (ph i).issued = some e → y.issued = some e)
    (haccepted : ∀ id s, y.accepted = some (id,s) → (ph i).accepted = some (id,s) ∨
      ∃ c ∈ tr, Prepares id (hashSessionSecret s) c ∧ now i < now c.thread + providerLogoutContinuation)
    (hanswered : ∀ e, y.answered = some e → (ph i).answered = some e) :
    Logouts now tr (Function.update ph i y) (Function.update pd i p) ⟨w.db,n⟩ where
  facts j := by
    by_cases hj : j = i
    · subst hj
      simpa using hfact
    · rw [Function.update_of_ne hj,Function.update_of_ne hj]
      exact (h.facts j).bump hn
  numbered id hne := lt_of_lt_of_le (h.numbered id hne) hn
  lawful := h.lawful
  single := h.single
  secrets := secrets_apart h.secrets h.drawn fun s hs => (hsecret s hs).imp_right And.left
  drawn j s hs := by
    rcases updated_phase LogoutPhase.secret hs with ⟨rfl,hown⟩ | ⟨_,hs⟩
    · rcases hsecret s hown with hold | ⟨_,hlt⟩
      · exact lt_of_lt_of_le (h.drawn j s hold) hn
      · exact hlt
    · exact lt_of_lt_of_le (h.drawn j s hs) hn
  issued c hc id m hp := by
    obtain ⟨s,hs,hm⟩ := h.issued c hc id m hp
    refine ⟨s,?_,hm⟩
    by_cases hj : c.thread = i
    · rw [hj] at hs ⊢
      rw [Function.update_self]
      exact hissued _ hs
    · rw [Function.update_of_ne hj]
      exact hs
  dated := h.dated
  accepted j id s hs := by
    rcases updated_phase LogoutPhase.accepted hs with ⟨rfl,hown⟩ | ⟨_,hs⟩
    · rcases haccepted id s hown with hold | hnew
      · exact h.accepted j id s hold
      · exact hnew
    · exact h.accepted j id s hs
  kept := h.kept
  spent j id s hs := by
    rcases updated_phase LogoutPhase.answered hs with ⟨rfl,hown⟩ | ⟨_,hs⟩
    · exact h.spent j id s (hanswered _ hown)
    · exact h.spent j id s hs
  once a b id s s' ha hb := by
    have hold {j : ι} {e : Id × Id} (hj : (Function.update ph i y j).answered = some e) :
        (ph j).answered = some e := by
      rcases updated_phase LogoutPhase.answered hj with ⟨rfl,hown⟩ | ⟨_,hj⟩
      · exact hanswered e hown
      · exact hj
    exact h.once a b id s s' (hold ha) (hold hb)
  answered j id s hs := by
    rcases updated_phase LogoutPhase.answered hs with ⟨rfl,hown⟩ | ⟨_,hs⟩
    · exact h.answered j id s (hanswered _ hown)
    · exact h.answered j id s hs

omit [DecidableEq ι] in
theorem committed_phase {nw : Time} {x : LogoutPhase} (h : (logoutCourse nw).commit x y) :
    x.issued = none ∧ (y = .outside ∨ (∃ id c, x = .chosen id c ∧ y = .chosen id c) ∨
      (∃ id s, x = .prepared id s ∧ y = .left id s) ∨ ∃ id s, x = .consumed id s ∧ y = .redirected id s) := by
  cases x with
  | outside | inserted | abandoned => exact ⟨rfl,Or.inl h⟩
  | replacing sessionId rest =>
    cases rest with
    | nil => exact ⟨rfl,Or.inl h⟩
    | cons => exact h.elim
  | chosen id c => exact ⟨rfl,Or.inr (Or.inl ⟨id,c,rfl,h⟩)⟩
  | prepared id s => exact ⟨rfl,Or.inr (Or.inr (Or.inl ⟨id,s,rfl,h⟩))⟩
  | consumed id s => exact ⟨rfl,Or.inr (Or.inr (Or.inr ⟨id,s,rfl,h⟩))⟩
  | _ => exact h.elim

theorem Logouts.commit (h : Logouts now tr ph pd w) (ha : Apart pd)
    (hcommit : (logoutCourse (now i)).commit (ph i) y) :
    Logouts now (tr ++ [⟨i,pd i,w.db⟩]) (Function.update ph i y) (Function.update pd i Pending.empty)
      ⟨(pd i).view w.db,w.next⟩ := by
  obtain ⟨hunissued,hphase⟩ := committed_phase hcommit
  have hfact : LogoutFact (now i) y Pending.empty ⟨(pd i).view w.db,w.next⟩ := by
    rcases hphase with rfl | ⟨id,c,hx,rfl⟩ | ⟨id,s,_,rfl⟩ | ⟨id,s,_,rfl⟩
    · exact .empty rfl rfl rfl (fun _ hc => by cases hc) fun _ _ hx => by cases hx
    · refine .empty rfl rfl rfl (fun d hd => (h.facts i).loaded d ?_) fun _ _ hx => by cases hx
      rw [hx]
      exact hd
    · exact .empty rfl rfl rfl (fun _ hc => by cases hc) fun _ _ hx => by cases hx
    · exact .empty rfl rfl rfl (fun _ hc => by cases hc) fun _ _ hx => by cases hx
  have hsecret (s : Id) (hs : y.secret = some s) : (ph i).secret = some s := by
    rcases hphase with rfl | ⟨id,c,_,rfl⟩ | ⟨id,s',hx,rfl⟩ | ⟨id,s',_,rfl⟩
    · cases hs
    · cases hs
    · rw [hx]
      exact hs
    · cases hs
  have haccepted : y.accepted = none := by
    rcases hphase with rfl | ⟨id,c,_,rfl⟩ | ⟨id,s,_,rfl⟩ | ⟨id,s,_,rfl⟩ <;> rfl
  have hanswered {id s : Id} (hs : y.answered = some (id,s)) : ph i = .consumed id s := by
    rcases hphase with rfl | ⟨id',c,_,rfl⟩ | ⟨id',s',_,rfl⟩ | ⟨id',s',hx,rfl⟩
    · cases hs
    · cases hs
    · cases hs
    · cases hs
      exact hx
  -- The continuation that this call consumed had not been consumed before.
  have hunspent {j : ι} {id s s' : Id} (hs : y.answered = some (id,s)) (hj : (ph j).answered = some (id,s')) :
      False := by
    obtain ⟨_,_,b,hb,hnone⟩ := h.redirects (hanswered hs)
    obtain ⟨b',hb',hsome⟩ := h.spent j id s' hj
    obtain rfl : b' = b := Option.some.inj (hb'.symm.trans hb)
    exact hsome hnone
  exact {
    facts := fun j => by
      by_cases hj : j = i
      · subst hj
        rw [Function.update_self,Function.update_self]
        exact hfact
      · rw [Function.update_of_ne hj,Function.update_of_ne hj]
        exact (h.facts j).commit (h.facts i) fun k hk => ha j i k hj hk
    numbered := h.view_numbered i
    lawful := h.view_lawful i
    single := h.view_single i
    secrets := secrets_apart h.secrets h.drawn fun s hs => Or.inl (hsecret s hs)
    drawn := fun j s hs => by
      rcases updated_phase LogoutPhase.secret hs with ⟨rfl,hown⟩ | ⟨_,hs⟩
      · exact h.drawn j s (hsecret s hown)
      · exact h.drawn j s hs
    issued := fun c hc id n hp => by
      rcases List.mem_append.mp hc with hc | hc
      · obtain ⟨s,hs,hn⟩ := h.issued c hc id n hp
        refine ⟨s,?_,hn⟩
        rw [Function.update_of_ne]
        · exact hs
        · intro hj
          rw [hj,hunissued] at hs
          cases hs
      · obtain rfl := List.mem_singleton.mp hc
        obtain ⟨s,hx,hn⟩ := h.prepares hp
        rw [hx] at hcommit
        obtain rfl : y = .left id s := hcommit
        exact ⟨s,by simp [LogoutPhase.issued],hn⟩
    dated := h.next_dated
    accepted := fun j id s hs => by
      rcases updated_phase LogoutPhase.accepted hs with ⟨rfl,hown⟩ | ⟨_,hs⟩
      · cases haccepted.symm.trans hown
      · obtain ⟨c,hc,hrest⟩ := h.accepted j id s hs
        exact ⟨c,List.mem_append_left _ hc,hrest⟩
    kept := h.kept_append
    spent := fun j id s hs => by
      rcases updated_phase LogoutPhase.answered hs with ⟨rfl,hown⟩ | ⟨_,hs⟩
      · exact (h.redirects (hanswered hown)).2.1
      · exact h.view_spent i (h.spent j id s hs)
    once := fun a b id s s' ha hb => by
      rcases updated_phase LogoutPhase.answered ha with ⟨rfl,hown⟩ | ⟨_,hother⟩
      · rcases updated_phase LogoutPhase.answered hb with ⟨rfl,_⟩ | ⟨_,hb⟩
        · rfl
        · exact (hunspent hown hb).elim
      · rcases updated_phase LogoutPhase.answered hb with ⟨rfl,hown⟩ | ⟨_,hb⟩
        · exact (hunspent hown hother).elim
        · exact h.once a b id s s' hother hb
    answered := fun j id s hs => by
      rcases updated_phase LogoutPhase.answered hs with ⟨rfl,hown⟩ | ⟨_,hs⟩
      · exact (h.redirects (hanswered hown)).1
      · exact (h.answered j id s hs).append _ }

end steps

end logouts

end AiScdc.DeviceSessions
