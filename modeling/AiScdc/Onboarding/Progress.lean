import AiScdc.Onboarding.Course

namespace AiScdc.Onboarding
open Transaction
open DeviceSessions (DeviceSession)

-- The version of a row that an update of a recovery replaces.
def Revises : Known → ∀ k : Key, Row k → Prop
  | .matched _ s r _, .accountLinkRecovery s', v => s' = s ∧ v = some r
  | _, _, _ => False

-- A recovery as it was read, or since completed.
def Stays (r : AccountLinkRecovery) {s : ProviderSubject} (v : Row (.accountLinkRecovery s)) : Prop :=
  ∃ c : AccountLinkRecovery, v = some c ∧ (c = r ∨ c.status = .completed)

-- What every commit keeps: rows are not replaced, and a recovery is changed only by its completion.
structure Grows (db db' : Db) : Prop where
  kept : ∀ k, Tracked k → (∀ s, k ≠ .accountLinkRecovery s) → db k ≠ none → db' k = db k
  recovery : ∀ s, ∀ r : AccountLinkRecovery, db (.accountLinkRecovery s) = some r →
    Stays r (db' (.accountLinkRecovery s))

section laws

variable [EmailText]

def Knows (db : Db) : Known → Prop
  | .nothing | .linked => True
  | .returning s userId => ∃ e : ExternalIdentity, db (.externalIdentity s) = some e ∧ e.userId = userId
  | .holding c s r => r.correlationId = c ∧ r.status = .pending ∧ Stays r (db (.accountLinkRecovery s))
  | .matched c s r userId => r.correlationId = c ∧ r.status = .pending ∧
      Stays r (db (.accountLinkRecovery s)) ∧
      ∃ u : User, db (.user userId) = some u ∧ normalizedEmail u.email = r.verifiedEmail

structure Linked (db : Db) : Prop where
  indexed : ∀ c s, db (.recoveryCorrelation c) = some s →
    ∃ r : AccountLinkRecovery, db (.accountLinkRecovery s) = some r ∧ r.correlationId = c
  entered : ∀ s, ∀ r : AccountLinkRecovery, db (.accountLinkRecovery s) = some r →
    db (.recoveryCorrelation r.correlationId) = some s
  identity : ∀ s c, ∀ e : ExternalIdentity, db (.externalIdentity s) = some e →
    e.accountLinkCorrelationId = some c → ∃ r : AccountLinkRecovery,
      db (.accountLinkRecovery s) = some r ∧ r.correlationId = c ∧ r.status = .completed ∧
        r.targetUserId = some e.userId ∧ e.email = some r.verifiedEmail ∧
        ∃ u : User, db (.user e.userId) = some u ∧ normalizedEmail u.email = r.verifiedEmail
  completed : ∀ s, ∀ r : AccountLinkRecovery, db (.accountLinkRecovery s) = some r →
    r.status = .completed → ∃ e : ExternalIdentity, db (.externalIdentity s) = some e ∧
      e.accountLinkCorrelationId = some r.correlationId

structure Fact (x : AccountPhase) (p : Pending Row) (db : Db) : Prop where
  pend : ∀ k, Tracked k → (p k).map Write.value = x.draft k
  tracked : ∀ k, x.draft k ≠ none → Tracked k
  base : ∀ k, Tracked k → p k ≠ none → db k = none ∨ Revises x.known k (db k)
  knows : Knows db x.known

variable {x y : AccountPhase} {p : Pending Row} {db db' : Db} {known : Known}

omit [EmailText] in
theorem Stays.grow {r : AccountLinkRecovery} {s : ProviderSubject} (hg : Grows db db')
    (h : Stays r (db (.accountLinkRecovery s))) : Stays r (db' (.accountLinkRecovery s)) := by
  obtain ⟨c,hc,hstatus⟩ := h
  obtain ⟨c',hc',hsame⟩ := hg.recovery s c hc
  refine ⟨c',hc',?_⟩
  rcases hsame with rfl | hcompleted
  · exact hstatus
  · exact Or.inr hcompleted

theorem Knows.grow (hg : Grows db db') (h : Knows db known) : Knows db' known := by
  cases known with
  | nothing | linked => trivial
  | returning s userId =>
    obtain ⟨e,he,hu⟩ := h
    have hkept : db' (.externalIdentity s) = db (.externalIdentity s) :=
      hg.kept _ trivial (fun _ hk => by cases hk) (by rw [he]; exact Option.some_ne_none e)
    exact ⟨e,hkept.trans he,hu⟩
  | holding c s r => exact ⟨h.1,h.2.1,h.2.2.grow hg⟩
  | matched c s r userId =>
    obtain ⟨hc,hr,hstays,u,hu,hemail⟩ := h
    have hkept : db' (.user userId) = db (.user userId) :=
      hg.kept _ trivial (fun _ hk => by cases hk) (by rw [hu]; exact Option.some_ne_none u)
    exact ⟨hc,hr,hstays.grow hg,u,hkept.trans hu,hemail⟩

theorem Fact.commit (h : Fact x p db) (hg : Grows db db') (hkept : ∀ k, p k ≠ none → db' k = db k) :
    Fact x p db' where
  pend := h.pend
  tracked := h.tracked
  base k hk hne := by
    rw [hkept k hne]
    exact h.base k hk hne
  knows := h.knows.grow hg

theorem fact_empty (h : Knows db known) : Fact ⟨noDraft,known⟩ Pending.empty db where
  pend _ _ := rfl
  tracked _ hne := (hne rfl).elim
  base _ _ hne := (hne rfl).elim
  knows := h

theorem Fact.view_none (h : Fact x p db) {k : Key} (hk : Tracked k) (hd : x.draft k = none) :
    p.view db k = db k :=
  Pending.view_of_none (Option.map_eq_none_iff.mp ((h.pend k hk).trans hd)) db

theorem Fact.view_some (h : Fact x p db) {k : Key} {v : Row k} (hd : x.draft k = some v) :
    p.view db k = v ∧ (db k = none ∨ Revises x.known k (db k)) := by
  have hk : Tracked k := h.tracked k (by rw [hd]; exact Option.some_ne_none v)
  obtain ⟨wr,hwr,hv⟩ := Option.map_eq_some_iff.mp ((h.pend k hk).trans hd)
  exact ⟨(Pending.view_of_some hwr db).trans hv,h.base k hk (by simp [hwr])⟩

-- With nothing drafted a call sees what is committed.
theorem Fact.view_bare (h : Fact x p db) (hd : x.draft = noDraft) {k : Key} (hk : Tracked k) :
    p.view db k = db k := h.view_none hk (by rw [hd]; rfl)

theorem Fact.put (h : Fact x p db) {k : Key} (hk : Tracked k) {l v : Row k}
    (hbase : db k = none ∨ Revises x.known k (db k)) :
    Fact ⟨Function.update x.draft k (some v),x.known⟩ (p.put k l v) db where
  pend k' hk' := by
    by_cases hkk : k' = k
    · subst hkk
      dsimp only
      rw [Pending.put_self,Function.update_self,Option.map_some]
    · dsimp only
      rw [Pending.put_ne p l v hkk,Function.update_of_ne hkk]
      exact h.pend k' hk'
  tracked k' hne := by
    by_cases hkk : k' = k
    · exact hkk ▸ hk
    · dsimp only at hne
      rw [Function.update_of_ne hkk] at hne
      exact h.tracked k' hne
  base k' hk' hne := by
    by_cases hkk : k' = k
    · subst hkk
      exact hbase
    · rw [Pending.put_ne p l v hkk] at hne
      exact h.base k' hk' hne
  knows := h.knows

theorem Fact.put_untracked (h : Fact x p db) {k : Key} (hk : ¬ Tracked k) (l v : Row k) :
    Fact x (p.put k l v) db where
  pend k' hk' := by
    rw [Pending.put_ne p l v (fun heq => hk (heq ▸ hk'))]
    exact h.pend k' hk'
  tracked := h.tracked
  base k' hk' hne := by
    rw [Pending.put_ne p l v (fun heq => hk (heq ▸ hk'))] at hne
    exact h.base k' hk' hne
  knows := h.knows

theorem Fact.learn (h : Fact x p db) (hlinked : Linked db)
    (hlearn : x.draft = noDraft ∧ y.draft = noDraft ∧ Learns x.known (p.view db) y.known) : Fact y p db := by
  obtain ⟨hx,hy,hlearns⟩ := hlearn
  have hview (k : Key) (hk : Tracked k) : p.view db k = db k := h.view_bare hx hk
  have hnone (k : Key) (hk : Tracked k) : p k = none :=
    Option.map_eq_none_iff.mp ((h.pend k hk).trans (by rw [hx]; rfl))
  have hknows : Knows db y.known := by
    rcases hlearns with ⟨_,s,e,he,hknown⟩ | ⟨_,c,s,r,hfound,hr,hknown⟩ | ⟨c,s,r,userId,u,hholding,hu,hemail,hknown⟩
    · rw [hknown]
      exact ⟨e,(hview (.externalIdentity s) trivial).symm.trans he,rfl⟩
    · rw [hknown]
      obtain ⟨s',hs',hmap⟩ := Option.bind_eq_some_iff.mp hfound
      obtain ⟨r',hr',heq⟩ := Option.map_eq_some_iff.mp hmap
      cases heq
      have hrow : db (.accountLinkRecovery s) = some r :=
        (hview (.accountLinkRecovery s) trivial).symm.trans hr'
      obtain ⟨r₀,hr₀,hc⟩ := hlinked.indexed c s
        ((hview (.recoveryCorrelation c) trivial).symm.trans hs')
      obtain rfl := Option.some.inj (hrow.symm.trans hr₀)
      exact ⟨hc,hr,r,hrow,Or.inl rfl⟩
    · rw [hknown]
      have hold : Knows db (.holding c s r) := hholding ▸ h.knows
      exact ⟨hold.1,hold.2.1,hold.2.2,u,(hview (.user userId) trivial).symm.trans hu,hemail⟩
  refine ⟨fun k hk => ?_,fun k hne => ?_,fun k hk hne => (hne (hnone k hk)).elim,hknows⟩
  · rw [hnone k hk,hy]
    rfl
  · rw [hy] at hne
    exact (hne rfl).elim

section commits

variable {operator : Bool} {known' : Known}

theorem Fact.grows (h : Fact x p db) (hs : Settles x.draft operator x.known known') :
    Grows db (p.view db) where
  kept k hk hother hne := by
    cases hd : x.draft k with
    | none => exact h.view_none hk hd
    | some v =>
      rcases (h.view_some hd).2 with hnone | hrevises
      · exact (hne hnone).elim
      · cases k with
        | accountLinkRecovery s => exact (hother s rfl).elim
        | _ => cases hknown : x.known <;> rw [hknown] at hrevises <;> exact hrevises.elim
  recovery s r hr := by
    cases hd : x.draft (.accountLinkRecovery s) with
    | none => exact ⟨r,(h.view_none (k := .accountLinkRecovery s) trivial hd).trans hr,Or.inl rfl⟩
    | some v =>
      obtain ⟨hview,hbase⟩ := h.view_some hd
      have hrevises : Revises x.known (.accountLinkRecovery s) (db (.accountLinkRecovery s)) := by
        rcases hbase with hnone | hrevises
        · rw [hr] at hnone
          cases hnone
        · exact hrevises
      generalize hknown : x.known = known at hs hrevises
      generalize hdraft : x.draft = d at hs hd
      cases hs with
      | bare hbare =>
        rw [hbare] at hd
        cases hd
      | links c s' r' userId id now hlinks =>
        obtain ⟨rfl,_⟩ := hrevises
        rw [hlinks,Draft.add,Function.update_self] at hd
        cases hd
        exact ⟨_,hview,Or.inr rfl⟩
      | _ => exact hrevises.elim

theorem Linked.plain (h : Linked db) (hg : Grows db db')
    (hrecovery : ∀ s, db' (.accountLinkRecovery s) = db (.accountLinkRecovery s))
    (hindex : ∀ c, db' (.recoveryCorrelation c) = db (.recoveryCorrelation c))
    (hnew : ∀ s, ∀ e : ExternalIdentity, db' (.externalIdentity s) = some e →
      db (.externalIdentity s) = none → e.accountLinkCorrelationId = none) : Linked db' where
  indexed c s hs := by
    rw [hrecovery]
    exact h.indexed c s ((hindex c).symm.trans hs)
  entered s r hr := by
    rw [hindex]
    exact h.entered s r ((hrecovery s).symm.trans hr)
  identity s c e he hc := by
    rw [hrecovery]
    cases hold : db (.externalIdentity s) with
    | none =>
      rw [hnew s e he hold] at hc
      cases hc
    | some e₀ =>
      have hkept : db' (.externalIdentity s) = db (.externalIdentity s) :=
        hg.kept _ trivial (fun _ hk => by cases hk) (by rw [hold]; exact Option.some_ne_none e₀)
      obtain ⟨r,hr,hrc,hstatus,htarget,hemail,u,hu,husermail⟩ := h.identity s c e (hkept.symm.trans he) hc
      have huser : db' (.user e.userId) = db (.user e.userId) :=
        hg.kept _ trivial (fun _ hk => by cases hk) (by rw [hu]; exact Option.some_ne_none u)
      exact ⟨r,hr,hrc,hstatus,htarget,hemail,u,huser.trans hu,husermail⟩
  completed s r hr hstatus := by
    obtain ⟨e,he,hc⟩ := h.completed s r ((hrecovery s).symm.trans hr) hstatus
    have hkept : db' (.externalIdentity s) = db (.externalIdentity s) :=
      hg.kept _ trivial (fun _ hk => by cases hk) (by rw [he]; exact Option.some_ne_none e)
    exact ⟨e,hkept.trans he,hc⟩

theorem Linked.recover (h : Linked db) (hg : Grows db db') {c : String} {s : ProviderSubject} {email : String}
    (hindex : db (.recoveryCorrelation c) = none) (hrecovery : db (.accountLinkRecovery s) = none)
    (hindex' : db' (.recoveryCorrelation c) = some s)
    (hrecovery' : db' (.accountLinkRecovery s) = some (⟨email,c,.pending,none,none⟩ : AccountLinkRecovery))
    (hindexes : ∀ c', c' ≠ c → db' (.recoveryCorrelation c') = db (.recoveryCorrelation c'))
    (hrecoveries : ∀ s', s' ≠ s → db' (.accountLinkRecovery s') = db (.accountLinkRecovery s'))
    (hidentities : ∀ s', db' (.externalIdentity s') = db (.externalIdentity s')) : Linked db' where
  indexed c' s' hs' := by
    by_cases hc : c' = c
    · subst hc
      obtain rfl := Option.some.inj (hindex'.symm.trans hs')
      exact ⟨_,hrecovery',rfl⟩
    · obtain ⟨r,hr,hrc⟩ := h.indexed c' s' ((hindexes c' hc).symm.trans hs')
      have hne : s' ≠ s := by
        rintro rfl
        rw [hr] at hrecovery
        cases hrecovery
      exact ⟨r,(hrecoveries s' hne).trans hr,hrc⟩
  entered s' r hr := by
    by_cases hs : s' = s
    · subst hs
      obtain rfl := Option.some.inj (hrecovery'.symm.trans hr)
      exact hindex'
    · have hentered := h.entered s' r ((hrecoveries s' hs).symm.trans hr)
      have hne : r.correlationId ≠ c := by
        rintro rfl
        rw [hentered] at hindex
        cases hindex
      exact (hindexes _ hne).trans hentered
  identity s' c' e he hc := by
    obtain ⟨r,hr,hrc,hstatus,htarget,hemail,u,hu,husermail⟩ :=
      h.identity s' c' e ((hidentities s').symm.trans he) hc
    have hne : s' ≠ s := by
      rintro rfl
      rw [hr] at hrecovery
      cases hrecovery
    have huser : db' (.user e.userId) = db (.user e.userId) :=
      hg.kept _ trivial (fun _ hk => by cases hk) (by rw [hu]; exact Option.some_ne_none u)
    exact ⟨r,(hrecoveries s' hne).trans hr,hrc,hstatus,htarget,hemail,u,huser.trans hu,husermail⟩
  completed s' r hr hstatus := by
    by_cases hs : s' = s
    · subst hs
      obtain rfl := Option.some.inj (hrecovery'.symm.trans hr)
      cases hstatus
    · obtain ⟨e,he,hc⟩ := h.completed s' r ((hrecoveries s' hs).symm.trans hr) hstatus
      exact ⟨e,(hidentities s').trans he,hc⟩

theorem Linked.link (h : Linked db) (hg : Grows db db') {s : ProviderSubject} {r : AccountLinkRecovery}
    {userId id : Id} {now : Time} {u : User} (hrecovery : db (.accountLinkRecovery s) = some r)
    (hu : db (.user userId) = some u) (husermail : normalizedEmail u.email = r.verifiedEmail)
    (hidentity' : db' (.externalIdentity s) =
      some (⟨id,userId,some r.verifiedEmail,.active,some r.correlationId⟩ : ExternalIdentity))
    (hrecovery' : db' (.accountLinkRecovery s) = some (r.complete userId now))
    (hindexes : ∀ c, db' (.recoveryCorrelation c) = db (.recoveryCorrelation c))
    (hrecoveries : ∀ s', s' ≠ s → db' (.accountLinkRecovery s') = db (.accountLinkRecovery s'))
    (hidentities : ∀ s', s' ≠ s → db' (.externalIdentity s') = db (.externalIdentity s')) : Linked db' where
  indexed c s' hs' := by
    obtain ⟨r',hr',hc⟩ := h.indexed c s' ((hindexes c).symm.trans hs')
    by_cases hs : s' = s
    · subst hs
      obtain rfl := Option.some.inj (hrecovery.symm.trans hr')
      exact ⟨_,hrecovery',hc⟩
    · exact ⟨r',(hrecoveries s' hs).trans hr',hc⟩
  entered s' r' hr' := by
    rw [hindexes]
    by_cases hs : s' = s
    · subst hs
      obtain rfl := Option.some.inj (hrecovery'.symm.trans hr')
      exact h.entered s' r hrecovery
    · exact h.entered s' r' ((hrecoveries s' hs).symm.trans hr')
  identity s' c e he hc := by
    by_cases hs : s' = s
    · subst hs
      obtain rfl := Option.some.inj (hidentity'.symm.trans he)
      have huser : db' (.user userId) = db (.user userId) :=
        hg.kept _ trivial (fun _ hk => by cases hk) (by rw [hu]; exact Option.some_ne_none u)
      exact ⟨_,hrecovery',Option.some.inj hc,rfl,rfl,rfl,u,huser.trans hu,husermail⟩
    · obtain ⟨r',hr',hrc,hstatus,htarget,hemail,u',hu',hmail⟩ :=
        h.identity s' c e ((hidentities s' hs).symm.trans he) hc
      have huser : db' (.user e.userId) = db (.user e.userId) :=
        hg.kept _ trivial (fun _ hk => by cases hk) (by rw [hu']; exact Option.some_ne_none u')
      exact ⟨r',(hrecoveries s' hs).trans hr',hrc,hstatus,htarget,hemail,u',huser.trans hu',hmail⟩
  completed s' r' hr' hstatus := by
    by_cases hs : s' = s
    · subst hs
      obtain rfl := Option.some.inj (hrecovery'.symm.trans hr')
      exact ⟨_,hidentity',rfl⟩
    · obtain ⟨e,he,hc⟩ := h.completed s' r' ((hrecoveries s' hs).symm.trans hr') hstatus
      exact ⟨e,(hidentities s' hs).trans he,hc⟩

theorem Fact.linked (h : Fact x p db) (hs : Settles x.draft operator x.known known') (hl : Linked db) :
    Linked (p.view db) := by
  have hg := h.grows hs
  have hsame (k : Key) (hk : Tracked k) (hd : x.draft k = none) : p.view db k = db k := h.view_none hk hd
  have hknows := h.knows
  generalize hknown : x.known = known at hs hknows
  cases hs with
  | bare hbare =>
    refine hl.plain hg (fun s => hsame _ trivial (by rw [hbare]; rfl)) (fun c => hsame _ trivial (by rw [hbare]; rfl))
      fun s e he hnone => ?_
    rw [hsame (.externalIdentity s) trivial (by rw [hbare]; rfl),hnone] at he
    cases he
  | onboards a hstands honly =>
    have hno (k : Key) (hk : ¬ a.Has k) : x.draft k = none := by
      by_contra hne
      exact hk (honly k hne)
    refine hl.plain hg (fun s => hsame _ trivial (hno _ (by simp [Account.Has])))
      (fun c => hsame _ trivial (hno _ (by simp [Account.Has]))) fun s e he hnone => ?_
    by_cases hs : s = a.subject
    · subst hs
      obtain ⟨e',he',_,hc⟩ := hstands.identity
      obtain rfl := Option.some.inj ((h.view_some he').1.symm.trans he)
      exact hc
    · rw [hsame (.externalIdentity s) trivial (hno _ (by simp [Account.Has,hs])),hnone] at he
      cases he
  | returns s userId id row hu hreturns =>
    have hno (k : Key) (hk : k ≠ .deviceSession id) : x.draft k = none := by
      rw [hreturns,Draft.add,Function.update_of_ne hk]
      rfl
    refine hl.plain hg (fun s => hsame _ trivial (hno _ (by simp))) (fun c => hsame _ trivial (hno _ (by simp)))
      fun s e he hnone => ?_
    rw [hsame (.externalIdentity s) trivial (hno _ (by simp)),hnone] at he
    cases he
  | recovers c s email hrecovers =>
    have hindex : x.draft (.recoveryCorrelation c) = some (some s) := by
      rw [hrecovers]
      simp [Draft.add]
    have hrecovery : x.draft (.accountLinkRecovery s) =
        some (some (⟨email,c,.pending,none,none⟩ : AccountLinkRecovery)) := by
      rw [hrecovers]
      simp [Draft.add]
    have hbase (k : Key) (v : Row k) (hd : x.draft k = some v) : db k = none := by
      rcases (h.view_some hd).2 with hnone | hrevises
      · exact hnone
      · rw [hknown] at hrevises
        exact hrevises.elim
    have hno (k : Key) (hk : k ≠ .recoveryCorrelation c) (hk' : k ≠ .accountLinkRecovery s) : x.draft k = none := by
      rw [hrecovers,Draft.add,Function.update_of_ne hk',Draft.add,Function.update_of_ne hk]
      rfl
    exact hl.recover hg (hbase _ _ hindex) (hbase _ _ hrecovery) (h.view_some hindex).1 (h.view_some hrecovery).1
      (fun c' hc' => hsame _ trivial (hno _ (by simp [hc']) (by simp)))
      (fun s' hs' => hsame _ trivial (hno _ (by simp) (by simp [hs'])))
      fun s' => hsame _ trivial (hno _ (by simp) (by simp))
  | links c s r userId id now hlinks =>
    obtain ⟨rfl,_,hstays,u,hu,husermail⟩ := hknows
    have hidentity : x.draft (.externalIdentity s) =
        some (some (⟨id,userId,some r.verifiedEmail,.active,some r.correlationId⟩ : ExternalIdentity)) := by
      rw [hlinks]
      simp [Draft.add]
    have hcompleted : x.draft (.accountLinkRecovery s) = some (some (r.complete userId now)) := by
      rw [hlinks]
      simp [Draft.add]
    have hno (k : Key) (hk : k ≠ .externalIdentity s) (hk' : k ≠ .accountLinkRecovery s) : x.draft k = none := by
      rw [hlinks,Draft.add,Function.update_of_ne hk',Draft.add,Function.update_of_ne hk]
      rfl
    have hrecovery : db (.accountLinkRecovery s) = some r := by
      rcases (h.view_some hcompleted).2 with hnone | hrevises
      · obtain ⟨c,hc,_⟩ := hstays
        rw [hc] at hnone
        cases hnone
      · rw [hknown] at hrevises
        exact hrevises.2
    exact hl.link hg hrecovery hu husermail (h.view_some hidentity).1 (h.view_some hcompleted).1
      (fun c => hsame _ trivial (hno _ (by simp) (by simp)))
      (fun s' hs' => hsame _ trivial (hno _ (by simp) (by simp [hs'])))
      fun s' hs' => hsame _ trivial (hno _ (by simp [hs']) (by simp))

end commits

end laws

end AiScdc.Onboarding
