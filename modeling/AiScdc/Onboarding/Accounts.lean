import AiScdc.Onboarding.Progress

namespace AiScdc.Onboarding
open Transaction
open DeviceSessions (DeviceSession SecretHash)

-- The tables whose rows only an onboarding creates.
def Personal : Key → Prop
  | .user _ | .organization _ | .workspace _ | .membership _ => True
  | _ => False

-- The accounts that onboardings have created since db₀, and that nothing else of them is there.
structure Accounts (db₀ db : Db) (accounts : List Account) : Prop where
  apart : accounts.Pairwise fun a b => ∀ k, a.Has k → ¬ b.Has k
  stands : ∀ a ∈ accounts, a.Stands fun k e => db k = some e
  owned : ∀ k, Personal k → db k ≠ none → db₀ k ≠ none ∨ ∃ a ∈ accounts, a.Has k
  identities : ∀ s, ∀ e : ExternalIdentity, db (.externalIdentity s) = some e →
    db₀ (.externalIdentity s) ≠ none ∨ e.accountLinkCorrelationId ≠ none ∨ ∃ a ∈ accounts, a.subject = s
  sessions : ∀ id, ∀ row : DeviceSession, db (.deviceSession id) = some row →
    db₀ (.deviceSession id) ≠ none ∨ ∃ s, ∃ e : ExternalIdentity,
      db (.externalIdentity s) = some e ∧ row.userId = e.userId

theorem Account.Stands.mono {a : Account} {has has' : ∀ k : Key, k.Entity → Prop} (h : a.Stands has)
    (hsub : ∀ k e, a.Has k → has k e → has' k e) : a.Stands has' where
  user := by
    obtain ⟨u,hu⟩ := h.user
    exact ⟨u,hsub _ _ (by simp [Account.Has]) hu⟩
  organization := by
    obtain ⟨o,ho,hrest⟩ := h.organization
    exact ⟨o,hsub _ _ (by simp [Account.Has]) ho,hrest⟩
  workspace := by
    obtain ⟨w,hw,hrest⟩ := h.workspace
    exact ⟨w,hsub _ _ (by simp [Account.Has]) hw,hrest⟩
  membership := by
    obtain ⟨m,hm,hrest⟩ := h.membership
    exact ⟨m,hsub _ _ (by simp [Account.Has]) hm,hrest⟩
  identity := by
    obtain ⟨e,he,hrest⟩ := h.identity
    exact ⟨e,hsub _ _ (by simp [Account.Has]) he,hrest⟩
  session := by
    obtain ⟨s,hs,hrest⟩ := h.session
    exact ⟨s,hsub _ _ (by simp [Account.Has]) hs,hrest⟩

theorem Account.Stands.present {a : Account} {db : Db} (h : a.Stands fun k e => db k = some e) {k : Key}
    (hk : a.Has k) : db k ≠ none := by
  rcases hk with rfl | rfl | rfl | rfl | rfl | rfl
  · obtain ⟨u,hu⟩ := h.user
    rw [hu]
    exact Option.some_ne_none u
  · obtain ⟨o,ho,_⟩ := h.organization
    rw [ho]
    exact Option.some_ne_none o
  · obtain ⟨w,hw,_⟩ := h.workspace
    rw [hw]
    exact Option.some_ne_none w
  · obtain ⟨m,hm,_⟩ := h.membership
    rw [hm]
    exact Option.some_ne_none m
  · obtain ⟨e,he,_⟩ := h.identity
    rw [he]
    exact Option.some_ne_none e
  · obtain ⟨s,hs,_⟩ := h.session
    rw [hs]
    exact Option.some_ne_none s

theorem Account.has_kept {a : Account} {k : Key} (h : a.Has k) :
    Tracked k ∧ ∀ s, k ≠ .accountLinkRecovery s := by
  rcases h with rfl | rfl | rfl | rfl | rfl | rfl <;> exact ⟨trivial,fun _ hk => by cases hk⟩

theorem Account.stands_grow {a : Account} {db db' : Db} (h : a.Stands fun k e => db k = some e)
    (hg : Grows db db') : a.Stands fun k e => db' k = some e :=
  h.mono fun k e hk he => by
    rw [hg.kept k (Account.has_kept hk).1 (Account.has_kept hk).2 (by rw [he]; exact Option.some_ne_none e)]
    exact he

section commits

variable {db₀ db db' : Db} {accounts : List Account}

-- A commit that creates nothing but a session of an identity that is there, or a link.
theorem Accounts.grow (h : Accounts db₀ db accounts) (hg : Grows db db')
    (hpersonal : ∀ k, Personal k → db' k = db k)
    (hidentities : ∀ s, ∀ e : ExternalIdentity, db' (.externalIdentity s) = some e →
      db (.externalIdentity s) = some e ∨ e.accountLinkCorrelationId ≠ none)
    (hsessions : ∀ id, ∀ row : DeviceSession, db' (.deviceSession id) = some row →
      db (.deviceSession id) = some row ∨ ∃ s, ∃ e : ExternalIdentity,
        db (.externalIdentity s) = some e ∧ row.userId = e.userId) : Accounts db₀ db' accounts where
  apart := h.apart
  stands a ha := Account.stands_grow (h.stands a ha) hg
  owned k hk hne := by
    rw [hpersonal k hk] at hne
    exact h.owned k hk hne
  identities s e he := by
    rcases hidentities s e he with hold | hlinked
    · exact h.identities s e hold
    · exact Or.inr (Or.inl hlinked)
  sessions id row hrow := by
    have hkept {s : ProviderSubject} {e : ExternalIdentity} (he : db (.externalIdentity s) = some e) :
        db' (.externalIdentity s) = some e :=
      (hg.kept (.externalIdentity s) trivial (fun _ hk => by cases hk)
        (by rw [he]; exact Option.some_ne_none e)).trans he
    have hidentity : db₀ (.deviceSession id) ≠ none ∨ ∃ s, ∃ e : ExternalIdentity,
        db (.externalIdentity s) = some e ∧ row.userId = e.userId := by
      rcases hsessions id row hrow with hold | hnew
      · exact h.sessions id row hold
      · exact Or.inr hnew
    exact hidentity.imp_right fun ⟨s,e,he,hu⟩ => ⟨s,e,hkept he,hu⟩

theorem Accounts.onboard (h : Accounts db₀ db accounts) (hg : Grows db db') {a : Account}
    (hnew : ∀ k, a.Has k → db k = none) (hstands : a.Stands fun k e => db' k = some e)
    (hrest : ∀ k, Tracked k → ¬ a.Has k → db' k = db k) : Accounts db₀ db' (accounts ++ [a]) where
  apart := by
    refine List.pairwise_append.mpr ⟨h.apart,List.pairwise_singleton _ _,fun b hb c hc k hk hk' => ?_⟩
    obtain rfl := List.mem_singleton.mp hc
    exact (h.stands b hb).present hk (hnew k hk')
  stands b hb := by
    rcases List.mem_append.mp hb with hb | hb
    · exact Account.stands_grow (h.stands b hb) hg
    · obtain rfl := List.mem_singleton.mp hb
      exact hstands
  owned k hk hne := by
    by_cases hak : a.Has k
    · exact Or.inr ⟨a,List.mem_append_right _ (List.mem_singleton_self a),hak⟩
    · have htracked : Tracked k := by cases k <;> trivial
      rw [hrest k htracked hak] at hne
      rcases h.owned k hk hne with hold | ⟨b,hb,hbk⟩
      · exact Or.inl hold
      · exact Or.inr ⟨b,List.mem_append_left _ hb,hbk⟩
  identities s e he := by
    by_cases hs : s = a.subject
    · exact Or.inr (Or.inr ⟨a,List.mem_append_right _ (List.mem_singleton_self a),hs.symm⟩)
    · rw [hrest (.externalIdentity s) trivial (by simp [Account.Has,hs])] at he
      rcases h.identities s e he with hold | hlinked | ⟨b,hb,hbs⟩
      · exact Or.inl hold
      · exact Or.inr (Or.inl hlinked)
      · exact Or.inr (Or.inr ⟨b,List.mem_append_left _ hb,hbs⟩)
  sessions id row hrow := by
    have hkept {s : ProviderSubject} {e : ExternalIdentity} (he : db (.externalIdentity s) = some e) :
        db' (.externalIdentity s) = some e :=
      (hg.kept (.externalIdentity s) trivial (fun _ hk => by cases hk)
        (by rw [he]; exact Option.some_ne_none e)).trans he
    by_cases hid : id = a.sessionId
    · subst hid
      obtain ⟨row',hrow',hu⟩ := hstands.session
      obtain rfl := Option.some.inj (hrow'.symm.trans hrow)
      obtain ⟨e,he,heu,_⟩ := hstands.identity
      exact Or.inr ⟨a.subject,e,he,hu.trans heu.symm⟩
    · rw [hrest (.deviceSession id) trivial (by simp [Account.Has,hid])] at hrow
      rcases h.sessions id row hrow with hold | ⟨s,e,he,hu⟩
      · exact Or.inl hold
      · exact Or.inr ⟨s,e,hkept he,hu⟩

variable [EmailText] {operator : Bool} {x : AccountPhase} {p : Pending Row} {known' : Known}

theorem Fact.opens_accounts (h : Fact x p db) (hs : Settles x.draft operator x.known known')
    (ha : Accounts db₀ db accounts) : ∃ accounts', Accounts db₀ (p.view db) accounts' := by
  have hg := h.grows hs
  have hsame (k : Key) (hk : Tracked k) (hd : x.draft k = none) : p.view db k = db k := h.view_none hk hd
  have htracked {k : Key} (hk : Personal k) : Tracked k := by cases k <;> trivial
  have hknows := h.knows
  generalize hknown : x.known = known at hs hknows
  cases hs with
  | bare hbare =>
    have hnone (k : Key) (hk : Tracked k) : p.view db k = db k := hsame k hk (by rw [hbare]; rfl)
    exact ⟨accounts,ha.grow hg (fun k hk => hnone k (htracked hk))
      (fun s e he => Or.inl ((hnone (.externalIdentity s) trivial).symm.trans he))
      fun id row hrow => Or.inl ((hnone (.deviceSession id) trivial).symm.trans hrow)⟩
  | onboards a hstands honly =>
    have hno (k : Key) (hk : ¬ a.Has k) : x.draft k = none := by
      by_contra hne
      exact hk (honly k hne)
    have hstands' : a.Stands fun k e => p.view db k = some e :=
      hstands.mono fun k e _ he => (h.view_some he).1
    refine ⟨accounts ++ [a],ha.onboard hg (fun k hk => ?_) hstands' fun k hk hak => hsame k hk (hno k hak)⟩
    have hdraft : ∃ e, x.draft k = some (some e) := by
      rcases hk with rfl | rfl | rfl | rfl | rfl | rfl
      · exact hstands.user
      · exact hstands.organization.imp fun _ ho => ho.1
      · exact hstands.workspace.imp fun _ hw => hw.1
      · exact hstands.membership.imp fun _ hm => hm.1
      · exact hstands.identity.imp fun _ he => he.1
      · exact hstands.session.imp fun _ hs => hs.1
    -- What an onboarding inserts was not there.
    obtain ⟨e,he⟩ := hdraft
    rcases (h.view_some he).2 with hnone | hrevises
    · exact hnone
    · rw [hknown] at hrevises
      exact hrevises.elim
  | returns s userId id row hu hreturns =>
    have hno (k : Key) (hk : k ≠ .deviceSession id) : x.draft k = none := by
      rw [hreturns,Draft.add,Function.update_of_ne hk]
      rfl
    obtain ⟨e,he,heu⟩ := hknows
    refine ⟨accounts,ha.grow hg (fun k hk => hsame k (htracked hk) (hno k ?_))
      (fun s e he => Or.inl ((hsame (.externalIdentity s) trivial (hno _ (by simp))).symm.trans he))
      fun id' row' hrow' => ?_⟩
    · rintro rfl
      exact hk.elim
    · by_cases hid : id' = id
      · subst hid
        have hdraft : x.draft (.deviceSession id') = some (some row) := by
          rw [hreturns,Draft.add,Function.update_self]
        obtain rfl := Option.some.inj ((h.view_some hdraft).1.symm.trans hrow')
        exact Or.inr ⟨s,e,he,hu.trans heu.symm⟩
      · exact Or.inl ((hsame (.deviceSession id') trivial (hno _ (by simp [hid]))).symm.trans hrow')
  | recovers c s email hrecovers =>
    have hno (k : Key) (hk : k ≠ .recoveryCorrelation c) (hk' : k ≠ .accountLinkRecovery s) : x.draft k = none := by
      rw [hrecovers,Draft.add,Function.update_of_ne hk',Draft.add,Function.update_of_ne hk]
      rfl
    refine ⟨accounts,ha.grow hg (fun k hk => hsame k (htracked hk) (hno k ?_ ?_))
      (fun s e he => Or.inl ((hsame (.externalIdentity s) trivial (hno _ (by simp) (by simp))).symm.trans he))
      fun id row hrow => Or.inl ((hsame (.deviceSession id) trivial (hno _ (by simp) (by simp))).symm.trans hrow)⟩
    · rintro rfl
      exact hk.elim
    · rintro rfl
      exact hk.elim
  | links c s r userId id now hlinks =>
    have hno (k : Key) (hk : k ≠ .externalIdentity s) (hk' : k ≠ .accountLinkRecovery s) : x.draft k = none := by
      rw [hlinks,Draft.add,Function.update_of_ne hk',Draft.add,Function.update_of_ne hk]
      rfl
    have hidentity : x.draft (.externalIdentity s) =
        some (some (⟨id,userId,some r.verifiedEmail,.active,some c⟩ : ExternalIdentity)) := by
      rw [hlinks]
      simp [Draft.add]
    refine ⟨accounts,ha.grow hg (fun k hk => hsame k (htracked hk) (hno k ?_ ?_)) (fun s' e he => ?_)
      fun id row hrow => Or.inl ((hsame (.deviceSession id) trivial (hno _ (by simp) (by simp))).symm.trans hrow)⟩
    · rintro rfl
      exact hk.elim
    · rintro rfl
      exact hk.elim
    · by_cases hs : s' = s
      · subst hs
        obtain rfl := Option.some.inj ((h.view_some hidentity).1.symm.trans he)
        exact Or.inr (Option.some_ne_none c)
      · exact Or.inl ((hsame (.externalIdentity s') trivial (hno _ (by simp [hs]) (by simp))).symm.trans he)

end commits

end AiScdc.Onboarding
