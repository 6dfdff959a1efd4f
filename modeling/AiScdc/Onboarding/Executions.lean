import AiScdc.DeviceSessions.Lifetimes
import AiScdc.Onboarding.Calls

namespace AiScdc.Onboarding
open Transaction
open Login (LoginTransaction)
open DeviceSessions (DeviceSession SecretHash)

section executions

variable {ι : Type} [DecidableEq ι] [Fintype ι] [EmailText] [SecretHash] {calls : ι → AccountCall}
  {w : World} {tr : List (Commit ι Row)} {g : Global ι Row Time Response}

omit [EmailText] [SecretHash] [DecidableEq ι] [Fintype ι] in
theorem accounts_empty (db : Db) : Accounts db db [] where
  apart := .nil
  stands _ ha := by cases ha
  owned _ _ hne := Or.inl hne
  identities _ e he := Or.inl (by rw [he]; exact Option.some_ne_none e)
  sessions _ row hrow := Or.inl (by rw [hrow]; exact Option.some_ne_none row)

theorem calls_run (hlinked : Linked w.db)
    (h : Execution (fun _ _ => True) (Global.init w fun i => (calls i).program) tr g) :
    ∃ ph, Standing (fun i => accountCourse (calls i).operator) (fun _ e x => Answers e x)
      (fun tr ph pd w' => Calls (fun i => (calls i).operator) w.db tr ph pd w'.db) tr ph g :=
  h.ending (calls_annotated _ w.db) (calls_end _ w.db) (fun _ _ _ _ _ _ _ _ _ => trivial)
    (fun i => walks_call (calls i))
    ⟨fun _ => fact_empty trivial,hlinked,⟨[],accounts_empty w.db⟩,fun _ hc => (by cases hc),
      fun _ hc => (by cases hc)⟩

theorem onboarding_all_or_nothing (hlinked : Linked w.db)
    (h : Execution (fun _ _ => True) (Global.init w fun i => (calls i).program) tr g) :
    (∃ accounts : List Account,
      (accounts.Pairwise fun a b => a.subject ≠ b.subject ∧ ∀ k, a.Has k → ¬ b.Has k) ∧
      (∀ a ∈ accounts, a.Stands fun k e => g.world.db k = some e) ∧
      (∀ k, Personal k → g.world.db k ≠ none → w.db k ≠ none ∨ ∃ a ∈ accounts, a.Has k) ∧
      (∀ s, ∀ e : ExternalIdentity, g.world.db (.externalIdentity s) = some e →
        w.db (.externalIdentity s) ≠ none ∨ e.accountLinkCorrelationId ≠ none ∨
          ∃ a ∈ accounts, a.subject = s) ∧
      ∀ id, ∀ row : DeviceSession, g.world.db (.deviceSession id) = some row →
        w.db (.deviceSession id) ≠ none ∨ ∃ s, ∃ e : ExternalIdentity,
          g.world.db (.externalIdentity s) = some e ∧ row.userId = e.userId) ∧
    ∀ c ∈ tr, ∀ k, Tracked k → (∀ s, k ≠ .accountLinkRecovery s) → c.before k ≠ none →
      c.after k = c.before k := by
  obtain ⟨ph,hst⟩ := calls_run hlinked h
  obtain ⟨accounts,haccounts⟩ := hst.inv.accounts
  refine ⟨⟨accounts,haccounts.apart.imp fun {a b} hab => ⟨fun heq => ?_,hab⟩,haccounts.stands,haccounts.owned,
    haccounts.identities,haccounts.sessions⟩,fun c hc k hk hother hne => (hst.inv.commits c hc).1.kept k hk hother hne⟩
  exact hab (.externalIdentity a.subject) (by simp [Account.Has]) (by simp [Account.Has,heq])

theorem recovery_links_one_identity (hlinked : Linked w.db)
    (h : Execution (fun _ _ => True) (Global.init w fun i => (calls i).program) tr g) :
    (∀ s, ∀ r : AccountLinkRecovery, g.world.db (.accountLinkRecovery s) = some r →
      (r.status = .completed ↔ ∃ s', ∃ e : ExternalIdentity,
        g.world.db (.externalIdentity s') = some e ∧ e.accountLinkCorrelationId = some r.correlationId) ∧
      ∀ s', ∀ e : ExternalIdentity, g.world.db (.externalIdentity s') = some e →
        e.accountLinkCorrelationId = some r.correlationId → s' = s ∧ r.targetUserId = some e.userId ∧
          e.email = some r.verifiedEmail) ∧
    (∀ c ∈ tr, ∀ s, ∀ e : ExternalIdentity, c.before (.externalIdentity s) = none →
      c.after (.externalIdentity s) = some e → e.accountLinkCorrelationId ≠ none →
        ∃ u : User, c.after (.user e.userId) = some u ∧ e.email = some (normalizedEmail u.email)) ∧
    (∀ c ∈ tr, ∀ s, c.before (.externalIdentity s) ≠ none →
      c.after (.externalIdentity s) = c.before (.externalIdentity s)) ∧
    ∀ i, (calls i).operator = true → ∀ statusCode detail, (g.thread i).prog = .throw (.http statusCode detail) →
      ∀ c ∈ tr, c.thread = i → ∀ s, c.after (.externalIdentity s) = c.before (.externalIdentity s) ∧
        c.after (.accountLinkRecovery s) = c.before (.accountLinkRecovery s) := by
  obtain ⟨ph,hst⟩ := calls_run hlinked h
  have hnow := hst.inv.linked
  refine ⟨fun s r hr => ?_,fun c hc s e _ he hlink => ?_,
    fun c hc s hne => (hst.inv.commits c hc).1.kept _ trivial (fun _ hk => by cases hk) hne,
    fun i hop statusCode detail hprog c hc hi s => ?_⟩
  · -- The index finds the recovery that an identity's correlation id names.
    have hsubject {s' : ProviderSubject} {e : ExternalIdentity}
        (he : g.world.db (.externalIdentity s') = some e)
        (hc : e.accountLinkCorrelationId = some r.correlationId) :
        s' = s ∧ r.status = .completed ∧ r.targetUserId = some e.userId ∧ e.email = some r.verifiedEmail := by
      obtain ⟨r',hr',hrc,hstatus,htarget,hemail,_⟩ := hnow.identity s' _ e he hc
      have hentered := hnow.entered s' r' hr'
      rw [hrc,hnow.entered s r hr] at hentered
      obtain rfl := Option.some.inj hentered
      obtain rfl := Option.some.inj (hr.symm.trans hr')
      exact ⟨rfl,hstatus,htarget,hemail⟩
    refine ⟨⟨fun hstatus => ?_,?_⟩,fun s' e he hc => ?_⟩
    · obtain ⟨e,he,hc⟩ := hnow.completed s r hr hstatus
      exact ⟨s,e,he,hc⟩
    · rintro ⟨s',e,he,hc⟩
      exact (hsubject he hc).2.1
    · obtain ⟨hs,_,htarget,hemail⟩ := hsubject he hc
      exact ⟨hs,htarget,hemail⟩
  · obtain ⟨cid,hcid⟩ := Option.ne_none_iff_exists'.mp hlink
    obtain ⟨r,_,_,_,_,hemail,u,hu,husermail⟩ := (hst.inv.commits c hc).2.identity s cid e he hcid
    exact ⟨u,hu,by rw [husermail]; exact hemail⟩
  · have hcourse := hst.course i
    rw [hprog] at hcourse
    have hknown : (ph c.thread).known ≠ .linked := by
      rw [hi]
      exact hcourse statusCode detail rfl
    have hkept := hst.inv.refused c hc (by rw [hi]; exact hop) hknown
    exact ⟨hkept _ trivial,hkept _ trivial⟩

end executions

abbrev plainEmailText : EmailText := ⟨id,id,id⟩

def sampleTransaction : LoginTransaction := ⟨.login,none,.processing,none,1000,none⟩

-- A legacy account with one user, and two claimed logins.
def sampleWorld : World where
  db
    | .user id => if id = 0 then some ⟨some "a@example.org","A",.active⟩ else none
    | .organization id => if id = 1 then some ⟨"Legacy",.legacy,none,.active⟩ else none
    | .workspace id => if id = 2 then some ⟨1,"Default Workspace",.active⟩ else none
    | .membership id => if id = 3 then some ⟨1,2,0,.owner,.active⟩ else none
    | .loginTransaction id => if id < 2 then some sampleTransaction else none
    | .externalIdentity _ => none
    | .accountLinkRecovery _ => none
    | .recoveryCorrelation _ => none
    | .deviceSession _ => none
  next := 10

theorem sample_linked : let _ := plainEmailText; Linked sampleWorld.db := by
  let _ := plainEmailText
  exact ⟨fun _ _ h => (by cases h),fun _ _ h => (by cases h),fun _ _ _ h => (by cases h),fun _ _ h => by cases h⟩

def sampleSubject : ProviderSubject := ⟨"https://idp.example.org","subject-1"⟩

def sampleCallback (id : Id) (email : Option String) : LoginCallback :=
  ⟨id,sampleSubject,email,⟨true,.other,[]⟩,some 0,none,0⟩

def steps (n : ℕ) (i : Bool) : List (Bool × Time) := List.replicate n (i,0)

-- Two first logins of one subject: the second finds no identity before the first has committed its own.
def firstLogins : Bool → AccountCall
  | false => .login (sampleCallback 0 none) "corr-0"
  | true => .login (sampleCallback 1 none) "corr-1"

theorem racing_login_creates_nothing :
    let _ := plainEmailText
    let _ := DeviceSessions.plainSecretHash
    ∃ tr g, Execution (fun _ _ => True) (Global.init sampleWorld fun i => (firstLogins i).program) tr g ∧
      (g.world.db (.externalIdentity sampleSubject)).isSome ∧
      ∃ accounts : List Account,
        (accounts.Pairwise fun a b => a.subject ≠ b.subject ∧ ∀ k, a.Has k → ¬ b.Has k) ∧
        (∀ a ∈ accounts, a.Stands fun k e => g.world.db k = some e) ∧
        ∀ k, Personal k → g.world.db k ≠ none → sampleWorld.db k ≠ none ∨ ∃ a ∈ accounts, a.Has k := by
  let _ := plainEmailText
  let _ := DeviceSessions.plainSecretHash
  have hplay : ((Global.init sampleWorld fun i => (firstLogins i).program).play (fun _ _ => true)
      (steps 3 true ++ steps 20 false ++ steps 30 true)).map (fun r =>
        (r.2.world.db (.externalIdentity sampleSubject)).isSome) = some true := by decide +kernel
  obtain ⟨⟨tr,g⟩,hp,hidentity⟩ := Option.map_eq_some_iff.mp hplay
  have hrun := (Global.play_run (.refl) _ hp).execution.weaken fun _ _ _ => trivial
  rw [List.nil_append] at hrun
  obtain ⟨⟨accounts,hapart,hstands,howned,_⟩,_⟩ := onboarding_all_or_nothing sample_linked hrun
  exact ⟨tr,g,hrun,hidentity,accounts,hapart,hstands,howned⟩

-- A login that meets the legacy user, and the link that an operator makes of its recovery.
def recoveredLogin : Bool → AccountCall
  | false => .login (sampleCallback 0 (some "a@example.org")) "corr-0"
  | true => .link ⟨"corr-0",sampleSubject,some 0,"legacy_account_migration",true⟩

theorem recovered_login_linked :
    let _ := plainEmailText
    let _ := DeviceSessions.plainSecretHash
    ∃ tr g, Execution (fun _ _ => True) (Global.init sampleWorld fun i => (recoveredLogin i).program) tr g ∧
      ∃ e : ExternalIdentity, g.world.db (.externalIdentity sampleSubject) = some e ∧
        ∃ r : AccountLinkRecovery, g.world.db (.accountLinkRecovery sampleSubject) = some r ∧
          r.status = .completed ∧ r.targetUserId = some e.userId ∧ e.email = some r.verifiedEmail := by
  let _ := plainEmailText
  let _ := DeviceSessions.plainSecretHash
  have hplay : ((Global.init sampleWorld fun i => (recoveredLogin i).program).play (fun _ _ => true)
      (steps 20 false ++ steps 20 true)).map (fun r =>
        (r.2.world.db (.externalIdentity sampleSubject),r.2.world.db (.accountLinkRecovery sampleSubject))) =
      some (some ⟨10,0,some "a@example.org",.active,some "corr-0"⟩,
        some ⟨"a@example.org","corr-0",.completed,some 0,some 0⟩) := by decide +kernel
  obtain ⟨⟨tr,g⟩,hp,hrows⟩ := Option.map_eq_some_iff.mp hplay
  obtain ⟨hidentity,hrecovery⟩ := Prod.mk.inj hrows
  have hrun := (Global.play_run (.refl) _ hp).execution.weaken fun _ _ _ => trivial
  rw [List.nil_append] at hrun
  obtain ⟨hlaw,_⟩ := recovery_links_one_identity sample_linked hrun
  obtain ⟨_,htarget,hemail⟩ := (hlaw _ _ hrecovery).2 _ _ hidentity rfl
  exact ⟨tr,g,hrun,_,hidentity,_,hrecovery,rfl,htarget,hemail⟩

end AiScdc.Onboarding
