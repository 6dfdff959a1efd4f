import AiScdc.CloudRunner.RunMachine
import AiScdc.Text.Decimal

namespace AiScdc
open Transaction

variable [Digest] {id : Id} {clock : ℕ → Time} {o : CloudRunOp} {b c : CloudRun}

section texts

omit [Digest] in
theorem cloudRunText_plain (id : Id) : ':' ∉ (cloudRunText id).toList := by
  intro h
  have hmem : ':' ∈ "cloud_run_".toList ++ Nat.toDigits 10 id := by
    simpa [cloudRunText,toString,Nat.repr] using h
  rcases List.mem_append.mp hmem with h | h
  · exact absurd h (by decide)
  · exact absurd (Decimal.digit_of_mem h) (by decide)

omit [Digest] in
theorem protectedWorkerId_plain {data : CloudRunCreate} {workerId : String}
    (h : protectedWorkerId data id = some workerId)
    (hdata : ∀ name, data.runtimeProvider ≠ some (.other name)) : ':' ∉ workerId.toList := by
  have hid := cloudRunText_plain id
  unfold protectedWorkerId at h
  cases hprovider : data.runtimeProvider with
  | none =>
    rw [hprovider] at h
    dsimp only at h
    split at h
    · cases h
      simpa [toString] using hid
    · cases h
  | some provider =>
    rw [hprovider] at h
    cases h
    cases provider with
    | other name => exact (hdata name hprovider).elim
    | aliyunEci => simpa [remoteRuntimeWorkerId,toString] using hid
    | remoteStub => simpa [remoteRuntimeWorkerId,toString] using hid

omit [Digest] in
theorem first_inj {a : Char} {x y u v : List Char} (hx : a ∉ x) (hy : a ∉ y)
    (h : x ++ a :: u = y ++ a :: v) : x = y ∧ u = v := by
  induction x generalizing y with
  | nil =>
    cases y with
    | nil => simpa using h
    | cons d y =>
      simp only [List.nil_append,List.cons_append,List.cons.injEq] at h
      exact (hy (h.1 ▸ List.mem_cons_self)).elim
  | cons d x ih =>
    cases y with
    | nil =>
      simp only [List.nil_append,List.cons_append,List.cons.injEq] at h
      exact (hx (h.1 ▸ List.mem_cons_self)).elim
    | cons e y =>
      simp only [List.cons_append,List.cons.injEq] at h
      obtain ⟨rfl,rfl⟩ := ih (fun hm => hx (List.mem_cons_of_mem d hm))
        (fun hm => hy (List.mem_cons_of_mem e hm)) h.2
      exact ⟨by rw [h.1],rfl⟩

-- Without collisions the stored hash names the worker and the token.
theorem hash_binds (hinj : Function.Injective Digest.sha256) {workerId workerId' token token' : String}
    (hw : ':' ∉ workerId.toList) (hw' : ':' ∉ workerId'.toList)
    (h : hashCallbackToken id workerId token = hashCallbackToken id workerId' token') :
    workerId = workerId' ∧ token = token' := by
  have htext := congrArg String.toList (hinj h)
  simp only [toString,String.toList_append] at htext
  have hrest : workerId.toList ++ ':' :: token.toList = workerId'.toList ++ ':' :: token'.toList := by
    simpa using htext
  obtain ⟨hworker,htoken⟩ := first_inj hw hw' hrest
  exact ⟨String.toList_inj.mp hworker,String.toList_inj.mp htoken⟩

end texts

section frames

omit [Digest] in
theorem delivered_frame (provider : QueueProvider) (receipt : Option String) (leaseId : Id) (t : Time) :
    ∃ queueMessageId queueReceipt externalStatus updatedAt, delivered id c provider receipt leaseId t =
      { c with queueMessageId, queueReceipt, externalStatus, updatedAt } := by
  unfold delivered
  repeat' split
  all_goals exact ⟨_,_,_,_,rfl⟩

omit [Digest] in
theorem completedBy_frame (status : ResultStatus) (s t : Time) :
    ∃ queueReceipt externalStatus updatedAt, completedBy c status s t =
      { c with
        queueReceipt, externalStatus, updatedAt
        callbackTokenUsedAt := if c.callbackTokenHash.isSome then some t else c.callbackTokenUsedAt } := by
  unfold completedBy
  split <;> split <;> exact ⟨_,_,_,rfl⟩

omit [Digest] in
theorem Partly.frame (h : Partly b c) :
    ∃ status patchArtifactId commandResults failureReason completedAt updatedAt,
      c = { b with status, patchArtifactId, commandResults, failureReason, completedAt, updatedAt } := by
  cases h <;> exact ⟨_,_,_,_,_,_,rfl⟩

-- No move changes where a run is queued and where it runs.
theorem RunMove.providers (h : RunMove clock o id (some b) (some c)) :
    c.queueProvider = b.queueProvider ∧ c.runtimeProvider = b.runtimeProvider := by
  have hresummed {d : CloudRun} (hr : Resummed d c)
      (hd : d.queueProvider = b.queueProvider ∧ d.runtimeProvider = b.runtimeProvider) :
      c.queueProvider = b.queueProvider ∧ c.runtimeProvider = b.runtimeProvider := by
    obtain ⟨_,_,rfl⟩ := hr
    exact hd
  cases h with
  | queueRefused _ _ _ hr => exact hresummed hr ⟨rfl,rfl⟩
  | runtimeRefused _ _ _ hr => exact hresummed hr ⟨rfl,rfl⟩
  | leased receipt leaseId n _ _ _ _ =>
    obtain ⟨_,_,_,_,hframe⟩ := delivered_frame _ receipt leaseId (clock n)
    rw [hframe]
    exact ⟨rfl,rfl⟩
  | exhausted _ _ _ _ hr => exact hresummed hr ⟨rfl,rfl⟩
  | cancelledQueued _ _ hr => exact hresummed hr ⟨rfl,rfl⟩
  | accepted m n _ =>
    obtain ⟨_,_,_,hframe⟩ := completedBy_frame _ (clock m) (clock n)
    rw [hframe]
    exact ⟨rfl,rfl⟩
  | finished _ _ _ _ _ _ _ hr => exact hresummed hr ⟨rfl,rfl⟩
  | cancelledAfter _ _ _ _ hr => exact hresummed hr ⟨rfl,rfl⟩
  | preflightFailed _ _ _ _ hx hr =>
    obtain ⟨_,_,_,_,_,_,rfl⟩ := hx.frame
    exact hresummed hr ⟨rfl,rfl⟩
  | _ => exact ⟨rfl,rfl⟩

end frames

section token

-- How one move changes the callback token of a run.
inductive TokenChange (clock : ℕ → Time) (o : CloudRunOp) (id : Id) (b c : CloudRun) : Prop
  | issued {ctx taskId data replies} (workerId : String) (n : ℕ)
      (ho : o = .runner (.enqueue ctx taskId data replies))
      (hworker : protectedWorkerId data id = some workerId) (hplain : ':' ∉ workerId.toList)
      (hnone : b.callbackTokenHash = none)
      (hc : c = b.guarded workerId (hashCallbackToken id workerId replies.callbackToken)
        (clock n + callbackTokenLifetime))
  | kept (hhash : c.callbackTokenHash = b.callbackTokenHash)
      (hexpires : c.callbackTokenExpiresAt = b.callbackTokenExpiresAt)
      (hused : c.callbackTokenUsedAt = b.callbackTokenUsedAt)
  | spent (hhash : c.callbackTokenHash = b.callbackTokenHash)
      (hexpires : c.callbackTokenExpiresAt = b.callbackTokenExpiresAt)
      (hunused : b.callbackTokenUsedAt = none) (hsome : b.callbackTokenHash.isSome = true)
      (hused : c.callbackTokenUsedAt.isSome = true)

theorem TokenChange.keep {d : CloudRun} (hr : Resummed d c)
    (hhash : d.callbackTokenHash = b.callbackTokenHash)
    (hexpires : d.callbackTokenExpiresAt = b.callbackTokenExpiresAt)
    (hused : d.callbackTokenUsedAt = b.callbackTokenUsedAt) : TokenChange clock o id b c := by
  obtain ⟨_,_,rfl⟩ := hr
  exact .kept hhash hexpires hused

-- Where a run ends by cancellation its token is used up, unless it was used before.
theorem TokenChange.revoke {now : Time} (hhash : c.callbackTokenHash = b.callbackTokenHash)
    (hexpires : c.callbackTokenExpiresAt = b.callbackTokenExpiresAt)
    (hused : c.callbackTokenUsedAt = if b.callbackTokenHash.isSome then
      b.callbackTokenUsedAt.or (some now) else b.callbackTokenUsedAt) : TokenChange clock o id b c := by
  cases hsome : b.callbackTokenHash.isSome with
  | false =>
    rw [hsome,if_neg Bool.false_ne_true] at hused
    exact .kept hhash hexpires hused
  | true =>
    rw [hsome,if_pos rfl] at hused
    cases hb : b.callbackTokenUsedAt with
    | none => exact .spent hhash hexpires hb hsome (by simp [hused,hb])
    | some t => exact .kept hhash hexpires (by simp [hused,hb])

theorem RunMove.token (h : RunMove clock o id (some b) (some c)) : TokenChange clock o id b c := by
  cases h with
  | guarded workerId n hworker hdata _ hnone =>
    exact .issued workerId n rfl hworker (protectedWorkerId_plain hworker hdata) hnone rfl
  | queueRefused _ _ _ hr => exact .keep hr rfl rfl rfl
  | runtimeRefused _ _ _ hr => exact .keep hr rfl rfl rfl
  | leased receipt leaseId n _ _ _ _ =>
    obtain ⟨_,_,_,_,hframe⟩ := delivered_frame _ receipt leaseId (clock n)
    rw [hframe]
    exact .kept rfl rfl rfl
  | exhausted _ _ _ _ hr => exact .keep hr rfl rfl rfl
  | cancelledQueued n _ hr =>
    obtain ⟨_,_,rfl⟩ := hr
    exact .revoke rfl rfl rfl
  | accepted m n hl =>
    obtain ⟨_,_,_,hframe⟩ := completedBy_frame _ (clock m) (clock n)
    rw [hframe]
    cases hl.token with
    | unguarded hnone _ => exact .kept rfl rfl (by simp [hnone])
    | checked _ _ hunused _ _ hstored =>
      exact .spent rfl rfl hunused (by simp [hstored]) (by simp [hstored])
  | finished _ _ _ _ _ _ _ hr => exact .keep hr rfl rfl rfl
  | cancelledAfter n _ _ _ hr =>
    obtain ⟨_,_,rfl⟩ := hr
    exact .revoke rfl rfl rfl
  | preflightFailed _ _ _ _ hx hr =>
    obtain ⟨_,_,_,_,_,_,rfl⟩ := hx.frame
    exact .keep hr rfl rfl rfl
  | _ => exact .kept rfl rfl rfl

-- The token has been used up, by a completion or by the end of the run.
structure TokenSpent (c : CloudRun) : Prop where
  hash : c.callbackTokenHash.isSome = true
  used : c.callbackTokenUsedAt.isSome = true

theorem RunMove.spent (h : RunMove clock o id (some b) (some c)) (hb : TokenSpent b) : TokenSpent c := by
  have hused := hb.used
  cases h.token with
  | issued _ _ _ _ _ hnone _ =>
    have hhash := hb.hash
    rw [hnone] at hhash
    cases hhash
  | kept hhash _ hkept => exact ⟨hhash ▸ hb.hash,hkept ▸ hused⟩
  | spent _ _ hunused _ _ =>
    rw [hunused] at hused
    cases hused

def RunSpent (i : Id) (X : Runs) : Prop := ∃ c, X i = some c ∧ TokenSpent c

theorem RunsMove.spent {X Y : Runs} {i : Id} (h : RunsMove clock o X Y) (hX : RunSpent i X) :
    RunSpent i Y := by
  obtain ⟨b,hb,hspent⟩ := hX
  rcases h i with heq | hm
  · exact ⟨b,heq ▸ hb,hspent⟩
  · obtain ⟨d,hd⟩ := hm.lands
    rw [hb,hd] at hm
    exact ⟨d,hd,hm.spent hspent⟩

end token

end AiScdc
