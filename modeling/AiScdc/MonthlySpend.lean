import AiScdc.Calendar
import AiScdc.Transaction.Timed
import AiScdc.Wallet

namespace AiScdc
open Transaction Finset

def monthShare (workspaceId : Id) (now : Time) (row : Option BudgetReservation) : ℤ :=
  row.elim 0 fun r =>
    (if r.workspaceId = workspaceId ∧ r.status = .reserved ∧
        monthStart now ≤ r.createdAt ∧ r.createdAt < nextMonthStart now
      then r.reservedCents else 0) +
    (if r.workspaceId = workspaceId ∧ r.status = .settled ∧
        r.settledAt.any (fun t => monthStart now ≤ t ∧ t < nextMonthStart now)
      then r.settledCents else 0)

def monthTotal (db : Db) (next : ℕ) (workspaceId : Id) (now : Time) : ℤ :=
  ∑ ρ ∈ range next, monthShare workspaceId now (db (.budgetReservation ρ))

theorem sum_filterMap_range (f : ℕ → Option ℤ) (n : ℕ) :
    ((List.range n).filterMap f).sum = ∑ i ∈ range n, (f i).getD 0 := by
  induction n with
  | zero => rfl
  | succ n ih =>
    rw [List.range_succ,List.filterMap_append,List.sum_append,ih,sum_range_succ]
    cases h : f n <;> simp [h]

section readings

variable {clock : ℕ → Time} {n : ℕ} {s : Stage Row}

theorem timed_monthTotal {workspaceId : Id} {Q : ℤ → ℕ → Stage Row → Prop}
    {E : Exn → ℕ → Stage Row → Prop}
    (h : ∀ n', Q (monthTotal s.current s.next workspaceId (clock n)) n' s) :
    Timed clock n (currentMonthReservedAndSettledCents workspaceId) Q E s := by
  refine timed_bind (timed_utcNow (timed_pure ?_))
  refine timed_serial (serial_bind (serial_selectWhere (serial_bind (serial_selectWhere ?_))))
  refine serial_pure fun n' => ?_
  rw [sum_filterMap_range,sum_filterMap_range,← sum_add_distrib]
  convert h n' using 2
  refine sum_congr rfl fun ρ _ => ?_
  cases s.current (.budgetReservation ρ) with
  | none => rfl
  | some r =>
    simp only [monthShare,Option.elim,Option.bind]
    congr 1 <;> split <;> rfl

theorem timed_activeReservation {cloudRun : CloudRun}
    {Q : Option (Id × BudgetReservation) → ℕ → Stage Row → Prop} {E : Exn → ℕ → Stage Row → Prop}
    (h : Q (activeReservation s.current cloudRun) n s) :
    Timed clock n (activeReservationForCloudRun cloudRun) Q E s := by
  unfold activeReservationForCloudRun
  unfold activeReservation reservationOf at h
  cases hid : cloudRun.budgetReservationId with
  | none =>
    rw [hid] at h
    exact timed_pure h
  | some ρ =>
    refine timed_bind (timed_select (timed_pure ?_))
    cases hr : s.current (.budgetReservation ρ) with
    | none => exact timed_pure (by simpa [hid,hr] using h)
    | some r =>
      by_cases hs : r.status = .reserved
      · simp only [hs,if_true]
        exact timed_pure (by simpa [hid,hr,hs,Option.filter] using h)
      · simp only [hs,if_false]
        exact timed_pure (by simpa [hid,hr,hs,Option.filter] using h)

theorem timed_usage {cloudRunId : Id} {cloudRun : CloudRun}
    {Q : List UsageMeasurement → ℕ → Stage Row → Prop} {E : Exn → ℕ → Stage Row → Prop}
    (h : Q (usageAt s.current s.next cloudRunId cloudRun) n s) :
    Timed clock n (cloudRunUsageMeasurements cloudRunId cloudRun) Q E s :=
  timed_bind (timed_bind (timed_select (timed_pure (timed_pure (timed_pure h)))))

theorem timed_ensure {workspaceId : Id} {cents L : ℤ} (hL : 0 < L)
    {Q : Unit → ℕ → Stage Row → Prop} {E : Exn → ℕ → Stage Row → Prop}
    (hok : ∀ n', (∀ perRun, s.current (.spendLimit workspaceId) = some ⟨L,perRun,true⟩ →
      ∃ i, monthTotal s.current s.next workspaceId (clock i) + cents ≤ L) → Q () n' s)
    (hdeny : ∀ e n', E e n' s) : Timed clock n (ensureSpendLimitAllows workspaceId cents) Q E s := by
  refine timed_bind (timed_serial (serial_get fun n' => ?_))
  cases hrow : (s.current (.spendLimit workspaceId)).filter SpendLimit.active with
  | none =>
    refine timed_pure (hok n' fun perRun h => ?_)
    rw [h] at hrow
    cases hrow
  | some spendLimit =>
    have hlimit (perRun : ℤ) (h : s.current (.spendLimit workspaceId) = some ⟨L,perRun,true⟩) :
        spendLimit.monthlyLimitCents = L := by
      rw [h] at hrow
      cases hrow
      rfl
    dsimp only
    split
    · exact timed_serial (serial_http (hdeny _))
    · split
      · refine timed_bind (timed_monthTotal fun n'' => ?_)
        split
        · exact timed_serial (serial_http (hdeny _))
        · rename_i hle
          refine timed_pure (hok n'' fun perRun h => ⟨n',?_⟩)
          rw [hlimit perRun h] at hle
          exact not_lt.mp hle
      · rename_i hle
        refine timed_pure (hok n' fun perRun h => (hle ?_).elim)
        rw [hlimit perRun h]
        exact hL

end readings

structure Dated (t : Time) (r : BudgetReservation) : Prop where
  reserved : 0 ≤ r.reservedCents
  settled : 0 ≤ r.settledCents
  created : r.createdAt ≤ t
  ended : r.status = .settled → ∀ ended ∈ r.settledAt, ended ≤ t

theorem Dated.later {t t' : Time} {r : BudgetReservation} (h : Dated t r) (ht : t ≤ t') : Dated t' r :=
  ⟨h.reserved,h.settled,h.created.trans ht,fun hs e he => (h.ended hs e he).trans ht⟩

theorem Dated.share_nonneg {t : Time} {r : BudgetReservation} (h : Dated t r) (workspaceId : Id)
    (now : Time) : 0 ≤ monthShare workspaceId now (some r) := by
  have hr := h.reserved
  have hs := h.settled
  simp only [monthShare,Option.elim]
  split <;> split <;> omega

theorem Dated.share_past {t : Time} {r : BudgetReservation} (h : Dated t r) {workspaceId : Id}
    {now : Time} (hnow : t < monthStart now) : monthShare workspaceId now (some r) = 0 := by
  have hcreated : ¬ monthStart now ≤ r.createdAt := not_le.mpr (h.created.trans_lt hnow)
  have hended (hs : r.status = .settled) :
      r.settledAt.any (fun t => monthStart now ≤ t ∧ t < nextMonthStart now) = false := by
    cases he : r.settledAt with
    | none => rfl
    | some e =>
      have hnot : ¬ monthStart now ≤ e := not_le.mpr ((h.ended hs e he).trans_lt hnow)
      simp [hnot]
  simp only [monthShare,Option.elim]
  rw [if_neg fun hc => hcreated hc.2.2.1,if_neg fun hc => ?_,add_zero]
  rw [hended hc.2.1] at hc
  cases hc.2.2

structure SpendInv (workspaceId : Id) (L : ℤ) (t : Time) (w : World) : Prop where
  limit : ∃ perRun, w.db (.spendLimit workspaceId) = some ⟨L,perRun,true⟩
  bounded : ∀ ρ, w.next ≤ ρ → w.db (.budgetReservation ρ) = none
  dated : ∀ ρ r, w.db (.budgetReservation ρ) = some r → Dated t r
  within : ∀ now, t ≤ now → monthTotal w.db w.next workspaceId now ≤ L

section invariant

variable {workspaceId : Id} {L : ℤ} {t t' : Time} {w w' : World}

theorem SpendInv.share_nonneg (hI : SpendInv workspaceId L t w) (now : Time) (ρ : Id) :
    0 ≤ monthShare workspaceId now (w.db (.budgetReservation ρ)) := by
  cases hr : w.db (.budgetReservation ρ) with
  | none => exact le_rfl
  | some r => exact (hI.dated ρ r hr).share_nonneg workspaceId now

theorem SpendInv.past (hI : SpendInv workspaceId L t w) {now : Time} (hnow : t < monthStart now) :
    monthTotal w.db w.next workspaceId now = 0 := by
  refine sum_eq_zero fun ρ _ => ?_
  cases hr : w.db (.budgetReservation ρ) with
  | none => rfl
  | some r => exact (hI.dated ρ r hr).share_past hnow

theorem SpendInv.later (hI : SpendInv workspaceId L t w) (ht : t ≤ t') : SpendInv workspaceId L t' w :=
  ⟨hI.limit,hI.bounded,fun ρ r hr => (hI.dated ρ r hr).later ht,
    fun now hnow => hI.within now (ht.trans hnow)⟩

theorem SpendInv.elsewhere (hI : SpendInv workspaceId L t w)
    (hlimit : w'.db (.spendLimit workspaceId) = w.db (.spendLimit workspaceId))
    (hres : ∀ ρ, w'.db (.budgetReservation ρ) = w.db (.budgetReservation ρ))
    (hn : w.next ≤ w'.next) : SpendInv workspaceId L t w' := by
  refine ⟨by rw [hlimit]; exact hI.limit,fun ρ hρ => ?_,fun ρ r hr => hI.dated ρ r (hres ρ ▸ hr),
    fun now hnow => ?_⟩
  · rw [hres ρ]
    exact hI.bounded ρ (hn.trans hρ)
  · have hsame : monthTotal w'.db w'.next workspaceId now = monthTotal w.db w.next workspaceId now :=
      sum_range_grow hn (fun ρ => by rw [hres ρ]) fun ρ hρ => by rw [hI.bounded ρ hρ]; rfl
    rw [hsame]
    exact hI.within now hnow

theorem SpendInv.change (hI : SpendInv workspaceId L t w) (ht : t ≤ t') {ρ v : Id}
    {r' : BudgetReservation} (hframe : ∀ k, ¬ isBudget ρ v k → w'.db k = w.db k)
    (hn : w.next ≤ w'.next) (hρ : ρ < w'.next) (hr' : w'.db (.budgetReservation ρ) = some r')
    (hd : Dated t' r') (hshare : ∀ now, t' ≤ now → monthTotal w.db w.next workspaceId now +
      (monthShare workspaceId now (some r') -
        monthShare workspaceId now (w.db (.budgetReservation ρ))) ≤ L) :
    SpendInv workspaceId L t' w' := by
  have hres {σ : Id} (hσ : σ ≠ ρ) : w'.db (.budgetReservation σ) = w.db (.budgetReservation σ) :=
    hframe _ (by simp [isBudget,isUsage,hσ])
  refine ⟨?_,fun σ hσ => ?_,fun σ r hr => ?_,fun now hnow => ?_⟩
  · rw [hframe (.spendLimit workspaceId) (by simp [isBudget,isUsage])]
    exact hI.limit
  · rw [hres (lt_of_lt_of_le hρ hσ).ne']
    exact hI.bounded σ (hn.trans hσ)
  · by_cases hσ : σ = ρ
    · subst hσ
      rw [hr'] at hr
      cases hr
      exact hd
    · exact (hI.dated σ r (hres hσ ▸ hr)).later ht
  · have htotal : monthTotal w'.db w'.next workspaceId now = monthTotal w.db w.next workspaceId now +
        (monthShare workspaceId now (w'.db (.budgetReservation ρ)) -
          monthShare workspaceId now (w.db (.budgetReservation ρ))) :=
      sum_range_point hn hρ (fun σ hσ => by rw [hres hσ]) fun σ hσ => by
        rw [hI.bounded σ hσ]
        rfl
    rw [htotal,hr']
    exact hshare now hnow

theorem SpendInv.below (hI : SpendInv workspaceId L t w) {ρ : Id} {r : BudgetReservation}
    (hr : w.db (.budgetReservation ρ) = some r) : ρ < w.next := by
  by_contra hle
  rw [hI.bounded ρ (not_lt.mp hle)] at hr
  cases hr

theorem SpendInv.summarized (hI : SpendInv workspaceId L t w) {p : Pending Row} {u : World}
    {cloudRunId : Id} (hu : w = ⟨p.view u.db,u.next⟩) {loaded new : CloudRun} :
    wp alone (do
      flush (.cloudRun cloudRunId) loaded new
      commit) (fun _ _ w' => SpendInv workspaceId L t w')
      (fun _ _ w' => SpendInv workspaceId L t w') p u := by
  rw [wp_monad_bind]
  refine flush_framed fun p' hf => ?_
  rw [wp_commit]
  refine hI.elsewhere ?_ (fun ρ => ?_) (by rw [hu])
  · rw [hu]
    exact hf.view (by simp)
  · rw [hu]
    exact hf.view (by simp)

theorem SpendInv.timedSummary (hI : SpendInv workspaceId L t w) {clock : ℕ → Time} {n : ℕ}
    {s : Stage Row} (hw : w = ⟨s.current,s.next⟩) {cloudRunId : Id} {loaded new : CloudRun} :
    Timed clock n (do
      flush (.cloudRun cloudRunId) loaded new
      commit) (fun _ _ s' => SpendInv workspaceId L t s'.world)
      (fun _ _ s' => SpendInv workspaceId L t s'.world) s := by
  refine timed_serial fun p u hu => ?_
  subst hu
  exact wp_mono _ (fun _ _ _ h _ => h) (fun _ _ _ h _ => h) (hI.summarized hw)

theorem SpendInv.grant (hI : SpendInv workspaceId L t w) (ctx : Option AuthContext) (amount : ℕ) :
    wp alone (WalletOp.grant ctx amount).program (fun _ _ w' => SpendInv workspaceId L t w')
      (fun _ _ w' => SpendInv workspaceId L t w') Pending.empty w := by
  refine grant_rule (fun _ => hI) fun ws db' _ hframe _ => ?_
  exact hI.elsewhere (hframe _ (by simp [isWallet])) (fun ρ => hframe _ (by simp [isWallet])) le_rfl

theorem SpendInv.release (hI : SpendInv workspaceId L t w) (cloudRunId : Id) (cloudRun : CloudRun) :
    wp alone (WalletOp.release cloudRunId cloudRun).program
      (fun _ _ w' => SpendInv workspaceId L t w') (fun _ _ w' => SpendInv workspaceId L t w')
      Pending.empty w := by
  rw [WalletOp.program,wp_monad_bind]
  refine release_rule (fun _ => hI.summarized rfl) fun ρ r now p' ha hf hr hb => ?_
  obtain ⟨_,hold,hs⟩ := activeReservation_some ha
  have hd := hI.dated ρ r hold
  refine SpendInv.summarized (w := ⟨p'.view w.db,w.next⟩) ?_ rfl
  refine hI.change le_rfl (fun k hk => hf.view hk) le_rfl (hI.below hold) hr
    ⟨hd.reserved,le_rfl,hd.created,fun h => by simp [released] at h⟩ fun later hlater => ?_
  have hnone : monthShare workspaceId later (some (released r now)) = 0 := by
    simp [monthShare,released]
  have hwas := hI.share_nonneg later ρ
  have htotal := hI.within later hlater
  rw [hnone]
  omega

-- The month in which a settlement happens is the month in which its reservation was made.
def SettlesInMonth (workspaceId : Id) (clock : ℕ → Time) (o : WalletOp) (w : World) : Prop :=
  match o with
  | .settle _ cloudRun => ∀ ρ r, activeReservation w.db cloudRun = some (ρ,r) →
      r.workspaceId = workspaceId → monthStart (clock 0) ≤ r.createdAt
  | _ => True

theorem share_reserved {r : BudgetReservation} {later : Time} (hs : r.status = .reserved) :
    monthShare workspaceId later (some r) = if r.workspaceId = workspaceId ∧
      monthStart later ≤ r.createdAt ∧ r.createdAt < nextMonthStart later
      then r.reservedCents else 0 := by
  simp [monthShare,hs]

theorem share_settled {r : BudgetReservation} {cents : ℤ} {now later : Time} :
    monthShare workspaceId later (some (settled r cents now)) = if r.workspaceId = workspaceId ∧
      monthStart later ≤ now ∧ now < nextMonthStart later then cents else 0 := by
  simp [monthShare,settled]

theorem settled_share {r : BudgetReservation} {cents : ℤ} {now later : Time}
    (hr : 0 ≤ r.reservedCents) (hs : r.status = .reserved) (hle : cents ≤ r.reservedCents)
    (hcreated : r.createdAt ≤ later)
    (hmonth : r.workspaceId = workspaceId → monthStart now ≤ r.createdAt) :
    monthShare workspaceId later (some (settled r cents now)) ≤
      monthShare workspaceId later (some r) := by
  rw [share_settled,share_reserved hs]
  split
  · rename_i hin
    obtain ⟨hws,hlo,hhi⟩ := hin
    have hbegan := hmonth hws
    rw [(month_unique hlo hhi).1] at hbegan
    rw [if_pos ⟨hws,hbegan,hcreated.trans_lt (month_contains later).2⟩]
    exact hle
  · split
    · exact hr
    · exact le_rfl

theorem SpendInv.settle (hI : SpendInv workspaceId L t w) {clock : ℕ → Time}
    (hclock : ∀ i, t ≤ clock i ∧ clock i ≤ t') {cloudRunId : Id} {cloudRun : CloudRun}
    (hmonth : SettlesInMonth workspaceId clock (.settle cloudRunId cloudRun) w) :
    SpendInv workspaceId L t'
      (perform clock (WalletOp.settle cloudRunId cloudRun).program w).2 := by
  obtain ⟨hlo,hhi⟩ := hclock 0
  refine perform_timed_inv (timed_bind ?_)
  rw [settle_eq]
  refine timed_bind (timed_activeReservation ?_)
  cases ha : activeReservation (Stage.start w).current cloudRun with
  | none => exact timed_pure ((hI.later (hlo.trans hhi)).timedSummary rfl)
  | some entry =>
    obtain ⟨ρ,r⟩ := entry
    obtain ⟨_,hold,hs⟩ := activeReservation_some ha
    have hd := hI.dated ρ r hold
    refine timed_bind (timed_usage (timed_bind (timed_utcNow (timed_pure ?_))))
    refine timed_serial fun p u hu => ?_
    have hdb : p.view u.db = w.db := congrArg Stage.current hu
    have hnext : u.next = w.next := congrArg Stage.next hu
    refine settleAt_rule (by rw [hdb]; exact hold) hs (usageAt_types _ _ _ _) fun p' hf hset n' => ?_
    have hmeasured := usageAt_nonneg (Stage.start w).current (Stage.start w).next cloudRunId cloudRun
    generalize usageAt _ _ _ _ = usage at hset hmeasured
    refine SpendInv.timedSummary (w := ⟨p'.view u.db,u.next⟩) ?_ rfl
    have hle : billableCents usage r ≤ r.reservedCents := min_le_right _ _
    refine hI.change (v := r.workspaceId) (hlo.trans hhi) (fun k hk => ?_) hnext.ge
      (hnext ▸ hI.below hold) hset.reservation
      ⟨hd.reserved,le_min hmeasured hd.reserved,hd.created.trans (hlo.trans hhi),?_⟩
      fun later hlater => ?_
    · exact (hf.view hk).trans (congrFun hdb k)
    · rintro - e he
      obtain rfl := Option.mem_some.mp he
      exact hhi
    · have hwithin := hI.within later ((hlo.trans hhi).trans hlater)
      have hshare : monthShare workspaceId later (some (settled r (billableCents usage r) (clock 0))) ≤
          monthShare workspaceId later (some r) := settled_share hd.reserved hs hle
        (hd.created.trans ((hlo.trans hhi).trans hlater)) (hmonth ρ r ha)
      change w.db (.budgetReservation ρ) = some r at hold
      rw [hold]
      omega

theorem SpendInv.reserved (hI : SpendInv workspaceId L t w) {clock : ℕ → Time} {v projectId taskId : Id}
    {wallet : CreditWallet} {now : Time} (hclock : ∀ i, t ≤ clock i ∧ clock i ≤ t')
    (hnow : t ≤ now ∧ now ≤ t')
    (hchecked : v = workspaceId → ∃ i, monthTotal w.db w.next workspaceId (clock i) +
      defaultCloudRunReservationCents ≤ L) :
    SpendInv workspaceId L t' (((Stage.start w).bump.write (.creditWallet v) (some wallet)).write
      (.budgetReservation w.next) (some (newReservation v projectId taskId now))).commit.world := by
  have ht : t ≤ t' := hnow.1.trans hnow.2
  have hnone : w.db (.budgetReservation w.next) = none := hI.bounded w.next le_rfl
  refine hI.change (ρ := w.next) (v := v) ht (fun k hk => ?_) (Nat.le_succ _) (Nat.lt_succ_self _)
    (Function.update_self ..)
    ⟨by simp [newReservation,defaultCloudRunReservationCents],le_rfl,hnow.2,fun h => by simp [newReservation] at h⟩
    fun later hlater => ?_
  · simp only [isBudget,not_or] at hk
    exact (Stage.write_ne _ _ _ hk.1).trans (Stage.write_ne _ _ _ hk.2.1)
  · rw [hnone,share_reserved rfl]
    have hold := hI.within later (ht.trans hlater)
    change _ + ((if v = workspaceId ∧ monthStart later ≤ now ∧ now < nextMonthStart later then
      defaultCloudRunReservationCents else 0) - 0) ≤ L
    split
    · rename_i hin
      obtain ⟨hv,-,-⟩ := hin
      obtain ⟨i,hi⟩ := hchecked hv
      obtain ⟨hlo,hhi⟩ := hclock i
      by_cases hmonth : monthStart later ≤ clock i
      · have hsame := month_unique hmonth ((hhi.trans hlater).trans_lt (month_contains later).2)
        have htotal : monthTotal w.db w.next workspaceId (clock i) =
            monthTotal w.db w.next workspaceId later := by
          unfold monthTotal monthShare
          rw [hsame.1,hsame.2]
        omega
      · have hzero : monthTotal w.db w.next workspaceId later = 0 := hI.past (hlo.trans_lt (not_le.mp hmonth))
        have hpos : 0 ≤ monthTotal w.db w.next workspaceId (clock i) :=
          sum_nonneg fun ρ _ => hI.share_nonneg _ ρ
        omega
    · omega

theorem SpendInv.reserve (hI : SpendInv workspaceId L t w) (hL : 0 < L) {clock : ℕ → Time}
    (hclock : ∀ i, t ≤ clock i ∧ clock i ≤ t') (ctx : Option AuthContext) (projectId taskId : Id) :
    SpendInv workspaceId L t'
      (perform clock (WalletOp.reserve ctx projectId taskId).program w).2 := by
  have hkept := hI.later ((hclock 0).1.trans (hclock 0).2)
  refine perform_timed_inv (timed_bind ?_)
  cases ctx with
  | none => exact timed_serial (serial_bind (serial_http fun _ => hkept))
  | some c =>
    refine timed_bind (timed_pure (timed_bind (timed_ensure hL (fun n hn => ?_) fun _ _ => hkept)))
    refine timed_bind (timed_bind (timed_select (timed_pure ?_)))
    cases hwallet : (Stage.start w).current (.creditWallet c.workspaceId) with
    | none => exact timed_serial (serial_http fun _ => hkept)
    | some wallet =>
      by_cases hpos : wallet.balanceCents ≤ 0
      · simp only [hpos,if_true]
        exact timed_serial (serial_http fun _ => hkept)
      simp only [hpos,if_false]
      refine timed_pure ?_
      by_cases hlow : wallet.balanceCents < defaultCloudRunReservationCents
      · simp only [hlow,if_true]
        exact timed_serial (serial_http fun _ => hkept)
      simp only [hlow,if_false]
      refine timed_bind (timed_utcNow (timed_pure ?_))
      refine timed_bind (timed_serial (serial_fresh fun n' => ?_))
      refine timed_bind (timed_utcNow (timed_pure ?_))
      refine timed_serial (serial_bind (serial_flushRow hwallet ?_))
      have hnone : w.db (.budgetReservation w.next) = none := hI.bounded w.next le_rfl
      refine serial_bind (serial_insert ?_ (serial_pure fun n'' => timed_serial
        (serial_commitNow fun _ => ?_)))
      · rw [Stage.write_ne _ _ _ (by simp)]
        exact hnone
      · refine hI.reserved hclock (hclock _) fun hv => ?_
        obtain ⟨perRun,hlimit⟩ := hI.limit
        obtain ⟨i,hi⟩ := hn perRun (hv ▸ hlimit)
        exact ⟨i,hv ▸ hi⟩

theorem SpendInv.step (hI : SpendInv workspaceId L t w) (hL : 0 < L) {clock : ℕ → Time}
    (hclock : ∀ i, t ≤ clock i ∧ clock i ≤ t') {o : WalletOp}
    (hmonth : SettlesInMonth workspaceId clock o w) :
    SpendInv workspaceId L t' (perform clock o.program w).2 := by
  have hkept := hI.later ((hclock 0).1.trans (hclock 0).2)
  cases o with
  | grant ctx amount => exact perform_inv clock _ (hkept.grant ctx amount)
  | reserve ctx projectId taskId => exact hI.reserve hL hclock ctx projectId taskId
  | release cloudRunId cloudRun => exact perform_inv clock _ (hkept.release cloudRunId cloudRun)
  | settle cloudRunId cloudRun => exact hI.settle hclock hmonth

end invariant

-- Every operation reads its clock between the times at which it starts and ends; between two
-- operations anything but the limit of the workspace and the reservations may change.
inductive SpendRun (workspaceId : Id) (L : ℤ) (cond : (ℕ → Time) → WalletOp → World → Prop) :
    Time → World → Prop
  | start {t w perRun} (hlimit : w.db (.spendLimit workspaceId) = some ⟨L,perRun,true⟩)
      (hnone : ∀ ρ, w.db (.budgetReservation ρ) = none) : SpendRun workspaceId L cond t w
  | op {t t' w} (clock : ℕ → Time) (o : WalletOp) (h : SpendRun workspaceId L cond t w)
      (hclock : ∀ i, t ≤ clock i ∧ clock i ≤ t') (hc : cond clock o w) :
      SpendRun workspaceId L cond t' (perform clock o.program w).2
  | elsewhere {t w w'} (h : SpendRun workspaceId L cond t w)
      (hlimit : w'.db (.spendLimit workspaceId) = w.db (.spendLimit workspaceId))
      (hres : ∀ ρ, w'.db (.budgetReservation ρ) = w.db (.budgetReservation ρ))
      (hn : w.next ≤ w'.next) : SpendRun workspaceId L cond t w'

theorem SpendRun.inv {workspaceId : Id} {L : ℤ} {t : Time} {w : World} (hL : 0 < L)
    (h : SpendRun workspaceId L (SettlesInMonth workspaceId) t w) : SpendInv workspaceId L t w := by
  induction h with
  | start hlimit hnone =>
    refine ⟨⟨_,hlimit⟩,fun ρ _ => hnone ρ,fun ρ r hr => ?_,fun now _ => ?_⟩
    · rw [hnone ρ] at hr
      cases hr
    · refine (sum_eq_zero fun ρ _ => ?_).trans_le hL.le
      rw [hnone ρ]
      rfl
  | op clock o _ hclock hc ih => exact ih.step hL hclock hc
  | elsewhere _ hlimit hres hn ih => exact ih.elsewhere hlimit hres hn

theorem monthly_total_within_limit {workspaceId : Id} {L : ℤ} {t : Time} {w : World} (hL : 0 < L)
    (h : SpendRun workspaceId L (SettlesInMonth workspaceId) t w) (clock : ℕ → Time)
    (hclock : ∀ i, t ≤ clock i) :
    ∃ total, perform clock (currentMonthReservedAndSettledCents workspaceId) w = (.ok total,w) ∧
      total ≤ L := by
  have ht : Timed clock 0 (currentMonthReservedAndSettledCents workspaceId)
      (fun total _ s' => s'.world = w ∧ total = monthTotal w.db w.next workspaceId (clock 0))
      (fun _ _ _ => False) (Stage.start w) := timed_monthTotal fun _ => ⟨rfl,rfl⟩
  have hx := perform_timed (Q := fun total w' => w' = w ∧ total = monthTotal w.db w.next workspaceId
    (clock 0)) (E := fun _ _ => False) ht
  revert hx
  generalize perform clock _ w = out
  obtain ⟨r,w'⟩ := out
  cases r with
  | error e => exact False.elim
  | ok total =>
    rintro ⟨rfl,rfl⟩
    exact ⟨_,rfl,(h.inv hL).within _ (hclock 0)⟩

def limitedWorld : World where
  db
    | .spendLimit 1 => some ⟨100,0,true⟩
    | .creditWallet 1 => some ⟨1000,0⟩
    | _ => none
  next := 0

theorem limited_limit : limitedWorld.db (.spendLimit 1) = some ⟨100,0,true⟩ := rfl

-- The last microsecond of January 2026 and the first of February.
def januaryEnd : Time := 1769903999999999
def februaryStart : Time := 1769904000000000

theorem monthly_total_within_limit_reserved :
    ∃ total, perform (fun _ => januaryEnd) (currentMonthReservedAndSettledCents 1)
      (perform (fun _ => januaryEnd) (WalletOp.reserve (some ⟨1,true⟩) 2 3).program limitedWorld).2 =
        (.ok total,(perform (fun _ => januaryEnd)
          (WalletOp.reserve (some ⟨1,true⟩) 2 3).program limitedWorld).2) ∧ total ≤ 100 := by
  refine monthly_total_within_limit (t := januaryEnd) (by decide) ?_ _ fun _ => le_rfl
  exact .op (t := januaryEnd) (fun _ => januaryEnd) _
    (.start limited_limit fun ρ => rfl) (fun _ => ⟨le_rfl,le_rfl⟩) trivial

def reservedRun : CloudRun where
  workspaceId := 1
  projectId := 2
  taskId := 3
  repoId := 4
  localRunId := none
  commandResults := []
  baseBranch := "main"
  headBranch := "head"
  status := .running
  sandboxKind := "fake"
  patchArtifactId := none
  failureReason := none
  cancelRequested := false
  cancelRequestedAt := none
  cancelledAt := none
  workerId := none
  claimedAt := none
  completedAt := none
  queueProvider := .localDb
  remoteWorkerKind := none
  leaseId := none
  leaseExpiresAt := none
  heartbeatAt := none
  attemptCount := 1
  maxAttempts := 3
  lastQueueError := none
  queueMessageId := none
  queueReceipt := none
  runtimeProvider := none
  runtimeJobId := none
  storageProvider := none
  artifactManifestUri := none
  artifactManifestSizeBytes := none
  logStreamUri := none
  logStreamSizeBytes := none
  externalStatus := none
  externalError := none
  callbackTokenHash := none
  callbackTokenExpiresAt := none
  callbackTokenUsedAt := none
  budgetReservationId := some 0
  estimatedCostCents := 100
  actualCostCents := 0
  costSummary := {}
  createdAt := januaryEnd
  updatedAt := januaryEnd

-- The reservation of January is settled in February, after February's limit is reserved.
theorem monthly_limit_exceeded : ∃ t w, SpendRun 1 100 (fun _ _ _ => True) t w ∧
    ∃ total, (perform (fun _ => t) (currentMonthReservedAndSettledCents 1) w).1 = .ok total ∧
      100 < total := by
  refine ⟨februaryStart,_,.op (t := februaryStart) (fun _ => februaryStart) (.settle 5 reservedRun)
    (.op (t := januaryEnd) (fun _ => februaryStart) (.reserve (some ⟨1,true⟩) 2 3)
      (.op (t := januaryEnd) (fun _ => januaryEnd) (.reserve (some ⟨1,true⟩) 2 3)
        (.start limited_limit fun ρ => rfl) ?_ trivial) ?_ trivial) ?_ trivial,
    125,?_,by decide⟩
  · exact fun _ => ⟨le_rfl,le_rfl⟩
  · exact fun _ => ⟨by decide,le_rfl⟩
  · exact fun _ => ⟨le_rfl,le_rfl⟩
  · decide +kernel

end AiScdc
