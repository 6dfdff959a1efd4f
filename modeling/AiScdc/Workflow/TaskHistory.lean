import AiScdc.Journal
import AiScdc.Transaction.Commits
import AiScdc.Workflow.History
import AiScdc.Workflow.Walks

namespace AiScdc
open Transaction

def transitionOf (taskId : Id) : Option TaskEvent → Option (TaskStatus × TaskStatus)
  | some ⟨owner,.taskTransitioned fromStatus toStatus,_⟩ =>
    if owner = taskId then some (fromStatus,toStatus) else none
  | _ => none

def transitionsIn (db : Db) (taskId eventId : Id) : Option (TaskStatus × TaskStatus) :=
  transitionOf taskId (db (.taskEvent eventId))

-- The task_transitioned events of a task, in the order they were written.
def taskTransitions (w : World) (taskId : Id) : List (TaskStatus × TaskStatus) :=
  Journal.entries (transitionsIn w.db taskId) w.next

abbrev IsHistory (fromStatus : TaskStatus) (transitions : List (TaskStatus × TaskStatus))
    (toStatus : TaskStatus) : Prop :=
  Journal.Path (fun s n => n ∈ s.transitions) fromStatus transitions toStatus

def statusIn (db : Db) (taskId : Id) : Option TaskStatus := (db (.task taskId)).map Task.status

-- The events tell how each task came to its status; for a task in owed they tell it up to there.
structure Recorded (db : Db) (next : ℕ) (owed : Id → Option TaskStatus) : Prop where
  path : ∀ T s, statusIn db T = some s →
    IsHistory .created (Journal.entries (transitionsIn db T) next) ((owed T).getD s)
  absent : ∀ T, statusIn db T = none → Journal.entries (transitionsIn db T) next = []
  below : ∀ T i, transitionsIn db T i ≠ none → i < next

def nothingOwed (_ : Id) : Option TaskStatus := none

def Knowledge.owing (x : Knowledge) (taskId : Id) : Option TaskStatus :=
  if x.task.map Prod.fst = some taskId then x.owed else none

structure HistorySession (x : Knowledge) (p : Pending Row) (w : World) : Prop where
  done : Recorded w.db w.next nothingOwed
  view : Recorded (p.view w.db) w.next x.owing
  known : ∀ T t, x.task = some (T,t) → statusIn (p.view w.db) T = some t.status
  owes : ∀ T t f, x.task = some (T,t) → x.owed = some f → t.status ∈ f.transitions
  numbered : ∀ n, x.numbered = some n →
    n < w.next ∧ ∀ T i, transitionsIn (p.view w.db) T i ≠ none → i < n
  tasks : ∀ T, statusIn w.db T ≠ none → statusIn (p.view w.db) T ≠ none
  grows : ∀ T, ∃ later, Journal.entries (transitionsIn (p.view w.db) T) w.next =
    Journal.entries (transitionsIn w.db T) w.next ++ later

theorem Recorded.same {db db' : Db} {next : ℕ} {owed : Id → Option TaskStatus}
    (h : Recorded db next owed) (hs : ∀ T, statusIn db' T = statusIn db T)
    (ht : ∀ T i, transitionsIn db' T i = transitionsIn db T i) : Recorded db' next owed := by
  have he (T : Id) : Journal.entries (transitionsIn db' T) next =
      Journal.entries (transitionsIn db T) next := Journal.entries_congr (ht T) next
  refine ⟨fun T s hT => ?_,fun T hT => ?_,fun T i hi => h.below T i (ht T i ▸ hi)⟩
  · rw [he]
    exact h.path T s (hs T ▸ hT)
  · rw [he]
    exact h.absent T (hs T ▸ hT)

theorem Recorded.bump {db : Db} {next : ℕ} {owed : Id → Option TaskStatus}
    (h : Recorded db next owed) : Recorded db (next+1) owed := by
  have he (T : Id) : Journal.entries (transitionsIn db T) (next+1) =
      Journal.entries (transitionsIn db T) next := Journal.entries_bump (by
    by_contra hne
    exact Nat.lt_irrefl next (h.below T next hne))
  refine ⟨fun T s hT => ?_,fun T hT => ?_,fun T i hi => Nat.lt_succ_of_lt (h.below T i hi)⟩
  · rw [he]
    exact h.path T s hT
  · rw [he]
    exact h.absent T hT

theorem Recorded.owed {db : Db} {next : ℕ} {owed owed' : Id → Option TaskStatus}
    (h : Recorded db next owed) (he : ∀ T s, statusIn db T = some s → (owed' T).getD s = (owed T).getD s) :
    Recorded db next owed' :=
  ⟨fun T s hT => he T s hT ▸ h.path T s hT,h.absent,h.below⟩

section sessions

variable {x y : Knowledge} {p p' : Pending Row} {w : World}

theorem statusIn_put_ne {k : Key} (l v : Row k) {T : Id} (hk : Key.task T ≠ k) :
    statusIn ((p.put k l v).view w.db) T = statusIn (p.view w.db) T := by
  simp only [statusIn,Pending.view_put_ne p l v w.db hk]

theorem transitionsIn_put_ne {k : Key} (l v : Row k) {i : Id} (hk : Key.taskEvent i ≠ k) (T : Id) :
    transitionsIn ((p.put k l v).view w.db) T i = transitionsIn (p.view w.db) T i := by
  simp only [transitionsIn,Pending.view_put_ne p l v w.db hk]

-- Nothing of the statuses and of the transitions changes.
theorem HistorySession.same (h : HistorySession x p w)
    (hs : ∀ T, statusIn (p'.view w.db) T = statusIn (p.view w.db) T)
    (ht : ∀ T i, transitionsIn (p'.view w.db) T i = transitionsIn (p.view w.db) T i) :
    HistorySession x p' w := by
  refine ⟨h.done,h.view.same hs ht,fun T t he => (hs T).trans (h.known T t he),h.owes,fun n he => ?_,
    fun T hT => hs T ▸ h.tasks T hT,fun T => ?_⟩
  · obtain ⟨hlt,hall⟩ := h.numbered n he
    exact ⟨hlt,fun T i hi => hall T i (ht T i ▸ hi)⟩
  · rw [Journal.entries_congr (ht T)]
    exact h.grows T

def Key.isHistoryTable : Key → Bool
  | .task _ | .taskEvent _ => true
  | _ => false

theorem HistorySession.phase (h : HistorySession x p w) (ht : y.task = x.task) (ho : y.owed = x.owed)
    (hn : y.numbered = x.numbered) : HistorySession y p w := by
  have hw : y.owing = x.owing := by
    funext T
    simp only [Knowledge.owing,ht,ho]
  exact ⟨h.done,hw ▸ h.view,ht ▸ h.known,fun T t f => ht ▸ ho ▸ h.owes T t f,hn ▸ h.numbered,h.tasks,
    h.grows⟩

theorem HistorySession.write (h : HistorySession x p w) {k : Key} (l v : Row k)
    (hk : k.isHistoryTable = false) : HistorySession x (p.put k l v) w := by
  have hnt (T : Id) : Key.task T ≠ k := by
    rintro rfl
    cases hk
  have hne (i : Id) : Key.taskEvent i ≠ k := by
    rintro rfl
    cases hk
  exact h.same (fun T => statusIn_put_ne l v (hnt T)) fun T i => transitionsIn_put_ne l v (hne i) T

theorem HistorySession.note (h : HistorySession x p w) {i : Id} {l : Option TaskEvent} {row : TaskEvent}
    (hg : p.view w.db (.taskEvent i) = none) (hrow : row.payload.isTransition = false) :
    HistorySession x (p.put (.taskEvent i) l (some row)) w := by
  refine h.same (fun T => statusIn_put_ne (k := .taskEvent i) l _ (by simp)) fun T j => ?_
  by_cases hj : j = i
  · subst hj
    obtain ⟨owner,payload,createdAt⟩ := row
    simp only [transitionsIn,Pending.view_put_self,hg]
    cases payload <;> first | rfl | cases hrow
  · exact transitionsIn_put_ne (k := .taskEvent i) l _ (by simpa using hj) T

theorem owing_self (h : x.task = some (T,t)) : x.owing T = x.owed := by
  simp [Knowledge.owing,h]

theorem owing_other (h : x.task.map Prod.fst ≠ some T) : x.owing T = none := by
  simp [Knowledge.owing,h]

theorem HistorySession.newTask (h : HistorySession x p w) {id : Id} {l : Option Task} {row : Task}
    (hg : p.view w.db (.task id) = none) (hrow : row.status = .created) :
    HistorySession x (p.put (.task id) l (some row)) w := by
  have hnone : statusIn (p.view w.db) id = none := by simp [statusIn,hg]
  have hnew : statusIn ((p.put (.task id) l (some row)).view w.db) id = some .created := by
    simp [statusIn,hrow]
  have hs {T : Id} (hT : T ≠ id) : statusIn ((p.put (.task id) l (some row)).view w.db) T =
      statusIn (p.view w.db) T := statusIn_put_ne (k := .task id) l _ (by simpa using hT)
  have ht (T i : Id) : transitionsIn ((p.put (.task id) l (some row)).view w.db) T i =
      transitionsIn (p.view w.db) T i := transitionsIn_put_ne (k := .task id) l _ (by simp) T
  have he (T : Id) := Journal.entries_congr (ht T) w.next
  refine ⟨h.done,⟨fun T s hT => ?_,fun T hT => ?_,fun T i hi => h.view.below T i (ht T i ▸ hi)⟩,
    fun T t hx => ?_,h.owes,fun n hn => ?_,fun T hT => ?_,fun T => he T ▸ h.grows T⟩
  · rw [he]
    by_cases e : T = id
    · subst e
      rw [hnew] at hT
      cases hT
      rw [h.view.absent T hnone,owing_other]
      · rfl
      · intro hx
        obtain ⟨⟨T',t⟩,htask,rfl⟩ := Option.map_eq_some_iff.mp hx
        cases hnone.symm.trans (h.known T' t htask)
    · exact h.view.path T s (hs e ▸ hT)
  · rw [he]
    by_cases e : T = id
    · subst e
      cases hnew.symm.trans hT
    · exact h.view.absent T (hs e ▸ hT)
  · by_cases e : T = id
    · subst e
      cases hnone.symm.trans (h.known T t hx)
    · exact (hs e).trans (h.known T t hx)
  · obtain ⟨hlt,hall⟩ := h.numbered n hn
    exact ⟨hlt,fun T i hi => hall T i (ht T i ▸ hi)⟩
  · by_cases e : T = id
    · subst e
      simp [hnew]
    · exact hs e ▸ h.tasks T hT

theorem HistorySession.keepTask (h : HistorySession x p w) {id : Id} {t n : Task}
    (ht : x.task = some (id,t)) (hs : n.status = t.status) :
    HistorySession { x with task := some (id,n) }
      (p.put (.task id) (some t) (mergeRow (.task id) (some t) (some n) (p.view w.db (.task id)))) w := by
  obtain ⟨u,hu,hut⟩ := Option.map_eq_some_iff.mp (h.known id t ht)
  have hm : (mergeEntity (.task id) t n u).status = u.status := by
    simp [mergeEntity,Task.flush,pick,hs]
  have hsame : HistorySession x (p.put (.task id) (some t) (mergeRow (.task id) (some t) (some n)
    (p.view w.db (.task id)))) w :=
    h.same (fun T => ?_) fun T i => transitionsIn_put_ne _ _ (by simp) T
  · have hw : ({ x with task := some (id,n) } : Knowledge).owing = x.owing := by
      funext T
      simp [Knowledge.owing,ht]
    refine ⟨hsame.done,hw ▸ hsame.view,fun T n' he => ?_,fun T n' f he hf => ?_,hsame.numbered,hsame.tasks,
      hsame.grows⟩
    · cases he
      rw [hs]
      exact hsame.known id t ht
    · cases he
      rw [hs]
      exact h.owes id t f ht hf
  · by_cases e : T = id
    · subst e
      simp [statusIn,hu,mergeRow,hm]
    · exact statusIn_put_ne _ _ (by simpa using e)

theorem HistorySession.moveTask (h : HistorySession x p w) {id : Id} {t n : Task}
    (ht : x.task = some (id,t)) (ho : x.owed = none) (hs : n.status ∈ t.status.transitions)
    {approving : Bool} :
    HistorySession { x with task := some (id,n), owed := some t.status, approving := approving }
      (p.put (.task id) (some t) (mergeRow (.task id) (some t) (some n) (p.view w.db (.task id)))) w := by
  obtain ⟨u,hu,hut⟩ := Option.map_eq_some_iff.mp (h.known id t ht)
  have hne : n.status ≠ t.status := fun he => transitions_irrefl t.status (he ▸ hs)
  have hm : (mergeEntity (.task id) t n u).status = n.status := by
    simp [mergeEntity,Task.flush,pick,hne]
  have hself : statusIn ((p.put (.task id) (some t) (mergeRow (.task id) (some t) (some n)
      (p.view w.db (.task id)))).view w.db) id = some n.status := by
    simp [statusIn,hu,mergeRow,hm]
  have hother {T : Id} (hT : T ≠ id) := statusIn_put_ne (p := p) (w := w) (k := .task id) (some t)
    (mergeRow (.task id) (some t) (some n) (p.view w.db (.task id))) (T := T) (by simpa using hT)
  have htr (T i : Id) := transitionsIn_put_ne (p := p) (w := w) (k := .task id) (some t)
    (mergeRow (.task id) (some t) (some n) (p.view w.db (.task id))) (i := i) (by simp) T
  have he (T : Id) := Journal.entries_congr (htr T) w.next
  refine ⟨h.done,⟨fun T s hT => ?_,fun T hT => ?_,fun T i hi => h.view.below T i (htr T i ▸ hi)⟩,
    fun T t' hx => ?_,fun T t' f hx hf => ?_,fun m hn => ?_,fun T hT => ?_,fun T => he T ▸ h.grows T⟩
  · rw [he]
    by_cases e : T = id
    · subst e
      have hpath := h.view.path T t.status (h.known T t ht)
      rw [owing_self ht,ho] at hpath
      rw [owing_self (t := n) rfl]
      exact hpath
    · have hpath := h.view.path T s (hother e ▸ hT)
      rw [owing_other (by simp [ht,Ne.symm e])] at hpath
      rw [owing_other (by simp [Ne.symm e])]
      exact hpath
  · rw [he]
    by_cases e : T = id
    · subst e
      cases hself.symm.trans hT
    · exact h.view.absent T (hother e ▸ hT)
  · cases hx
    exact hself
  · cases hx
    cases hf
    exact hs
  · obtain ⟨hlt,hall⟩ := h.numbered m hn
    exact ⟨hlt,fun T i hi => hall T i (htr T i ▸ hi)⟩
  · by_cases e : T = id
    · subst e
      simp [hself]
    · exact hother e ▸ h.tasks T hT

theorem HistorySession.transition (h : HistorySession x p w) {T₀ i : Id} {t : Task} {f : TaskStatus}
    {l : Option TaskEvent} {createdAt : Time} (ht : x.task = some (T₀,t)) (ho : x.owed = some f)
    (hn : x.numbered = some i) (hg : p.view w.db (.taskEvent i) = none) :
    HistorySession { x with owed := none, numbered := none }
      (p.put (.taskEvent i) l (some ⟨T₀,.taskTransitioned f t.status,createdAt⟩)) w := by
  let row : TaskEvent := ⟨T₀,.taskTransitioned f t.status,createdAt⟩
  obtain ⟨hlt,hall⟩ := h.numbered i hn
  have hs (T : Id) : statusIn ((p.put (.taskEvent i) l (some row)).view w.db) T =
      statusIn (p.view w.db) T := statusIn_put_ne (k := .taskEvent i) l _ (by simp)
  have hne (T : Id) {j : Id} (hj : j ≠ i) : transitionsIn ((p.put (.taskEvent i) l (some row)).view w.db) T j =
      transitionsIn (p.view w.db) T j := transitionsIn_put_ne (k := .taskEvent i) l _ (by simpa using hj) T
  have hself : transitionsIn ((p.put (.taskEvent i) l (some row)).view w.db) T₀ i = some (f,t.status) := by
    simp [transitionsIn,transitionOf,row]
  have hsnoc : Journal.entries (transitionsIn ((p.put (.taskEvent i) l (some row)).view w.db) T₀) w.next =
      Journal.entries (transitionsIn (p.view w.db) T₀) w.next ++ [(f,t.status)] :=
    Journal.entries_snoc hlt hself (fun j hj => hne T₀ hj) (hall T₀)
  have hother {T : Id} (hT : T ≠ T₀) : Journal.entries
      (transitionsIn ((p.put (.taskEvent i) l (some row)).view w.db) T) w.next =
      Journal.entries (transitionsIn (p.view w.db) T) w.next := by
    refine Journal.entries_congr (fun j => ?_) _
    by_cases hj : j = i
    · subst hj
      simp [transitionsIn,transitionOf,row,hg,Ne.symm hT]
    · exact hne T hj
  have howing (T : Id) : ({ x with owed := none, numbered := none } : Knowledge).owing T = none := by
    simp [Knowledge.owing]
  refine ⟨h.done,⟨fun T s hT => ?_,fun T hT => ?_,fun T j hj => ?_⟩,fun T t' hx => (hs T).trans (h.known T t' hx),
    fun T t' f' _ hf => (by cases hf),fun n hx => (by cases hx),fun T hT => hs T ▸ h.tasks T hT,fun T => ?_⟩
  · rw [hs] at hT
    rw [howing]
    by_cases e : T = T₀
    · subst e
      cases (h.known T t ht).symm.trans hT
      have hpath := h.view.path T t.status hT
      rw [owing_self ht,ho] at hpath
      rw [hsnoc]
      exact hpath.snoc (h.owes T t f ht ho)
    · have hpath := h.view.path T s hT
      rw [owing_other (by simp [ht,Ne.symm e])] at hpath
      rw [hother e]
      exact hpath
  · rw [hs] at hT
    by_cases e : T = T₀
    · subst e
      cases (h.known T t ht).symm.trans hT
    · rw [hother e]
      exact h.view.absent T hT
  · by_cases e : j = i
    · subst e
      exact hlt
    · exact h.view.below T j (hne T e ▸ hj)
  · obtain ⟨later,hl⟩ := h.grows T
    by_cases e : T = T₀
    · subst e
      exact ⟨later ++ [(f,t.status)],by rw [hsnoc,hl,List.append_assoc]⟩
    · exact ⟨later,by rw [hother e,hl]⟩

theorem HistorySession.bump (h : HistorySession x p w) : HistorySession x p w.bump := by
  have he {db : Db} {owed : Id → Option TaskStatus} (hr : Recorded db w.next owed) (T : Id) :
      Journal.entries (transitionsIn db T) (w.next+1) = Journal.entries (transitionsIn db T) w.next := by
    refine Journal.entries_bump ?_
    by_contra hne
    exact Nat.lt_irrefl w.next (hr.below T w.next hne)
  refine ⟨h.done.bump,h.view.bump,h.known,h.owes,fun n hn => ?_,h.tasks,fun T => ?_⟩
  · obtain ⟨hlt,hall⟩ := h.numbered n hn
    exact ⟨Nat.lt_succ_of_lt hlt,hall⟩
  · obtain ⟨later,hl⟩ := h.grows T
    exact ⟨later,(he h.view T).trans (hl.trans (by rw [← he h.done T]; rfl))⟩

theorem HistorySession.number (h : HistorySession x p w) :
    HistorySession { x with numbered := some w.next } p w.bump := by
  have hb := h.bump
  refine ⟨hb.done,hb.view,hb.known,hb.owes,fun n hn => ?_,hb.tasks,hb.grows⟩
  cases hn
  exact ⟨Nat.lt_succ_self w.next,fun T i hi => h.view.below T i hi⟩

theorem HistorySession.learn {next : ℕ} (h : HistorySession x p w)
    (hl : Learns (p.view w.db) next x y) : HistorySession y p w := by
  cases hl with
  | task id row hrow ho ha =>
    have hw (z : Knowledge) (hz : z.owed = none) (T : Id) : z.owing T = none := by
      simp [Knowledge.owing,hz]
    refine ⟨h.done,h.view.owed fun T s _ => ?_,fun T t he => ?_,fun T t f _ hf => ?_,h.numbered,h.tasks,
      h.grows⟩
    · rw [hw { x with task := some (id,row) } ho,hw x ho]
    · cases he
      simp [statusIn,hrow]
    · cases ho.symm.trans hf
  | _ => exact h.phase rfl rfl rfl

theorem nothing_owed (ho : x.owed = none) : x.owing = nothingOwed := by
  funext T
  simp [Knowledge.owing,nothingOwed,ho]

theorem Recorded.session (h : Recorded w.db w.next nothingOwed) (ho : x.owed = none)
    (hknown : ∀ T t, x.task = some (T,t) → statusIn w.db T = some t.status)
    (hn : ∀ n, x.numbered = some n → n < w.next ∧ ∀ T i, transitionsIn w.db T i ≠ none → i < n) :
    HistorySession x Pending.empty w where
  done := h
  view := by
    rw [nothing_owed ho]
    exact h
  known := hknown
  owes T t f _ hf := by cases ho.symm.trans hf
  numbered := hn
  tasks T hT := hT
  grows T := ⟨[],by simp⟩

theorem HistorySession.commit (h : HistorySession x p w) (ho : x.owed = none) :
    HistorySession x Pending.empty ⟨p.view w.db,w.next⟩ := by
  have hview := h.view
  rw [nothing_owed ho] at hview
  exact Recorded.session hview ho h.known h.numbered

theorem history_stable : Stable alone workCourse HistorySession where
  env h he := (env_alone.mp he) ▸ h
  bump h := h.bump
  learn h hl := h.learn hl
  miss _ hy := hy.elim
  skip _ hy := hy.elim
  number h hn := by
    subst hn
    exact h.number
  update {x y p w k g s} h hP hg := by
    cases hP with
    | untracked k g s hk => exact h.write _ _ (by cases k <;> first | rfl | cases hk)
    | newTask id row hr => exact h.newTask (by simpa using hg) hr
    | note id row hr => exact h.note (by simpa using hg) hr
    | transition id createdAt ht ho hn => exact h.transition ht ho hn (by simpa using hg)
    | artifact id row => exact h.write _ _ rfl
    | _ => exact (h.write _ _ rfl).phase rfl rfl rfl
  flush {x y p w k l n} h hP hne _ := by
    cases hP with
    | untracked k l n hk => exact h.write _ _ (by cases k <;> first | rfl | cases hk)
    | task id ht hs hk => exact h.keepTask ht hs
    | move id ht ho hs hk ha => exact h.moveTask ht ho hs
    | _ => exact (h.write _ _ rfl).phase rfl rfl rfl
  commit h hP := by
    obtain ⟨ho,_,rfl⟩ := hP
    exact ⟨trivial,h.commit ho⟩
  rollback h hP := by
    subst hP
    exact Recorded.session h.done rfl (fun _ _ ht => by cases ht) fun _ hn => by cases hn

end sessions

section histories

variable [Digest] {w₀ w : World}

omit [Digest] in
theorem Untouched.recorded (h : Untouched w₀) : Recorded w₀.db w₀.next nothingOwed := by
  have hs (T : Id) : statusIn w₀.db T = none := by simp [statusIn,h.rows (.task T) rfl]
  have ht (T i : Id) : transitionsIn w₀.db T i = none := by
    simp only [transitionsIn,h.rows (.taskEvent i) rfl]
    rfl
  refine ⟨fun T s hT => ?_,fun T _ => ?_,fun T i hi => (hi (ht T i)).elim⟩
  · cases (hs T).symm.trans hT
  · rw [Journal.entries_congr (ht T)]
    simp [Journal.entries]

theorem Recorded.op (h : Recorded w.db w.next nothingOwed) (clock : ℕ → Time) (o : WorkflowOp) :
    (∃ y, HistorySession y (exec clock o.program ⟨w,Pending.empty,0⟩).2.pend
      (exec clock o.program ⟨w,Pending.empty,0⟩).2.world) ∧
      ∀ c ∈ commits clock o.program ⟨w,Pending.empty,0⟩, CommitOf workCourse HistorySession c :=
  exec_writes history_stable clock o.program o.walks
    (Recorded.session h rfl (fun _ _ ht => by cases ht) fun _ hn => by cases hn)

theorem Reached.recorded (hw : Untouched w₀) (h : Reached w₀ w) : Recorded w.db w.next nothingOwed := by
  induction h with
  | start => exact hw.recorded
  | op clock o _ ih =>
    obtain ⟨⟨y,hy⟩,_⟩ := ih.op clock o
    exact hy.done

omit [Digest] in
theorem Recorded.history (h : Recorded w.db w.next nothingOwed) {T : Id} {t : Task}
    (ht : w.db (.task T) = some t) : IsHistory .created (taskTransitions w T) t.status :=
  h.path T t.status (by simp [statusIn,ht])

omit [Digest] in
theorem CommitOf.history {c : World × World} (h : CommitOf workCourse HistorySession c) :
    Recorded c.1.db c.1.next nothingOwed ∧ Recorded c.2.db c.2.next nothingOwed ∧
      ∀ T t, c.1.db (.task T) = some t → ∃ t' later, c.2.db (.task T) = some t' ∧
        taskTransitions c.2 T = taskTransitions c.1 T ++ later ∧ IsHistory t.status later t'.status := by
  obtain ⟨x,y,p,hs,⟨ho,_,_⟩,hc⟩ := h
  have hafter : Recorded c.2.db c.2.next nothingOwed := by
    rw [hc]
    exact (hs.commit ho).done
  refine ⟨hs.done,hafter,fun T t ht => ?_⟩
  have hstatus : statusIn c.2.db T ≠ none := by
    rw [hc]
    exact hs.tasks T (by simp [statusIn,ht])
  obtain ⟨t',ht',_⟩ := Option.map_eq_some_iff.mp (Option.ne_none_iff_exists'.mp hstatus).choose_spec
  obtain ⟨later,hl⟩ := hs.grows T
  have hlater : taskTransitions c.2 T = taskTransitions c.1 T ++ later := by
    rw [hc]
    exact hl
  have hpath := hafter.history ht'
  rw [hlater] at hpath
  exact ⟨t',later,ht',hlater,(hs.done.history ht).after hpath⟩

theorem task_history_is_path (hw : Untouched w₀) (h : Reached w₀ w) :
    (∀ T t, w.db (.task T) = some t → IsHistory .created (taskTransitions w T) t.status) ∧
    (∀ T, w.db (.task T) = none → taskTransitions w T = []) ∧
    ∀ (clock : ℕ → Time) (o : WorkflowOp), ∀ c ∈ commits clock o.program ⟨w,Pending.empty,0⟩,
      (∀ T t, c.2.db (.task T) = some t → IsHistory .created (taskTransitions c.2 T) t.status) ∧
      ∀ T t, c.1.db (.task T) = some t → ∃ t' later, c.2.db (.task T) = some t' ∧
        taskTransitions c.2 T = taskTransitions c.1 T ++ later ∧ IsHistory t.status later t'.status := by
  have hr := h.recorded hw
  refine ⟨fun T t ht => hr.history ht,fun T hT => hr.absent T (by simp [statusIn,hT]),fun clock o c hc => ?_⟩
  obtain ⟨_,hafter,hgrows⟩ := CommitOf.history ((hr.op clock o).2 c hc)
  exact ⟨fun T t ht => hafter.history ht,hgrows⟩

end histories

theorem task_history_is_path_reviewed :
    let _ := plainDigest
    ∃ t, (playWork workWorld (timed bothReviewed)).db (.task 4) = some t ∧ t.status = .approved ∧
      IsHistory .created (taskTransitions (playWork workWorld (timed bothReviewed)) 4) t.status := by
  intro _
  have hreached : Reached workWorld (playWork workWorld (timed bothReviewed)) := Reached.start.plays _
  have hstatus : ((playWork workWorld (timed bothReviewed)).db (.task 4)).map Task.status =
      some .approved := by decide +kernel
  generalize playWork workWorld (timed bothReviewed) = w at hreached hstatus ⊢
  obtain ⟨t,ht,hs⟩ := Option.map_eq_some_iff.mp hstatus
  exact ⟨t,ht,hs,(task_history_is_path work_untouched hreached).1 4 t ht⟩

end AiScdc
