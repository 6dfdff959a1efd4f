import Mathlib.Logic.Relation
import AiScdc.CloudRunLogs.Paging

namespace AiScdc.CloudRunLogs

open AiScdc.ArtifactPlane (UrlText)
open CodePoints (codes)
open TextLines (splitLines)

def LogStore.append (store : LogStore) (entry : CloudRunLogEntry)
    (fresh : entry.id ∉ store.entries.map CloudRunLogEntry.id) : LogStore :=
  { store with
    entries := store.entries ++ [entry]
    ids := by
      rw [List.map_append,List.nodup_append]
      refine ⟨store.ids,List.nodup_singleton _,?_⟩
      intro a ha b hb
      rw [List.mem_singleton.mp hb]
      rintro rfl
      exact fresh ha }

-- `committed` is the store as the last page was read, `consulted` as the last page was read whose
-- cursor did not point into the stream.
structure Reader where
  store : LogStore
  after : Option String
  pages : List CloudRunLogWindowRead
  finished : Bool
  committed : LogStore
  consulted : LogStore

def Reader.start (store : LogStore) : Reader := ⟨store,none,[],false,store,store⟩

section steps

variable [Interpreter] [UrlText] [WordText]

def pointsIntoStream (after : Option String) : Bool :=
  match decodeCursor after with
  | .ok (some (.logStream _)) => true
  | _ => false

inductive Advance (caller : Option LogCaller) (cloudRunId : String) (limit : ℕ) :
    Reader → Reader → Prop
  | append {s : Reader} (entry : CloudRunLogEntry)
      (fresh : entry.id ∉ s.store.entries.map CloudRunLogEntry.id)
      (later : ∀ old ∈ s.store.entries, old.cloudRunId = entry.cloudRunId →
        old.createdAt < entry.createdAt) :
      Advance caller cloudRunId limit s { s with store := s.store.append entry fresh }
  | page {s : Reader} {window : CloudRunLogWindowRead} (unfinished : s.finished = false)
      (h : listCloudRunLogWindow s.store caller cloudRunId s.after limit true = .ok window) :
      Advance caller cloudRunId limit s
        { s with
          after := window.nextCursor
          pages := s.pages ++ [window]
          finished := !window.hasMore
          committed := s.store
          consulted := if pointsIntoStream s.after then s.consulted else s.store }

def Reads (caller : Option LogCaller) (cloudRunId : String) (limit : ℕ) : Reader → Reader → Prop :=
  Relation.ReflTransGen (Advance caller cloudRunId limit)

end steps

def Reader.contents (s : Reader) : List CloudRunLogWindowEntryRead :=
  (s.pages.flatMap CloudRunLogWindowRead.entries).map content

def controlsOf (entries : List CloudRunLogWindowEntryRead) : List CloudRunLogWindowEntryRead :=
  entries.filter fun entry => entry.source = .controlPlane

theorem controlsOf_shown (rows : List CloudRunLogEntry) :
    controlsOf (rows.map shown) = rows.map shown := by
  apply List.filter_eq_self.mpr
  intro entry he
  obtain ⟨row,_,rfl⟩ := List.mem_map.mp he
  rfl

theorem controlsOf_stream [WordText] {run : CloudRun} {uri text : String}
    {entries : List CloudRunLogWindowEntryRead} (h : entries.Sublist (streamReads run uri text)) :
    controlsOf entries = [] := by
  apply List.filter_eq_nil_iff.mpr
  intro entry he
  obtain ⟨found,_,rfl⟩ := List.mem_map.mp (h.subset he)
  intro hs
  cases of_decide_eq_true hs

theorem controlsOf_append (l r : List CloudRunLogWindowEntryRead) :
    controlsOf (l ++ r) = controlsOf l ++ controlsOf r := List.filter_append ..

section growing

variable {store : LogStore} {run : CloudRun} {entry : CloudRunLogEntry}
  {fresh : entry.id ∉ store.entries.map CloudRunLogEntry.id}

theorem controlRows_append
    (later : ∀ old ∈ store.entries, old.cloudRunId = entry.cloudRunId → old.createdAt < entry.createdAt) :
    ∃ added, controlRows (store.append entry fresh) run = controlRows store run ++ added := by
  by_cases hrun : entry.cloudRunId = run.id
  · have hrows : rowsOf (store.append entry fresh) run = rowsOf store run ++ [entry] := by
      simp [rowsOf,LogStore.append,List.filter_append,hrun]
    refine ⟨[entry],?_⟩
    rw [controlRows,hrows]
    apply Listing.ordered_append_last position (positions_nodup store run)
    intro old hold
    obtain ⟨hmem,hid⟩ := List.mem_filter.mp hold
    have hlt := later old hmem ((of_decide_eq_true hid).trans hrun.symm)
    exact Prod.Lex.toLex_lt_toLex.mpr (.inl hlt)
  · refine ⟨[],?_⟩
    have hrows : rowsOf (store.append entry fresh) run = rowsOf store run := by
      simp [rowsOf,LogStore.append,List.filter_append,hrun]
    rw [List.append_nil,controlRows,hrows,controlRows]

-- The cursor stands behind the first `k` rows.
def StandsAt (rows : List CloudRunLogEntry) (cursor : Option LogWindowCursor) : ℕ → Prop
  | 0 => cursor = none
  | k + 1 => ∃ row, rows[k]? = some row ∧ cursor = some (.controlPlane row.createdAt (codes row.id))

theorem standsAt_append {rows added : List CloudRunLogEntry} {cursor : Option LogWindowCursor} {k : ℕ}
    (h : StandsAt rows cursor k) : StandsAt (rows ++ added) cursor k := by
  cases k with
  | zero => exact h
  | succ k =>
    obtain ⟨row,hrow,hcursor⟩ := h
    exact ⟨row,by rw [List.getElem?_append_left (List.getElem?_eq_some_iff.mp hrow).1,hrow],hcursor⟩

theorem standsAt_le {rows : List CloudRunLogEntry} {cursor : Option LogWindowCursor} {k : ℕ}
    (h : StandsAt rows cursor k) : k ≤ rows.length := by
  cases k with
  | zero => exact Nat.zero_le _
  | succ k =>
    obtain ⟨row,hrow,_⟩ := h
    exact (List.getElem?_eq_some_iff.mp hrow).1

theorem standsAt_behind {rows : List CloudRunLogEntry} {row : CloudRunLogEntry} {k : ℕ} (hk : 0 < k)
    (h : rows[k - 1]? = some row) : StandsAt rows (some (cursorOf (shown row))) k := by
  cases k with
  | zero => exact absurd hk (Nat.lt_irrefl 0)
  | succ k => exact ⟨row,h,rfl⟩

theorem remainingRows_standsAt {cursor : Option LogWindowCursor} {k : ℕ}
    (h : StandsAt (controlRows store run) cursor k) :
    remainingRows store run cursor = (controlRows store run).drop k := by
  cases k with
  | zero =>
    obtain rfl : cursor = none := h
    rfl
  | succ k =>
    obtain ⟨row,hrow,rfl⟩ := h
    obtain ⟨hk,rfl⟩ := List.getElem?_eq_some_iff.mp hrow
    exact Listing.following_getElem position (strict_controlRows store run) hk

theorem standsAt_pointsIntoStream [Interpreter] {after : Option String} {cursor : Option LogWindowCursor}
    {rows : List CloudRunLogEntry} {k : ℕ} (h : StandsAt rows cursor k)
    (hcursor : decodeCursor after = .ok cursor) : pointsIntoStream after = false := by
  rw [pointsIntoStream,hcursor]
  cases k with
  | zero => rw [show cursor = none from h]
  | succ k =>
    obtain ⟨row,_,rfl⟩ := h
    rfl

theorem standsAt_query {rows : List CloudRunLogEntry} {cursor : Option LogWindowCursor} {k : ℕ}
    (h : StandsAt rows cursor k) : queryFails cursor = false := by
  cases k with
  | zero => rw [show cursor = none from h]; rfl
  | succ k =>
    obtain ⟨row,_,rfl⟩ := h
    exact query_cursorOf (shown row)

end growing

section phases

variable [Interpreter] [UrlText] [WordText]
variable {caller : Option LogCaller} {cloudRunId : String} {limit : ℕ} {run : CloudRun} {uri text : String}
variable {s s' : Reader}

structure Readable (caller : Option LogCaller) (cloudRunId : String) (run : CloudRun)
    (uri text : String) (store : LogStore) : Prop where
  found : findRun store caller cloudRunId = .ok run
  stream : readStream store run = .ok (some (uri,text))

inductive Phase (run : CloudRun) (s : Reader) : Prop
  | early (k : ℕ) (cursor : Option LogWindowCursor) (unfinished : s.finished = false)
      (decoded : decodeCursor s.after = .ok cursor)
      (stands : StandsAt (controlRows s.store run) cursor k)
      (delivered : controlsOf s.contents = ((controlRows s.store run).take k).map shown)
  | late (moved : s.finished = false → pointsIntoStream s.after = true)
      (delivered : controlsOf s.contents = (controlRows s.consulted run).map shown)

theorem stream_entryCursor {store : LogStore} {entry : CloudRunLogWindowEntryRead}
    (hread : readStream store run = .ok (some (uri,text))) (h : entry ∈ streamReads run uri text) :
    pointsIntoStream (some (entryCursor entry)) = true := by
  rw [pointsIntoStream,decode_entryCursor (short_streamReads hread h)]
  obtain ⟨found,_,rfl⟩ := List.mem_map.mp h
  rfl

theorem window_turns {store : LogStore} {window : CloudRunLogWindowRead}
    {l r : List CloudRunLogWindowEntryRead} (hread : readStream store run = .ok (some (uri,text)))
    (h : WindowOf limit (l ++ r) window) (hr : r.Sublist (streamReads run uri text))
    (hl : l.length < limit) (hmore : window.hasMore = true) :
    pointsIntoStream window.nextCursor = true := by
  have hlong : limit < (l ++ r).length := of_decide_eq_true (h.hasMore.symm.trans hmore)
  have hnonempty : r.take (limit - l.length) ≠ [] := by
    rw [List.length_append] at hlong
    intro hnil
    have hlength := congrArg List.length hnil
    rw [List.length_take,List.length_nil] at hlength
    omega
  rw [h.nextCursor,if_pos hlong,List.take_append,List.take_of_length_le (le_of_lt hl),
    List.getLast?_append_of_ne_nil _ hnonempty,List.getLast?_eq_some_getLast hnonempty,Option.map_some]
  exact stream_entryCursor hread (hr.subset (List.mem_of_mem_take (List.getLast_mem hnonempty)))

omit [Interpreter] [UrlText] [WordText] in
theorem contents_page (s : Reader) (window : CloudRunLogWindowRead) :
    ((s.pages ++ [window]).flatMap CloudRunLogWindowRead.entries).map content =
      s.contents ++ window.entries.map content := by
  rw [List.flatMap_append,List.map_append,List.flatMap_singleton,Reader.contents]

omit [Interpreter] [UrlText] [WordText] in
theorem more_of_unfinished {more : Bool} (h : (!more) = false) : more = true := by
  rw [← Bool.not_not more,h,Bool.not_false]

omit [UrlText] [WordText] in
theorem phase_append {entry : CloudRunLogEntry}
    {fresh : entry.id ∉ s.store.entries.map CloudRunLogEntry.id}
    (later : ∀ old ∈ s.store.entries, old.cloudRunId = entry.cloudRunId → old.createdAt < entry.createdAt)
    (h : Phase run s) : Phase run { s with store := s.store.append entry fresh } := by
  cases h with
  | early k cursor unfinished decoded stands delivered =>
    obtain ⟨added,hadded⟩ : ∃ added, controlRows (s.store.append entry fresh) run =
        controlRows s.store run ++ added := controlRows_append later
    refine .early k cursor unfinished decoded ?_ ?_
    · exact hadded ▸ standsAt_append stands
    · change controlsOf s.contents = ((controlRows (s.store.append entry fresh) run).take k).map shown
      rw [hadded,List.take_append_of_le_length (standsAt_le stands)]
      exact delivered
  | late moved delivered => exact .late moved delivered

theorem phase_early_page {window : CloudRunLogWindowRead} {k : ℕ} {cursor : Option LogWindowCursor}
    (hlimit : 1 ≤ limit) (hr : Readable caller cloudRunId run uri text s.store)
    (h : listCloudRunLogWindow s.store caller cloudRunId s.after limit true = .ok window)
    (decoded : decodeCursor s.after = .ok cursor) (stands : StandsAt (controlRows s.store run) cursor k)
    (delivered : controlsOf s.contents = ((controlRows s.store run).take k).map shown) :
    Phase run ⟨s.store,window.nextCursor,s.pages ++ [window],!window.hasMore,s.store,s.store⟩ := by
  obtain ⟨found,hfound,hspec⟩ := listCloudRunLogWindow_spec limit hr.found hr.stream decoded
    (standsAt_query stands)
  obtain rfl : found = window := Except.ok.inj (hfound.symm.trans h)
  have hstart : startLine cursor = 0 := by
    cases k with
    | zero => rw [show cursor = none from stands]; rfl
    | succ k => obtain ⟨row,_,rfl⟩ := stands; rfl
  rw [remaining,remainingRows_standsAt stands,hstart,List.drop_zero] at hspec
  have hcontrols : controlsOf (((s.pages ++ [found]).flatMap CloudRunLogWindowRead.entries).map content) =
      ((controlRows s.store run).take (k + limit)).map shown := by
    rw [contents_page,controlsOf_append,delivered,hspec.entries,List.take_append,controlsOf_append,
      controlsOf_stream (List.take_sublist _ _),List.append_nil,← List.map_take,controlsOf_shown,
      List.take_add,List.map_append]
  by_cases hmore : found.hasMore = true
  · by_cases hk : k + limit ≤ (controlRows s.store run).length
    · obtain ⟨row,hlast⟩ : ∃ row, (controlRows s.store run)[k + limit - 1]? = some row :=
        ⟨_,List.getElem?_eq_getElem (by omega)⟩
      have hlong : limit < (((controlRows s.store run).drop k).map shown ++ streamReads run uri text).length :=
        of_decide_eq_true (hspec.hasMore.symm.trans hmore)
      have hnext := hspec.nextCursor
      rw [if_pos hlong,List.take_append_of_le_length (by simp; omega),← List.map_take,List.getLast?_map,
        List.getLast?_eq_getElem?,List.length_take,List.length_drop,
        Nat.min_eq_left (by omega),List.getElem?_take_of_lt (by omega),List.getElem?_drop,
        show k + (limit - 1) = k + limit - 1 by omega,hlast,Option.map_some,Option.map_some] at hnext
      apply Phase.early (k + limit)
      · rw [hmore,Bool.not_true]
      · exact (congrArg decodeCursor hnext).trans (decode_entryCursor (short_shown row))
      · exact standsAt_behind (by omega) hlast
      · exact hcontrols
    · apply Phase.late
      · intro _
        apply window_turns hr.stream hspec (List.Sublist.refl _) _ hmore
        rw [List.length_map,List.length_drop]
        have := standsAt_le stands
        omega
      · exact hcontrols.trans (by rw [List.take_of_length_le (by omega)])
  · have hshort : (((controlRows s.store run).drop k).map shown ++ streamReads run uri text).length ≤ limit := by
      have hfalse := hspec.hasMore.symm.trans (Bool.eq_false_iff.mpr hmore)
      exact Nat.le_of_not_lt (of_decide_eq_false hfalse)
    rw [List.length_append,List.length_map,List.length_drop] at hshort
    apply Phase.late
    · intro hunfinished
      exact absurd (more_of_unfinished hunfinished) hmore
    · exact hcontrols.trans (by rw [List.take_of_length_le (by omega)])

omit [UrlText] [WordText] in
theorem decoded_stream {after : Option String} (h : pointsIntoStream after = true) :
    ∃ line, decodeCursor after = .ok (some (.logStream line)) := by
  rw [pointsIntoStream] at h
  split at h
  · next line hline => exact ⟨line,hline⟩
  · cases h

theorem phase_late_page {window : CloudRunLogWindowRead} {consulted : LogStore}
    (hlimit : 1 ≤ limit) (hr : Readable caller cloudRunId run uri text s.store)
    (h : listCloudRunLogWindow s.store caller cloudRunId s.after limit true = .ok window)
    (moved : pointsIntoStream s.after = true)
    (delivered : controlsOf s.contents = (controlRows consulted run).map shown) :
    Phase run ⟨s.store,window.nextCursor,s.pages ++ [window],!window.hasMore,s.store,consulted⟩ := by
  obtain ⟨line,decoded⟩ := decoded_stream moved
  obtain ⟨found,hfound,hspec⟩ := listCloudRunLogWindow_spec limit hr.found hr.stream decoded rfl
  obtain rfl : found = window := Except.ok.inj (hfound.symm.trans h)
  have hsub : ((streamReads run uri text).drop (startLine (some (.logStream line)))).Sublist
      (streamReads run uri text) := List.drop_sublist _ _
  apply Phase.late
  · intro hunfinished
    exact window_turns hr.stream hspec hsub (by exact hlimit) (more_of_unfinished hunfinished)
  · change controlsOf (((s.pages ++ [found]).flatMap CloudRunLogWindowRead.entries).map content) = _
    rw [contents_page,controlsOf_append,delivered,hspec.entries]
    have hnone : controlsOf ((remaining s.store run uri text (some (.logStream line))).take limit) = [] :=
      controlsOf_stream ((List.take_sublist _ _).trans hsub)
    rw [hnone,List.append_nil]

theorem phase_advance (hlimit : 1 ≤ limit) (hr : Readable caller cloudRunId run uri text s.store)
    (h : Phase run s) (hs : Advance caller cloudRunId limit s s') :
    Readable caller cloudRunId run uri text s'.store ∧ Phase run s' := by
  cases hs with
  | append entry fresh later => exact ⟨⟨hr.found,hr.stream⟩,phase_append later h⟩
  | page unfinished hw =>
    refine ⟨hr,?_⟩
    cases h with
    | early k cursor _ decoded stands delivered =>
      rw [standsAt_pointsIntoStream stands decoded]
      exact phase_early_page hlimit hr hw decoded stands delivered
    | late moved delivered =>
      rw [moved unfinished]
      exact phase_late_page hlimit hr hw (moved unfinished) delivered

theorem phase_reads {store : LogStore} (hlimit : 1 ≤ limit)
    (hr : Readable caller cloudRunId run uri text store)
    (h : Reads caller cloudRunId limit (.start store) s) :
    Readable caller cloudRunId run uri text s.store ∧ Phase run s := by
  induction h with
  | refl => exact ⟨hr,.early 0 none rfl rfl rfl rfl⟩
  | tail _ hs ih => exact phase_advance hlimit ih.1 ih.2 hs

def timesShown (s : Reader) (entry : CloudRunLogEntry) : ℕ := s.contents.count (shown entry)

omit [Interpreter] [UrlText] [WordText] in
theorem shown_injective : Function.Injective shown := by
  rintro ⟨id,cloudRunId,level,event,message,payload,createdAt⟩
    ⟨id',cloudRunId',level',event',message',payload',createdAt'⟩ h
  simp only [shown,logWindowEntryRead,CloudRunLogWindowEntryRead.mk.injEq,WindowPayload.entry.injEq] at h
  obtain ⟨rfl,rfl,_,rfl,rfl,rfl,rfl,rfl,_⟩ := h
  rfl

omit [Interpreter] [UrlText] [WordText] in
theorem timesShown_delivered {entry : CloudRunLogEntry} (hrun : entry.cloudRunId = run.id)
    (delivered : controlsOf s.contents = (controlRows s.consulted run).map shown) :
    timesShown s entry = if entry ∈ s.consulted.entries then 1 else 0 := by
  have hcontrol : timesShown s entry = (controlsOf s.contents).count (shown entry) := by
    rw [timesShown,controlsOf,List.count_filter]
    rfl
  have hmem : entry ∈ rowsOf s.consulted run ↔ entry ∈ s.consulted.entries := by
    simp [rowsOf,hrun]
  have hnodup : (rowsOf s.consulted run).Nodup := (positions_nodup s.consulted run).of_map
  rw [hcontrol,delivered,List.count_map_of_injective _ _ shown_injective,controlRows,
    (Listing.ordered_perm position _).count_eq,hnodup.count]
  simp only [hmem]

theorem consulted_entries_shown_once {store : LogStore} (hlimit : 1 ≤ limit)
    (hr : Readable caller cloudRunId run uri text store)
    (h : Reads caller cloudRunId limit (.start store) s) (hfinished : s.finished = true)
    (entry : CloudRunLogEntry) (hrun : entry.cloudRunId = run.id) :
    timesShown s entry = if entry ∈ s.consulted.entries then 1 else 0 := by
  cases (phase_reads hlimit hr h).2 with
  | early k cursor unfinished _ _ _ =>
    rw [hfinished] at unfinished
    cases unfinished
  | late _ delivered => exact timesShown_delivered hrun delivered

end phases

section sample

def firstEntry : CloudRunLogEntry := sampleEntry "entry_1" 1

def secondEntry : CloudRunLogEntry := sampleEntry "entry_2" 2

def lateEntry : CloudRunLogEntry := sampleEntry "entry_3" 3

def lineRead (message : String) (line : ℕ) : CloudRunLogWindowEntryRead :=
  ⟨s!"run_1:log-stream:{line}","run_1",.logStream,"info","log_stream",message,.stream (line + 1) sampleUri,
    sampleTime 0,line⟩

def firstLine : CloudRunLogWindowEntryRead := lineRead "token=[redacted]" 0

def lastLine : CloudRunLogWindowEntryRead := lineRead "stop" 1

def remains (store : LogStore) (cursor : Option LogWindowCursor) : List CloudRunLogWindowEntryRead :=
  @remaining sampleWords store sampleRun sampleUri sampleText cursor

def oneEntry : LogStore := sampleStore [firstEntry] (by decide)

def twoEntries : LogStore := sampleStore [firstEntry,secondEntry] (by decide)

def threeEntries : LogStore := sampleStore [firstEntry,secondEntry,lateEntry] (by decide)

def noEntry : LogStore := sampleStore [] (by decide)

def onlyLate : LogStore := sampleStore [lateEntry] (by decide)

-- What is left at the start of each of the pages below.
theorem remains_between : remains oneEntry none = [shown firstEntry,firstLine,lastLine] ∧
    remains twoEntries (cursorOf (shown firstEntry)) = [shown secondEntry,firstLine,lastLine] ∧
    remains twoEntries (cursorOf (shown secondEntry)) = [firstLine,lastLine] ∧
    remains threeEntries (cursorOf firstLine) = [lastLine] := by
  refine ⟨?_,?_,?_,?_⟩ <;> decide +kernel

theorem remains_alone : remains noEntry none = [firstLine,lastLine] ∧
    remains onlyLate (cursorOf firstLine) = [lastLine] := by
  refine ⟨?_,?_⟩ <;> decide +kernel

theorem sample_readable (entries : List CloudRunLogEntry)
    (ids : (entries.map CloudRunLogEntry.id).Nodup) :
    @Readable sampleUrls none "run_1" sampleRun sampleUri sampleText (sampleStore entries ids) :=
  @Readable.mk sampleUrls _ _ _ _ _ _ rfl (sample_reads entries ids)

theorem sample_window (entries : List CloudRunLogEntry) (ids : (entries.map CloudRunLogEntry.id).Nodup)
    {after : Option String} {cursor : Option LogWindowCursor} {rest : List CloudRunLogWindowEntryRead} :
    let _ := sampleInterpreter
    let _ := sampleUrls
    let _ := sampleWords
    decodeCursor after = .ok cursor → queryFails cursor = false →
    remains (sampleStore entries ids) cursor = rest →
    ∃ window, listCloudRunLogWindow (sampleStore entries ids) none "run_1" after 1 true = .ok window ∧
      WindowOf 1 rest window := by
  intro _ _ _ hcursor hquery hrest
  have hread := sample_readable entries ids
  rw [← hrest]
  exact listCloudRunLogWindow_spec 1 hread.found hread.stream hcursor hquery

theorem window_more {entry next : CloudRunLogWindowEntryRead} {rest : List CloudRunLogWindowEntryRead}
    {window : CloudRunLogWindowRead} (h : WindowOf 1 (entry :: next :: rest) window) :
    window.hasMore = true ∧ window.nextCursor = some (entryCursor entry) :=
  ⟨h.hasMore.trans (decide_eq_true (by simp)),h.nextCursor.trans (if_pos (by simp))⟩

theorem window_last {entry : CloudRunLogWindowEntryRead} {window : CloudRunLogWindowRead}
    (h : WindowOf 1 [entry] window) : window.hasMore = false :=
  h.hasMore

-- The last entry is committed between the two lines of the stream.
theorem consulted_entries_shown_once_sample :
    let _ := sampleInterpreter
    let _ := sampleUrls
    let _ := sampleWords
    ∃ s, Reads none "run_1" 1 (.start oneEntry) s ∧ s.finished = true ∧ s.pages.length = 4 ∧
      timesShown s firstEntry = 1 ∧ timesShown s secondEntry = 1 ∧ timesShown s lateEntry = 0 := by
  intro _ _ _
  obtain ⟨first,hfirst,hfirstSpec⟩ := sample_window [firstEntry] (by decide)
    (show decodeCursor none = .ok none from rfl) rfl remains_between.1
  obtain ⟨hmore1,hnext1⟩ := window_more hfirstSpec
  have hdecode1 : decodeCursor first.nextCursor = .ok (some (cursorOf (shown firstEntry))) := by
    rw [hnext1,decode_entryCursor (short_shown _)]
  obtain ⟨second,hsecond,hsecondSpec⟩ := sample_window [firstEntry,secondEntry] (by decide) hdecode1
    (query_cursorOf _) remains_between.2.1
  obtain ⟨hmore2,hnext2⟩ := window_more hsecondSpec
  have hdecode2 : decodeCursor second.nextCursor = .ok (some (cursorOf (shown secondEntry))) := by
    rw [hnext2,decode_entryCursor (short_shown _)]
  obtain ⟨third,hthird,hthirdSpec⟩ := sample_window [firstEntry,secondEntry] (by decide) hdecode2
    (query_cursorOf _) remains_between.2.2.1
  obtain ⟨hmore3,hnext3⟩ := window_more hthirdSpec
  have hdecode3 : decodeCursor third.nextCursor = .ok (some (cursorOf firstLine)) := by
    rw [hnext3,decode_entryCursor (Nat.lt_of_lt_of_le (show 0 + 1 < 10 ^ 7 by decide) seven_digits)]
  obtain ⟨last,hlast,hlastSpec⟩ := sample_window [firstEntry,secondEntry,lateEntry] (by decide) hdecode3
    (query_cursorOf _) remains_between.2.2.2
  have hdone := window_last hlastSpec
  have hstart : Reads none "run_1" 1 (.start oneEntry) (.start oneEntry) := .refl
  have hpage1 := hstart.tail (.page rfl hfirst)
  have happend1 := hpage1.tail (.append secondEntry (show _ ∉ oneEntry.entries.map _ by decide)
    (show ∀ old ∈ oneEntry.entries, _ by decide +kernel))
  have hpage2 := happend1.tail (.page (by rw [hmore1]; rfl) hsecond)
  have hpage3 := hpage2.tail (.page (by rw [hmore2]; rfl) hthird)
  have happend2 := hpage3.tail (.append lateEntry (show _ ∉ twoEntries.entries.map _ by decide)
    (show ∀ old ∈ twoEntries.entries, _ by decide +kernel))
  have hpage4 := happend2.tail (.page (by rw [hmore3]; rfl) hlast)
  have hfinished : (!last.hasMore) = true := by rw [hdone]; rfl
  have hcount (entry : CloudRunLogEntry) (hrun : entry.cloudRunId = sampleRun.id) :=
    consulted_entries_shown_once (by decide) (sample_readable _ (by decide)) hpage4 hfinished entry hrun
  have hpoints : pointsIntoStream third.nextCursor = true := by rw [pointsIntoStream,hdecode3]; rfl
  have hrows : pointsIntoStream second.nextCursor = false := by rw [pointsIntoStream,hdecode2]; rfl
  refine ⟨_,hpage4,hfinished,rfl,(hcount firstEntry rfl).trans ?_,(hcount secondEntry rfl).trans ?_,
    (hcount lateEntry rfl).trans ?_⟩
  all_goals simp only [hpoints,hrows,if_true,Bool.false_eq_true,if_false]
  · exact if_pos (show firstEntry ∈ twoEntries.entries by decide +kernel)
  · exact if_pos (show secondEntry ∈ twoEntries.entries by decide +kernel)
  · exact if_neg (show lateEntry ∉ twoEntries.entries by decide +kernel)

-- Here the entry is the run's only one.
theorem entry_between_stream_pages_lost :
    let _ := sampleInterpreter
    let _ := sampleUrls
    let _ := sampleWords
    ∃ s, Reads none "run_1" 1 (.start noEntry) s ∧ s.finished = true ∧
      lateEntry ∈ s.committed.entries ∧ lateEntry.cloudRunId = sampleRun.id ∧ timesShown s lateEntry = 0 := by
  intro _ _ _
  obtain ⟨first,hfirst,hfirstSpec⟩ := sample_window [] (by decide)
    (show decodeCursor none = .ok none from rfl) rfl remains_alone.1
  obtain ⟨hmore,hnext⟩ := window_more hfirstSpec
  have hdecode : decodeCursor first.nextCursor = .ok (some (cursorOf firstLine)) := by
    rw [hnext,decode_entryCursor (Nat.lt_of_lt_of_le (show 0 + 1 < 10 ^ 7 by decide) seven_digits)]
  obtain ⟨last,hlast,hlastSpec⟩ := sample_window [lateEntry] (by decide) hdecode (query_cursorOf _)
    remains_alone.2
  have hdone := window_last hlastSpec
  have hstart : Reads none "run_1" 1 (.start noEntry) (.start noEntry) := .refl
  have hpaged := hstart.tail (.page rfl hfirst)
  have happended := hpaged.tail (.append lateEntry List.not_mem_nil (by intro old hold; cases hold))
  have hended := happended.tail (.page (by rw [hmore]; rfl) hlast)
  have hcontents : (([] ++ [first] ++ [last]).flatMap CloudRunLogWindowRead.entries).map content =
      [firstLine,lastLine] := by
    simp only [List.nil_append,List.flatMap_append,List.flatMap_singleton,List.map_append,
      hfirstSpec.entries,hlastSpec.entries]
    rfl
  refine ⟨_,hended,by rw [hdone]; rfl,List.mem_singleton_self _,rfl,?_⟩
  exact (congrArg (List.count (shown lateEntry)) hcontents).trans (by decide +kernel)

end sample

end AiScdc.CloudRunLogs
