import AiScdc.CloudRunLogs.Window

namespace AiScdc.CloudRunLogs

open AiScdc.ArtifactPlane (UrlText)
open CodePoints (codes)
open IsoDateTime (DateTime isoformat fromisoformat)
open TextLines (splitLines splitLines_length_le)

section cursors

theorem matches_encoded {bytes : List UInt8} (h : bytes ≠ []) :
    matchesCursorPattern (Base64Url.encode bytes) := by
  simp only [matchesCursorPattern,Bool.and_eq_true,decide_eq_true_eq,List.all_eq_true]
  exact ⟨Base64Url.encode_ne_nil h,Base64Url.encode_mem bytes⟩

theorem utf8Strict_codes {text : List ℕ} (h : CodePoints.Ascii text) :
    ∃ decoded, Percent.utf8Strict (text.map UInt8.ofNat) = some decoded ∧ decoded.map Char.toNat = text := by
  refine ⟨_,Percent.utf8Strict_ascii ?_,?_⟩
  · intro b hb
    obtain ⟨code,hcode,rfl⟩ := List.mem_map.mp hb
    have hlt := h code hcode
    rw [UInt8.lt_iff_toNat_lt,UInt8.toNat_ofNat']
    exact Nat.lt_of_le_of_lt (Nat.mod_le _ _) hlt
  · rw [Percent.asciiText,List.map_map,List.map_map]
    conv_rhs => rw [← List.map_id text]
    apply List.map_congr_left
    intro code hcode
    have hlt := h code hcode
    have hmod : code % 256 = code := Nat.mod_eq_of_lt (by omega)
    have hvalid : Nat.isValidChar code := .inl (by omega)
    have hchar : (Char.ofNat code).toNat = code := congrArg Char.toNat (dif_pos hvalid)
    simp [hmod,hchar]

def cursorOf (entry : CloudRunLogWindowEntryRead) : LogWindowCursor :=
  match entry.source with
  | .controlPlane => .controlPlane entry.createdAt (codes entry.id)
  | .logStream => .logStream (some (entry.sequence + 1))

variable [Interpreter]

theorem loadsCursor_encodeCursor {payload : List (List ℕ × JsonText.Scalar)}
    (h : ∀ entry ∈ payload, JsonText.ReadableField entry) :
    loadsCursor (encodeCursor payload).toList =
      .ok (.object ((JsonText.sorted payload).map JsonText.read)) := by
  have hne : (JsonText.dumps payload).map UInt8.ofNat ≠ [] := by simp [JsonText.dumps]
  obtain ⟨decoded,hdecoded,hcodes⟩ := utf8Strict_codes (JsonText.ascii_dumps payload)
  rw [loadsCursor,encodeCursor,String.toList_ofList,if_pos (matches_encoded hne),
    Base64Url.decode_encode,Option.bind_some,hdecoded]
  change JsonText.loads _ (decoded.map Char.toNat) = _
  rw [hcodes,JsonText.loads_dumps h (Nat.succ_pos _)]

theorem decode_encodeCursor {payload : List (List ℕ × JsonText.Scalar)} {cursor : LogWindowCursor}
    (h : ∀ entry ∈ payload, JsonText.ReadableField entry)
    (hc : cursorFromPayload ((JsonText.sorted payload).map JsonText.read) = some cursor) :
    decodeCursor (some (encodeCursor payload)) = .ok (some cursor) := by
  simp only [decodeCursor,loadsCursor_encodeCursor h,cursorOfValue,hc]

omit [Interpreter] in
theorem readable_cursorFields {source createdAt id streamLine : JsonText.Scalar}
    (hs : JsonText.Readable source) (hc : JsonText.Readable createdAt) (hi : JsonText.Readable id)
    (hl : JsonText.Readable streamLine) :
    ∀ entry ∈ cursorFields source createdAt id streamLine, JsonText.ReadableField entry := by
  intro entry he
  simp only [cursorFields,List.mem_cons,List.not_mem_nil,or_false] at he
  rcases he with rfl | rfl | rfl | rfl
  · exact ⟨CodePoints.scalar_codes _,hs⟩
  · exact ⟨CodePoints.scalar_codes _,hc⟩
  · exact ⟨CodePoints.scalar_codes _,hi⟩
  · exact ⟨CodePoints.scalar_codes _,hl⟩

theorem decode_entryCursor {entry : CloudRunLogWindowEntryRead}
    (h : entry.sequence + 1 < 10 ^ Decimal.maxDigits) :
    decodeCursor (some (entryCursor entry)) = .ok (some (cursorOf entry)) := by
  rw [entryCursor,cursorOf]
  cases entry.source with
  | logStream =>
    apply decode_encodeCursor
    · exact readable_cursorFields (CodePoints.scalar_codes "log_stream") trivial trivial h
    · have hline : ¬ ((entry.sequence : ℤ) + 1 < 0) := by omega
      have hnat : ((entry.sequence : ℤ) + 1).toNat = entry.sequence + 1 := by omega
      have hread : cursorFromPayload ((JsonText.sorted (cursorFields (.str (codes "log_stream")) .null .null
          (.int (entry.sequence + 1)))).map JsonText.read) =
          (streamLineOf (.int (entry.sequence + 1))).map .logStream := rfl
      rw [hread,streamLineOf,if_neg hline,hnat]
      rfl
  | controlPlane =>
    apply decode_encodeCursor
    · exact readable_cursorFields (CodePoints.scalar_codes "control_plane")
        (IsoDateTime.scalar_isoformat entry.createdAt) (CodePoints.scalar_codes entry.id) trivial
    · have hread : cursorFromPayload ((JsonText.sorted (cursorFields (.str (codes "control_plane"))
          (.str (isoformat entry.createdAt)) (.str (codes entry.id)) .null)).map JsonText.read) =
          (fromisoformat (isoformat entry.createdAt)).map fun t => .controlPlane t (codes entry.id) := rfl
      rw [hread,IsoDateTime.fromisoformat_isoformat]
      rfl

end cursors

section sources

def rowsOf (store : LogStore) (run : CloudRun) : List CloudRunLogEntry :=
  store.entries.filter fun entry => entry.cloudRunId = run.id

theorem position_ne {a b : CloudRunLogEntry} (h : a.id ≠ b.id) : position a ≠ position b := by
  intro hp
  have hid : codes a.id = codes b.id := congrArg (fun k => (ofLex k).2) hp
  exact h (CodePoints.codes_injective hid)

theorem positions_nodup (store : LogStore) (run : CloudRun) :
    ((rowsOf store run).map position).Nodup := by
  have hids : store.entries.Pairwise fun a b => a.id ≠ b.id := List.pairwise_map.mp store.ids
  exact List.pairwise_map.mpr ((hids.filter _).imp position_ne)

theorem isAfter_eq (createdAt : DateTime) (id : List ℕ) (entry : CloudRunLogEntry) :
    isAfter createdAt id entry = decide (toLex (createdAt,id) < position entry) := by
  rw [isAfter,position,Bool.eq_iff_iff]
  simp only [Bool.or_eq_true,Bool.and_eq_true,decide_eq_true_eq,Prod.Lex.toLex_lt_toLex,
    eq_comm (a := entry.createdAt)]

def cursorKey : Option LogWindowCursor → Option (DateTime ×ₗ List ℕ)
  | some (.controlPlane createdAt id) => some (toLex (createdAt,id))
  | _ => none

theorem selectedRows_eq (store : LogStore) (run : CloudRun) (cursor : Option LogWindowCursor) :
    selectedRows store run cursor = Listing.following position (cursorKey cursor) (rowsOf store run) := by
  rcases cursor with _ | ⟨createdAt,id⟩ | line
  · rfl
  · change (rowsOf store run).filter (isAfter createdAt id) = _
    exact List.filter_congr fun entry _ => isAfter_eq createdAt id entry
  · rfl

-- A control-plane entry is numbered within its page; what it shows does not depend on the number.
def content (entry : CloudRunLogWindowEntryRead) : CloudRunLogWindowEntryRead :=
  match entry.source with
  | .controlPlane => { entry with sequence := 0 }
  | .logStream => entry

theorem entryCursor_content (entry : CloudRunLogWindowEntryRead) :
    entryCursor (content entry) = entryCursor entry := by
  rw [content]
  cases hs : entry.source with
  | controlPlane => simp only [entryCursor,hs]
  | logStream => rfl

def shown (entry : CloudRunLogEntry) : CloudRunLogWindowEntryRead := logWindowEntryRead entry 0

theorem content_numbered (rows : List CloudRunLogEntry) :
    (rows.zipIdx.map fun found => logWindowEntryRead found.1 found.2).map content = rows.map shown := by
  rw [List.map_map]
  conv_rhs => rw [← List.zipIdx_map_fst 0 rows]
  rw [List.map_map]
  rfl

def controlRows (store : LogStore) (run : CloudRun) : List CloudRunLogEntry :=
  Listing.ordered position (rowsOf store run)

def remainingRows (store : LogStore) (run : CloudRun) (cursor : Option LogWindowCursor) :
    List CloudRunLogEntry :=
  match cursor with
  | some (.logStream _) => []
  | _ => Listing.following position (cursorKey cursor) (controlRows store run)

theorem controlPlaneEntries_content (store : LogStore) (run : CloudRun)
    {cursor : Option LogWindowCursor} (hquery : queryFails cursor = false) (limit : ℕ) :
    ∃ entries, controlPlaneEntries store run cursor limit = .ok entries ∧
      entries.map content = ((remainingRows store run cursor).take limit).map shown := by
  have hordered := Listing.ordered_following position (cursorKey cursor) (positions_nodup store run)
  rcases cursor with _ | ⟨createdAt,id⟩ | line
  · refine ⟨_,rfl,?_⟩
    rw [content_numbered,selectedRows_eq,hordered]
    rfl
  · refine ⟨_,if_neg (by rw [hquery]; exact Bool.false_ne_true),?_⟩
    rw [content_numbered,selectedRows_eq,hordered]
    rfl
  · exact ⟨[],rfl,by simp [remainingRows]⟩

variable [WordText]

def streamReads (run : CloudRun) (uri text : String) : List CloudRunLogWindowEntryRead :=
  (splitLines text).zipIdx.map fun found => streamEntryRead run uri found.1 found.2

theorem logStreamEntries_eq [UrlText] {store : LogStore} {run : CloudRun} {uri text : String}
    (h : readStream store run = .ok (some (uri,text))) (cursor : Option LogWindowCursor) (limit : ℕ) :
    logStreamEntries store run cursor limit =
      .ok (((streamReads run uri text).drop (startLine cursor)).take limit) := by
  rw [logStreamEntries]
  split
  · next hz => rw [hz,List.take_zero]
  · simp only [h,Listing.filter_zipIdx,Nat.sub_zero,List.map_drop]
    rfl

def remaining (store : LogStore) (run : CloudRun) (uri text : String)
    (cursor : Option LogWindowCursor) : List CloudRunLogWindowEntryRead :=
  (remainingRows store run cursor).map shown ++ (streamReads run uri text).drop (startLine cursor)

theorem content_streamReads (run : CloudRun) (uri text : String) :
    ∀ entry ∈ streamReads run uri text, content entry = entry := by
  intro entry he
  obtain ⟨found,_,rfl⟩ := List.mem_map.mp he
  rfl

theorem map_content_stream (run : CloudRun) (uri text : String) 
    {entries : List CloudRunLogWindowEntryRead}
    (h : ∀ entry ∈ entries, entry ∈ streamReads run uri text) : entries.map content = entries := by
  conv_rhs => rw [← List.map_id entries]
  apply List.map_congr_left
  intro entry he
  exact content_streamReads run uri text entry (h entry he)

end sources

section positions

theorem strict_controlRows (store : LogStore) (run : CloudRun) :
    Listing.Strict position (controlRows store run) :=
  Listing.strict_ordered position (positions_nodup store run)

variable [WordText] {store : LogStore} {run : CloudRun} {uri text : String}

def allReads (store : LogStore) (run : CloudRun) (uri text : String) :
    List CloudRunLogWindowEntryRead :=
  (controlRows store run).map shown ++ streamReads run uri text

theorem remaining_none : remaining store run uri text none = allReads store run uri text := rfl

theorem streamReads_getElem {n : ℕ} (hn : n < (streamReads run uri text).length) :
    cursorOf (streamReads run uri text)[n] = .logStream (some (n + 1)) := by
  simp [streamReads,cursorOf,streamEntryRead]

theorem remaining_cursorOf {n : ℕ} (hn : n < (allReads store run uri text).length) :
    remaining store run uri text (some (cursorOf (allReads store run uri text)[n])) =
      (allReads store run uri text).drop (n + 1) := by
  by_cases hcontrol : n < (controlRows store run).length
  · have hentry : (allReads store run uri text)[n] = shown (controlRows store run)[n] := by
      simp only [allReads]
      rw [List.getElem_append_left (by simpa using hcontrol),List.getElem_map]
    have hrows := Listing.following_getElem position (strict_controlRows store run) hcontrol
    rw [hentry,allReads,List.drop_append_of_le_length (by simpa using hcontrol),← List.map_drop,← hrows]
    rfl
  · have hsplit : n = (controlRows store run).length + (n - (controlRows store run).length) := by omega
    generalize n - (controlRows store run).length = k at hsplit
    subst hsplit
    have hk : k < (streamReads run uri text).length := by
      simp only [allReads,List.length_append,List.length_map] at hn
      omega
    have hentry : (allReads store run uri text)[(controlRows store run).length + k] =
        (streamReads run uri text)[k] := by
      simp only [allReads]
      rw [List.getElem_append_right (by simp)]
      simp
    rw [hentry,streamReads_getElem hk,allReads,List.drop_append,List.length_map]
    have hover : (controlRows store run).length + k + 1 - (controlRows store run).length = k + 1 := by
      omega
    have hgone : ((controlRows store run).map shown).drop ((controlRows store run).length + k + 1) = [] := by
      rw [List.drop_eq_nil_iff,List.length_map]
      omega
    rw [hover,hgone]
    rfl

theorem nodup_allReads (store : LogStore) (run : CloudRun) (uri text : String) :
    (allReads store run uri text).Nodup := by
  have hcontrol : ((controlRows store run).map shown).Nodup := by
    apply List.pairwise_map.mpr
    apply (strict_controlRows store run).imp
    intro a b hab he
    have ht : a.createdAt = b.createdAt := congrArg CloudRunLogWindowEntryRead.createdAt he
    have hid : a.id = b.id := congrArg CloudRunLogWindowEntryRead.id he
    rw [position,position,ht,hid] at hab
    exact lt_irrefl _ hab
  have hstream : (streamReads run uri text).Nodup := by
    apply List.Nodup.of_map CloudRunLogWindowEntryRead.sequence
    have hlines : (streamReads run uri text).map CloudRunLogWindowEntryRead.sequence =
        (splitLines text).zipIdx.map Prod.snd := by
      rw [streamReads,List.map_map]
      rfl
    rw [hlines,List.zipIdx_map_snd]
    exact List.nodup_range'
  apply List.nodup_append.mpr
  refine ⟨hcontrol,hstream,?_⟩
  intro a ha b hb he
  obtain ⟨entry,_,rfl⟩ := List.mem_map.mp ha
  obtain ⟨found,_,rfl⟩ := List.mem_map.mp hb
  cases congrArg CloudRunLogWindowEntryRead.source he

omit [WordText] in
theorem query_cursorOf (entry : CloudRunLogWindowEntryRead) : queryFails (some (cursorOf entry)) = false := by
  rw [cursorOf]
  cases entry.source with
  | logStream => rfl
  | controlPlane =>
    apply List.any_eq_false.mpr
    intro code hcode
    rw [CodePoints.scalar_isSurrogate (CodePoints.scalar_codes entry.id code hcode)]
    exact Bool.false_ne_true

omit [WordText] in
theorem readStream_short [UrlText] (h : readStream store run = .ok (some (uri,text))) :
    (splitLines text).length ≤ 1024 * 1024 + 1 := by
  unfold readStream at h
  split at h
  · cases h
  split at h
  · cases h
  next ref _ hsize =>
    split at h
    · cases h
    · cases h
    next provider _ =>
      split at h
      · cases h
      · cases h
      next read redacted hread _ =>
        cases h
        obtain ⟨_,hbytes⟩ := Option.filter_eq_some_iff.mp hread
        have hlines := splitLines_length_le text
        have hexact := of_decide_eq_true hbytes
        unfold maxLogStreamReadBytes at hsize
        omega

omit [WordText] in
theorem seven_digits : 10 ^ 7 ≤ 10 ^ Decimal.maxDigits := Nat.pow_le_pow_right (by decide) (by decide)

omit [WordText] in
theorem short_shown (row : CloudRunLogEntry) : (shown row).sequence + 1 < 10 ^ Decimal.maxDigits :=
  Nat.lt_of_lt_of_le (show 0 + 1 < 10 ^ 7 by decide) seven_digits

theorem short_streamReads [UrlText] (h : readStream store run = .ok (some (uri,text)))
    {entry : CloudRunLogWindowEntryRead} (he : entry ∈ streamReads run uri text) :
    entry.sequence + 1 < 10 ^ Decimal.maxDigits := by
  obtain ⟨found,hfound,rfl⟩ := List.mem_map.mp he
  have hline := List.snd_lt_of_mem_zipIdx hfound
  have hshort := readStream_short h
  have hdigits := seven_digits
  change found.2 + 1 < _
  omega

theorem short_allReads [UrlText] (h : readStream store run = .ok (some (uri,text)))
    {entry : CloudRunLogWindowEntryRead} (he : entry ∈ allReads store run uri text) :
    entry.sequence + 1 < 10 ^ Decimal.maxDigits := by
  rcases List.mem_append.mp he with he | he
  · obtain ⟨row,_,rfl⟩ := List.mem_map.mp he
    exact short_shown row
  · exact short_streamReads h he

end positions

section window

structure WindowOf (limit : ℕ) (rest : List CloudRunLogWindowEntryRead)
    (window : CloudRunLogWindowRead) : Prop where
  entries : window.entries.map content = rest.take limit
  hasMore : window.hasMore = decide (limit < rest.length)
  nextCursor : window.nextCursor =
    if limit < rest.length then (rest.take limit).getLast?.map entryCursor else none

theorem windowOf_close {limit : ℕ} {entries rest : List CloudRunLogWindowEntryRead}
    (h : entries.map content = rest.take (limit + 1)) : WindowOf limit rest (closeWindow limit entries) := by
  have hlength : entries.length = min (limit + 1) rest.length := by
    rw [← List.length_map (f := content),h,List.length_take]
  rw [closeWindow]
  split
  · next hmore =>
    have hrest : limit < rest.length := by omega
    have htake : (entries.take limit).map content = rest.take limit := by
      rw [List.map_take,h,List.take_take,Nat.min_eq_left (Nat.le_succ limit)]
    refine ⟨htake,by simp [hrest],?_⟩
    have hcursor : entryCursor ∘ content = entryCursor := funext entryCursor_content
    rw [if_pos hrest,← htake,List.getLast?_map,Option.map_map,hcursor]
  · next hmore =>
    have hrest : rest.length ≤ limit := by omega
    refine ⟨?_,by simp [hrest],?_⟩
    · rw [h,List.take_of_length_le (by omega),List.take_of_length_le hrest]
    · rw [if_neg (by omega)]

variable [Interpreter] [UrlText] [WordText]
variable {store : LogStore} {run : CloudRun} {caller : Option LogCaller} {uri text : String}

theorem listCloudRunLogWindow_spec (limit : ℕ) {after : Option String}
    {cursor : Option LogWindowCursor} {cloudRunId : String}
    (hrun : findRun store caller cloudRunId = .ok run)
    (hread : readStream store run = .ok (some (uri,text)))
    (hcursor : decodeCursor after = .ok cursor) (hquery : queryFails cursor = false) :
    ∃ window, listCloudRunLogWindow store caller cloudRunId after limit true = .ok window ∧
      WindowOf limit (remaining store run uri text cursor) window := by
  obtain ⟨entries,hentries,hcontrol⟩ := controlPlaneEntries_content store run hquery (limit + 1)
  have hlength : entries.length = min (limit + 1) (remainingRows store run cursor).length := by
    rw [← List.length_map (f := content),hcontrol,List.length_map,List.length_take]
  simp only [listCloudRunLogWindow,windowFrom,hrun,hcursor,hentries,Bool.true_and,decide_eq_true_eq,
    logStreamEntries_eq hread]
  split
  · next hfew =>
    refine ⟨_,rfl,windowOf_close ?_⟩
    have hall : (remainingRows store run cursor).length ≤ limit := by omega
    rw [List.map_append,hcontrol,map_content_stream run uri text,remaining,
      List.take_append,List.length_map,hlength,
      Nat.min_eq_right (Nat.le_succ_of_le hall),List.map_take]
    intro entry he
    exact List.mem_of_mem_drop (List.mem_of_mem_take he)
  · next hmany =>
    refine ⟨_,rfl,windowOf_close ?_⟩
    rw [hcontrol,remaining,List.take_append_of_le_length,List.map_take]
    rw [List.length_map]
    omega

inductive Follows (store : LogStore) (caller : Option LogCaller) (cloudRunId : String) (limit : ℕ) :
    Option String → List CloudRunLogWindowRead → Prop
  | last {after window} (h : listCloudRunLogWindow store caller cloudRunId after limit true = .ok window)
      (hmore : window.hasMore = false) : Follows store caller cloudRunId limit after [window]
  | next {after window cursor windows}
      (h : listCloudRunLogWindow store caller cloudRunId after limit true = .ok window)
      (hmore : window.hasMore = true) (hcursor : window.nextCursor = some cursor)
      (hrest : Follows store caller cloudRunId limit (some cursor) windows) :
      Follows store caller cloudRunId limit after (window :: windows)

theorem follows_unique {cloudRunId : String} {limit : ℕ} {after : Option String}
    {windows windows' : List CloudRunLogWindowRead}
    (h : Follows store caller cloudRunId limit after windows)
    (h' : Follows store caller cloudRunId limit after windows') : windows = windows' := by
  induction h generalizing windows' with
  | last hw hmore =>
    cases h' with
    | last hw' _ =>
      rw [hw] at hw'
      rw [Except.ok.inj hw']
    | next hw' hmore' _ _ =>
      rw [hw] at hw'
      rw [← Except.ok.inj hw',hmore] at hmore'
      cases hmore'
  | next hw hmore hcursor _ ih =>
    cases h' with
    | last hw' hmore' =>
      rw [hw] at hw'
      rw [← Except.ok.inj hw',hmore] at hmore'
      cases hmore'
    | next hw' _ hcursor' hrest' =>
      rw [hw] at hw'
      obtain rfl := Except.ok.inj hw'
      rw [hcursor] at hcursor'
      obtain rfl := Option.some.inj hcursor'
      rw [ih hrest']

structure ExactPages (limit : ℕ) (rest : List CloudRunLogWindowEntryRead)
    (pages : List CloudRunLogWindowRead) (final : CloudRunLogWindowRead) : Prop where
  more : ∀ page ∈ pages, page.hasMore = true ∧ page.entries.length = limit
  ends : final.hasMore = false
  entries : ((pages ++ [final]).flatMap CloudRunLogWindowRead.entries).map content = rest

theorem follows_from {cloudRunId : String} {limit : ℕ} (hlimit : 1 ≤ limit)
    (hrun : findRun store caller cloudRunId = .ok run)
    (hread : readStream store run = .ok (some (uri,text))) (n : ℕ) :
    ∀ after cursor k, (allReads store run uri text).length - k = n → decodeCursor after = .ok cursor →
      queryFails cursor = false → remaining store run uri text cursor = (allReads store run uri text).drop k →
      ∃ pages final, Follows store caller cloudRunId limit after (pages ++ [final]) ∧
        ExactPages limit ((allReads store run uri text).drop k) pages final := by
  induction n using Nat.strong_induction_on with
  | _ n ih =>
    intro after cursor k hn hcursor hquery hremaining
    obtain ⟨window,hw,hspec⟩ := listCloudRunLogWindow_spec limit hrun hread hcursor hquery
    rw [hremaining] at hspec
    by_cases hmore : limit < ((allReads store run uri text).drop k).length
    · have hlength : window.entries.length = limit := by
        rw [← List.length_map (f := content),hspec.entries,List.length_take]
        omega
      have hk : k + limit < (allReads store run uri text).length := by
        rw [List.length_drop] at hmore
        omega
      have hlast : (((allReads store run uri text).drop k).take limit).getLast? =
          some ((allReads store run uri text).get ⟨k + limit - 1,by omega⟩) := by
        rw [List.getLast?_eq_getElem?,List.length_take,Nat.min_eq_left (le_of_lt hmore),
          List.getElem?_take_of_lt (by omega),List.getElem?_drop,List.getElem?_eq_getElem (by omega)]
        congr 2
        omega
      have hnext := hspec.nextCursor
      rw [if_pos hmore,hlast,Option.map_some] at hnext
      have hindex : k + limit - 1 < (allReads store run uri text).length := by omega
      have hrest := remaining_cursorOf hindex
      rw [show k + limit - 1 + 1 = k + limit by omega] at hrest
      obtain ⟨pages,final,hfollows,hexact⟩ := ih _ (by omega) _ _ (k + limit) rfl
        (decode_entryCursor (short_allReads hread (List.getElem_mem hindex))) (query_cursorOf _) hrest
      have hhas : window.hasMore = true := by rw [hspec.hasMore,decide_eq_true hmore]
      refine ⟨window :: pages,final,.next hw hhas hnext hfollows,?_,hexact.ends,?_⟩
      · intro page hp
        rcases List.mem_cons.mp hp with rfl | hp
        · exact ⟨hhas,hlength⟩
        · exact hexact.more page hp
      · rw [List.cons_append,List.flatMap_cons,List.map_append,hspec.entries,hexact.entries,
          ← List.drop_drop,List.take_append_drop]
    · have hhas : window.hasMore = false := by rw [hspec.hasMore,decide_eq_false hmore]
      refine ⟨[],window,.last hw hhas,?_,hhas,?_⟩
      · intro page hp
        cases hp
      · rw [List.nil_append,List.flatMap_singleton,hspec.entries,List.take_of_length_le (by omega)]

theorem log_pages_exact {cloudRunId : String} {limit : ℕ} (hlimit : 1 ≤ limit)
    (hrun : findRun store caller cloudRunId = .ok run)
    (hread : readStream store run = .ok (some (uri,text))) :
    (allReads store run uri text).Nodup ∧
      ∃ pages final, ExactPages limit (allReads store run uri text) pages final ∧
      ∀ windows, Follows store caller cloudRunId limit none windows ↔ windows = pages ++ [final] := by
  obtain ⟨pages,final,hfollows,hexact⟩ := follows_from hlimit hrun hread _ none none 0 rfl rfl rfl
    (remaining_none.trans List.drop_zero.symm)
  refine ⟨nodup_allReads store run uri text,pages,final,hexact,?_⟩
  intro windows
  constructor
  · exact fun h => follows_unique h hfollows
  · rintro rfl
    exact hfollows

end window

section sample

@[reducible] def sampleInterpreter : Interpreter := ⟨900⟩

@[reducible] def sampleUrls : UrlText := ⟨fun text => text.map Char.toLower,fun _ => true⟩

@[reducible] def sampleWords : WordText := ⟨fun _ => true⟩

def sampleTime (second : ℕ) : DateTime where
  year := 2026
  month := 6
  day := 1
  hour := 12
  minute := 0
  second := second % 60
  microsecond := 0
  date := by decide
  time := ⟨by decide,by decide,Nat.mod_lt _ (by decide),by decide⟩

def sampleRun : CloudRun where
  id := "run_1"
  workspaceId := "workspace_1"
  createdAt := sampleTime 0
  logStreamUri := some "local-inline://cloud-run-objects/log_1"
  logStreamSha256 := some "d4"
  logStreamSizeBytes := some 16
  logStreamContentType := some "text/plain"

def sampleEntry (id : String) (second : ℕ) : CloudRunLogEntry :=
  ⟨id,"run_1","info","queued","Queued",none,sampleTime second⟩

def sampleUri : String := "local-inline://cloud-run-objects/log_1"

def sampleText : String := "token: abc\nstop\n"

def sampleStore (entries : List CloudRunLogEntry) (ids : (entries.map CloudRunLogEntry.id).Nodup) :
    LogStore where
  runs := fun id => if id = "run_1" then some sampleRun else none
  entries := entries
  ids := ids
  stored := fun _ _ => some sampleText

theorem sample_reads (entries : List CloudRunLogEntry) (ids : (entries.map CloudRunLogEntry.id).Nodup) :
    @readStream sampleUrls (sampleStore entries ids) sampleRun = .ok (some (sampleUri,sampleText)) := by
  have hname : @objectStorageProviderName sampleUrls sampleUri = .ok (some "local_inline") := by
    decide +kernel
  have href : logStreamRef sampleRun = some ⟨sampleUri,"d4",16,"text/plain"⟩ := rfl
  have hsize : ¬ (16 > maxLogStreamReadBytes) := by decide
  have htext : (sampleStore entries ids).readText "local_inline" ⟨sampleUri,"d4",16,"text/plain"⟩ =
      some sampleText := by
    apply Option.filter_eq_some_iff.mpr
    exact ⟨rfl,by decide +kernel⟩
  have hshown : @redactUri sampleUrls sampleUri = some sampleUri := by decide +kernel
  simp only [readStream,href,if_neg hsize,hname,htext,hshown]

example : entryCursor (shown (sampleEntry "entry_1" 1)) =
    "eyJjcmVhdGVkX2F0IjoiMjAyNi0wNi0wMVQxMjowMDowMSIsImlkIjoiZW50cnlfMSIsInNvdXJjZSI6ImNvbnRyb2xf" ++
      "cGxhbmUiLCJzdHJlYW1fbGluZSI6bnVsbH0" := by
  decide +kernel

def seamStore : LogStore := sampleStore [sampleEntry "entry_1" 1] (by decide)

theorem log_pages_exact_seam :
    let _ := sampleInterpreter
    let _ := sampleUrls
    let _ := sampleWords
    (allReads seamStore sampleRun sampleUri sampleText).Nodup ∧
    ∃ pages final, ExactPages 1 (allReads seamStore sampleRun sampleUri sampleText) pages final ∧
      ∀ windows, Follows seamStore none "run_1" 1 none windows ↔ windows = pages ++ [final] := by
  intro _ _ _
  exact log_pages_exact (by decide) rfl (sample_reads _ _)

end sample

end AiScdc.CloudRunLogs
