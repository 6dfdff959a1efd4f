import AiScdc.LocalRunner.AllowedPaths
import Mathlib.Data.List.DropRight
import Mathlib.Data.List.TakeWhile

namespace AiScdc

open LexicalPath

def containsGlob (pathPattern : Text) : Bool := pathPattern.any fun c => c = '*' || c = '?' || c = '['

-- An absolute path is the list of its parts; the root is its own parent.
structure Worktree where
  parts : List Text
  resolved : ∀ part ∈ parts, Proper '.' part

def realpath (parts : List Text) : List Text :=
  parts.foldl (fun reached part =>
    if part = [] ∨ part = ['.'] then reached
    else if part = ['.','.'] then reached.dropLast
    else reached ++ [part]) []

def safeWorktreePath (worktree : Worktree) (relativePath : Text) : Except String (List Text) :=
  if Char.ofNat 0 ∈ relativePath then .error "embedded null byte"
  else
    let base := if relativePath.head? = some '/' then [] else worktree.parts
    let candidate := realpath (base ++ splitOn '/' relativePath)
    if worktree.parts <+: candidate then .ok candidate
    else .error ("Path escapes expected root: " ++ String.ofList ('/' :: joined '/' candidate))

def runnerNote : Text := "local-runner-note.md".toList

def selectPatchPath (worktree : Worktree) : List String → Except String (List Text)
  | [] => .error "No safe allowed path is available for local runner patch"
  | allowedPath :: rest =>
    let normalized := normalizePathPattern allowedPath.toList
    if !isSafeRelativePattern normalized then selectPatchPath worktree rest
    else if endsInDeepGlob normalized then
      let directory := normalized.take (normalized.length - 3)
      safeWorktreePath worktree (directory ++ '/' :: runnerNote)
    else if !containsGlob normalized then safeWorktreePath worktree normalized
    else selectPatchPath worktree rest

-- The name under which git reports a file of the worktree.
def reportedName (worktree : Worktree) (path : List Text) : String :=
  String.ofList (joined '/' (path.drop worktree.parts.length))

def ChosenFileAllowed (worktree : Worktree) (allowedPaths : List String) : Prop :=
  ∀ path, selectPatchPath worktree allowedPaths = .ok path → path ≠ worktree.parts →
    ensureChangedFilesAllowed [reportedName worktree path] allowedPaths = .ok ()

def isUsable (normalized : Text) : Bool :=
  isSafeRelativePattern normalized && (endsInDeepGlob normalized || !containsGlob normalized)

def writtenDirectory (normalized : Text) : Text := normalized.take (normalized.length - 3)

def writtenFile (normalized : Text) : Text :=
  if endsInDeepGlob normalized then writtenDirectory normalized ++ '/' :: runnerNote else normalized

def presentParts (path : Text) : List Text := (path.splitOn '/').filter isPresentPart

def firstUsable (allowedPaths : List String) : Option Text :=
  (allowedPaths.map fun allowedPath => normalizePathPattern allowedPath.toList).find? isUsable

def SpelledDirectly (normalized : Text) : Prop :=
  Canonical '/' '.' (if endsInDeepGlob normalized then writtenDirectory normalized else normalized)

-- Another pattern of the list covers the file that this one names.
def CoveredByOther (allowedPaths : List String) (normalized : Text) : Prop :=
  ∃ allowedPath ∈ allowedPaths, normalizePathPattern allowedPath.toList ≠ normalized ∧
    pathMatchesAllowed (strip (joined '/' (presentParts (writtenFile normalized))))
      allowedPath.toList = true

def WritesWhereAllowed (allowedPaths : List String) (normalized : Text) : Prop :=
  Char.ofNat 0 ∈ normalized ∨ presentParts (writtenFile normalized) = [] ∨
    SpelledDirectly normalized ∨ CoveredByOther allowedPaths normalized

section stripping

variable {text : Text}

theorem strip_eq : strip text = (text.dropWhile isSpace).rdropWhile isSpace := rfl

theorem strip_infix : strip text <:+: text :=
  (List.rdropWhile_prefix isSpace _).isInfix.trans (List.dropWhile_suffix isSpace).isInfix

theorem head_strip {c : Char} {rest : Text} (h : strip text = c :: rest) : isSpace c = false := by
  obtain ⟨after,hafter⟩ : strip text <+: text.dropWhile isSpace :=
    List.rdropWhile_prefix isSpace _
  rw [h,List.cons_append] at hafter
  have hne : text.dropWhile isSpace ≠ [] := by simp [← hafter]
  have hhead := List.head_dropWhile_not isSpace hne
  simpa [← hafter] using hhead

theorem strip_of_head {c : Char} {rest : Text} (hc : isSpace c = false)
    (hlast : ∀ hne, isSpace ((c :: rest).getLast hne) = false) : strip (c :: rest) = c :: rest := by
  rw [strip_eq,List.dropWhile_cons_of_neg (by simp [hc]),List.rdropWhile_eq_self_iff]
  intro hne
  simp [hlast hne]

theorem normalizePathPattern_of_no_backslash (h : '\\' ∉ text) :
    normalizePathPattern text = strip text := by
  have hsame : text.map (fun c => if c = '\\' then '/' else c) = text := by
    conv_rhs => rw [← List.map_id text]
    apply List.map_congr_left
    intro c hc
    exact if_neg fun hbackslash : c = '\\' => h (hbackslash ▸ hc)
  rw [normalizePathPattern,hsame]

theorem no_backslash : '\\' ∉ normalizePathPattern text := by
  intro h
  have hmem := strip_infix.subset h
  obtain ⟨c,_,hc⟩ := List.mem_map.mp hmem
  split at hc
  · cases hc
  · exact absurd hc ‹_›

end stripping

section resolution

variable {parts reached : List Text} {text : Text}

theorem isPresentPart_up : isPresentPart ['.','.'] = true := by decide

theorem present_of_proper {part : Text} (h : Proper '.' part) : isPresentPart part = true := by
  simp [isPresentPart,h.ne_nil,h.ne_dot]

theorem proper_of_present {part : Text} (h : isPresentPart part = true) (hup : part ≠ ['.','.']) :
    Proper '.' part := by
  simp only [isPresentPart,ne_eq,decide_not,Bool.and_eq_true,Bool.not_eq_true',
    decide_eq_false_iff_not] at h
  exact ⟨h.1,h.2,hup⟩

theorem resolveParts_of_no_up (h : ['.','.'] ∉ parts) :
    resolveParts '.' reached parts = some (reached.reverse ++ parts.filter isPresentPart) := by
  induction parts generalizing reached with
  | nil => simp [resolveParts]
  | cons part parts ih =>
    simp only [List.mem_cons,not_or] at h
    have hpart := Ne.symm h.1
    by_cases hpresent : isPresentPart part = true
    · have hproper := proper_of_present hpresent hpart
      simp [resolveParts,hproper.ne_nil,hproper.ne_dot,hpart,ih h.2,hpresent]
    · have hskipped : part = [] ∨ part = ['.'] := by
        simp only [isPresentPart,ne_eq,decide_not,Bool.and_eq_true,Bool.not_eq_true',
          decide_eq_false_iff_not] at hpresent
        tauto
      simp [resolveParts,hskipped,ih h.2,hpresent]

theorem realpath_of_no_up (h : ['.','.'] ∉ parts) : realpath parts = parts.filter isPresentPart := by
  have hfold (reached : List Text) : parts.foldl (fun reached part =>
      if part = [] ∨ part = ['.'] then reached
      else if part = ['.','.'] then reached.dropLast
      else reached ++ [part]) reached = reached ++ parts.filter isPresentPart := by
    induction parts generalizing reached with
    | nil => simp
    | cons part parts ih =>
      simp only [List.mem_cons,not_or] at h
      have hpart := Ne.symm h.1
      rw [List.foldl_cons,ih h.2]
      by_cases hpresent : isPresentPart part = true
      · have hproper := proper_of_present hpresent hpart
        simp [hproper.ne_nil,hproper.ne_dot,hpart,hpresent]
      · have hskipped : part = [] ∨ part = ['.'] := by
          simp only [isPresentPart,ne_eq,decide_not,Bool.and_eq_true,Bool.not_eq_true',
            decide_eq_false_iff_not] at hpresent
          tauto
        simp [hskipped,hpresent]
  exact hfold []

-- What a safe pattern promises of its own parts.
structure Relative (text : Text) : Prop where
  ne_nil : text ≠ []
  head : text.head? ≠ some '/'
  no_up : ['.','.'] ∉ text.splitOn '/'

theorem relative_of_safe (h : isSafeRelativePattern text = true) : Relative text := by
  simp only [isSafeRelativePattern,splitOn_eq,Bool.and_eq_true,List.all_eq_true,List.mem_filter,
    decide_eq_true_eq] at h
  exact ⟨h.1.1.1,h.1.1.2,fun hmem => h.2 _ ⟨hmem,isPresentPart_up⟩ rfl⟩

theorem resolve_of_relative (h : Relative text) :
    resolve '/' '.' text = some (presentParts text) := by
  rw [resolve,if_neg h.head,resolveParts_of_no_up h.no_up]
  rfl

theorem presentParts_proper (h : Relative text) : ∀ part ∈ presentParts text, Proper '.' part :=
  resolve_proper (resolve_of_relative h)

theorem presentParts_canonical (h : Relative text) (hcanonical : Canonical '/' '.' text) :
    presentParts text = text.splitOn '/' :=
  Option.some.inj ((resolve_of_relative h).symm.trans (resolve_canonical hcanonical h.ne_nil))

theorem safeWorktreePath_of_relative (worktree : Worktree) (h : Relative text) :
    safeWorktreePath worktree text = if Char.ofNat 0 ∈ text then .error "embedded null byte"
      else .ok (worktree.parts ++ presentParts text) := by
  have hup : ['.','.'] ∉ worktree.parts ++ text.splitOn '/' := by
    rw [List.mem_append,not_or]
    exact ⟨fun hmem => (worktree.resolved _ hmem).ne_up rfl,h.no_up⟩
  have hbase : worktree.parts.filter isPresentPart = worktree.parts :=
    List.filter_eq_self.mpr fun part hpart => present_of_proper (worktree.resolved part hpart)
  have hpath : realpath (worktree.parts ++ text.splitOn '/') = worktree.parts ++ presentParts text := by
    rw [realpath_of_no_up hup,List.filter_append,hbase]
    rfl
  simp only [safeWorktreePath,if_neg h.head,splitOn_eq,hpath,List.prefix_append,if_true]

end resolution

section usable

variable {normalized : Text}

theorem deep_eq (h : endsInDeepGlob normalized = true) :
    normalized = writtenDirectory normalized ++ "/**".toList := by
  obtain ⟨directory,rfl⟩ := List.isSuffixOf_iff_suffix.mp h
  simp [writtenDirectory]

theorem relative_directory (hsafe : isSafeRelativePattern normalized = true)
    (h : endsInDeepGlob normalized = true) : Relative (writtenDirectory normalized) := by
  have hrelative := relative_of_safe hsafe
  have hne : writtenDirectory normalized ≠ [] := deepDirectory_ne_nil hsafe h
  have heq := deep_eq h
  constructor
  · exact hne
  · intro hhead
    apply hrelative.head
    rw [heq,List.head?_append_of_ne_nil _ hne,hhead]
  · intro hup
    apply hrelative.no_up
    rw [heq,show "/**".toList = '/' :: ['*','*'] from rfl,List.splitOn_append_cons_self]
    exact List.mem_append_left _ hup

theorem splitOn_note (directory : Text) :
    (directory ++ '/' :: runnerNote).splitOn '/' = directory.splitOn '/' ++ [runnerNote] := by
  rw [List.splitOn_append_cons_self]
  rfl

theorem presentParts_note (directory : Text) :
    presentParts (directory ++ '/' :: runnerNote) = presentParts directory ++ [runnerNote] := by
  rw [presentParts,splitOn_note,List.filter_append]
  rfl

theorem relative_written (h : isUsable normalized = true) : Relative (writtenFile normalized) := by
  simp only [isUsable,Bool.and_eq_true] at h
  rw [writtenFile]
  split
  · rename_i hdeep
    have hdirectory := relative_directory h.1 hdeep
    constructor
    · simp
    · rw [List.head?_append_of_ne_nil _ hdirectory.ne_nil]
      exact hdirectory.head
    · rw [splitOn_note,List.mem_append,not_or]
      exact ⟨hdirectory.no_up,by decide⟩
  · exact relative_of_safe h.1

theorem null_mem_written : Char.ofNat 0 ∈ writtenFile normalized ↔ Char.ofNat 0 ∈ normalized := by
  rw [writtenFile]
  split
  · rename_i hdeep
    have heq := deep_eq hdeep
    conv_rhs => rw [heq]
    have hnote : Char.ofNat 0 ∉ '/' :: runnerNote := by decide
    have hglob : Char.ofNat 0 ∉ "/**".toList := by decide
    simp only [List.mem_append,hnote,hglob]
  · rfl

theorem selectPatchPath_eq (worktree : Worktree) (allowedPaths : List String) :
    selectPatchPath worktree allowedPaths = match firstUsable allowedPaths with
      | none => .error "No safe allowed path is available for local runner patch"
      | some normalized => safeWorktreePath worktree (writtenFile normalized) := by
  induction allowedPaths with
  | nil => rfl
  | cons allowedPath rest ih =>
    simp only [selectPatchPath,firstUsable,List.map_cons,List.find?_cons,isUsable] at ih ⊢
    cases hsafe : isSafeRelativePattern (normalizePathPattern allowedPath.toList) with
    | false => simpa using ih
    | true =>
      cases hdeep : endsInDeepGlob (normalizePathPattern allowedPath.toList) with
      | true => simp [writtenFile,writtenDirectory,hdeep]
      | false =>
        cases hglob : containsGlob (normalizePathPattern allowedPath.toList) with
        | true => simpa using ih
        | false => simp [writtenFile,hdeep]

end usable

section acceptance

variable {normalized name directory : Text}

def matchesNormalized (name normalized : Text) : Bool :=
  if !isSafeRelativePattern normalized then false
  else if endsInDeepGlob normalized then
    name = writtenDirectory normalized || (writtenDirectory normalized ++ ['/']).isPrefixOf name
  else fnmatchcase name normalized

theorem pathMatchesAllowed_eq (name allowedPath : Text) :
    pathMatchesAllowed name allowedPath = matchesNormalized name (normalizePathPattern allowedPath) :=
  rfl

theorem tokens_of_no_glob (h : containsGlob normalized = false) (fuel : ℕ)
    (hfuel : normalized.length ≤ fuel) : tokens fuel normalized = normalized.map .literal := by
  induction normalized generalizing fuel with
  | nil => cases fuel <;> rfl
  | cons c rest ih =>
    cases fuel with
    | zero => simp at hfuel
    | succ fuel =>
      simp only [containsGlob,List.any_cons,Bool.or_eq_false_iff,decide_eq_false_iff_not] at h
      obtain ⟨⟨⟨hstar,hany⟩,hbracket⟩,hrest⟩ := h
      have htail := ih hrest fuel (by simpa using hfuel)
      rw [tokens,htail,List.map_cons] <;> simp_all

theorem matchTokens_literal_self (word : Text) :
    matchTokens (word.map Token.literal) word = true := by
  induction word with
  | nil => rfl
  | cons c word ih => simp [matchTokens,Token.accepts,ih]

theorem fnmatchcase_of_no_glob (h : containsGlob normalized = false) :
    fnmatchcase name normalized = true ↔ name = normalized := by
  rw [fnmatchcase,tokens_of_no_glob h _ le_rfl]
  constructor
  · exact matchTokens_literals
  · rintro rfl
    exact matchTokens_literal_self name

theorem matches_file_iff (hsafe : isSafeRelativePattern normalized = true)
    (hdeep : endsInDeepGlob normalized = false) (hglob : containsGlob normalized = false)
    (hstrip : strip normalized = normalized) :
    matchesNormalized (strip (joined '/' (presentParts normalized))) normalized = true ↔
      Canonical '/' '.' normalized := by
  have hrelative := relative_of_safe hsafe
  have hresolve := resolve_of_relative hrelative
  simp only [matchesNormalized,hsafe,hdeep,Bool.not_true,Bool.false_eq_true,if_false,
    fnmatchcase_of_no_glob hglob]
  constructor
  · intro heq
    by_contra hcanonical
    have hshort := joined_shorter hresolve hcanonical
    have hle : (strip (joined '/' (presentParts normalized))).length ≤
        (joined '/' (presentParts normalized)).length := strip_infix.length_le
    rw [heq] at hle
    omega
  · intro hcanonical
    rw [presentParts_canonical hrelative hcanonical,joined,List.intercalate_splitOn,hstrip]

theorem runnerNote_proper : Proper '.' runnerNote := ⟨by decide,by decide,by decide⟩

theorem strip_note (front : Text) : strip (front ++ runnerNote) = front.dropWhile isSpace ++ runnerNote := by
  have hnote : runnerNote.dropWhile isSpace = runnerNote := by decide
  have hdrop : (front ++ runnerNote).dropWhile isSpace = front.dropWhile isSpace ++ runnerNote := by
    rw [List.dropWhile_append]
    split
    · rename_i hempty
      rw [List.isEmpty_iff.mp hempty,hnote]
      rfl
    · rfl
  rw [strip_eq,hdrop,List.rdropWhile_eq_self_iff]
  intro hne
  rw [List.getLast_append_of_ne_nil hne (by decide)]
  decide

-- Stripping takes blanks off the first part of a name that ends in the note, and nothing else.
theorem splitOn_strip_note {first : Text} {more : List Text}
    (hslash : ∀ part ∈ first :: more, '/' ∉ part) :
    (strip (joined '/' (first :: more ++ [runnerNote]))).splitOn '/' =
      first.dropWhile isSpace :: (more ++ [runnerNote]) := by
  have hends : ∃ front, joined '/' (more ++ [runnerNote]) = front ++ runnerNote := by
    cases more with
    | nil => exact ⟨[],by simp [joined]⟩
    | cons next more =>
      refine ⟨joined '/' (next :: more) ++ ['/'],?_⟩
      rw [joined_append (by simp) (by simp)]
      simp [joined]
  obtain ⟨front,hfront⟩ := hends
  have hname : joined '/' (first :: more ++ [runnerNote]) = (first ++ '/' :: front) ++ runnerNote := by
    have happend : joined '/' ([first] ++ (more ++ [runnerNote])) =
        joined '/' [first] ++ '/' :: joined '/' (more ++ [runnerNote]) := joined_append (by simp) (by simp)
    rw [List.cons_append,← List.singleton_append,happend,hfront]
    simp [joined]
  have hdrop : (first ++ '/' :: front).dropWhile isSpace =
      first.dropWhile isSpace ++ '/' :: front := by
    have hcons : ('/' :: front).dropWhile isSpace = '/' :: front :=
      List.dropWhile_cons_of_neg (by decide)
    rw [List.dropWhile_append]
    split
    · rename_i hempty
      rw [List.isEmpty_iff.mp hempty,hcons]
      rfl
    · rfl
  have hfirst : '/' ∉ first.dropWhile isSpace := fun hmem =>
    hslash first List.mem_cons_self ((List.dropWhile_suffix isSpace).subset hmem)
  have hrest : (joined '/' (more ++ [runnerNote])).splitOn '/' = more ++ [runnerNote] := by
    apply List.splitOn_intercalate '/' _ (by simp)
    intro part hpart
    rcases List.mem_append.mp hpart with hmore | hnote
    · exact hslash part (List.mem_cons_of_mem _ hmore)
    · obtain rfl := List.mem_singleton.mp hnote
      decide
  rw [hname,strip_note,hdrop,List.append_assoc,List.cons_append,← hfront,
    List.splitOn_append_cons_self,List.splitOn_eq_singleton hfirst,hrest]
  rfl

theorem splitOn_prefix (h : name = directory ∨ (directory ++ ['/']) <+: name) :
    directory.splitOn '/' <+: name.splitOn '/' := by
  rcases h with rfl | ⟨rest,rfl⟩
  · exact List.prefix_rfl
  · rw [List.append_assoc,List.singleton_append,List.splitOn_append_cons_self]
    exact List.prefix_append _ _

theorem first_eq_of_rotation {first last : Text} {more : List Text}
    (h : first :: more = more ++ [last]) : first = last := by
  induction more generalizing first with
  | nil => simpa using h
  | cons next more ih =>
    simp only [List.cons_append,List.cons.injEq] at h
    rw [h.1]
    exact ih h.2

theorem canonical_of_covers (hrelative : Relative directory)
    (h : strip (joined '/' (presentParts directory ++ [runnerNote])) = directory ∨
      (directory ++ ['/']) <+: strip (joined '/' (presentParts directory ++ [runnerNote]))) :
    Canonical '/' '.' directory := by
  have hproper := presentParts_proper hrelative
  have hslash : ∀ part ∈ presentParts directory, '/' ∉ part := fun part hpart =>
    not_mem_of_mem_splitOn (List.mem_of_mem_filter hpart)
  have hprefix := splitOn_prefix h
  obtain ⟨front,deeper,hsplit⟩ := List.exists_cons_of_ne_nil (List.splitOn_ne_nil '/' directory)
  cases hpresent : presentParts directory with
  | nil =>
    have hnote : strip (joined '/' ([] ++ [runnerNote])) = runnerNote := by decide
    rw [hpresent,hnote,hsplit,show runnerNote.splitOn '/' = [runnerNote] by decide] at hprefix
    obtain ⟨rfl,hdeeper⟩ := List.cons_prefix_cons.mp hprefix
    obtain rfl := List.prefix_nil.mp hdeeper
    rw [presentParts,hsplit] at hpresent
    exact absurd hpresent (by decide)
  | cons first more =>
    rw [hpresent] at hproper hslash
    rw [hpresent,splitOn_strip_note hslash,hsplit] at hprefix
    obtain ⟨hfront,hdeeper⟩ := List.cons_prefix_cons.mp hprefix
    have hdeeperProper : ∀ part ∈ deeper, Proper '.' part := by
      intro part hpart
      rcases List.mem_append.mp (hdeeper.subset hpart) with hmore | hnote
      · exact hproper part (List.mem_cons_of_mem _ hmore)
      · obtain rfl := List.mem_singleton.mp hnote
        exact runnerNote_proper
    have hup : front ≠ ['.','.'] := by
      rintro rfl
      exact hrelative.no_up (by simp [hsplit])
    have hnil : front ≠ [] := by
      rintro rfl
      have hjoined : joined '/' ([] :: deeper) = directory := by
        rw [← hsplit,joined,List.intercalate_splitOn]
      cases deeper with
      | nil => exact hrelative.ne_nil (by simpa [joined] using hjoined.symm)
      | cons next deeper => exact hrelative.head (by simp [← hjoined,joined])
    have hdot : front ≠ ['.'] := by
      rintro rfl
      have hkept : deeper.filter isPresentPart = deeper :=
        List.filter_eq_self.mpr fun part hpart => present_of_proper (hdeeperProper part hpart)
      have hsame : deeper = first :: more := by
        rw [← hpresent,presentParts,hsplit,List.filter_cons_of_neg (by decide),hkept]
      have hwhole : first :: more = more ++ [runnerNote] := by
        rw [hsame] at hdeeper
        exact hdeeper.eq_of_length (by simp)
      rw [first_eq_of_rotation hwhole] at hfront
      exact absurd hfront (by decide)
    apply canonical_of_proper
    rw [hsplit]
    intro part hpart
    rcases List.mem_cons.mp hpart with rfl | hpart
    · exact ⟨hnil,hdot,hup⟩
    · exact hdeeperProper part hpart

theorem covers_of_canonical {after : Text} (hrelative : Relative directory)
    (hstrip : strip (directory ++ after) = directory ++ after)
    (hcanonical : Canonical '/' '.' directory) :
    (directory ++ ['/']) <+: strip (joined '/' (presentParts directory ++ [runnerNote])) := by
  have hjoined : joined '/' (presentParts directory ++ [runnerNote]) =
      (directory ++ ['/']) ++ runnerNote := by
    rw [presentParts_canonical hrelative hcanonical,
      joined_append (List.splitOn_ne_nil '/' directory) (by simp),joined,List.intercalate_splitOn]
    simp [joined]
  have hblank : (directory ++ ['/']).dropWhile isSpace = directory ++ ['/'] := by
    obtain ⟨c,rest,hdirectory⟩ := List.exists_cons_of_ne_nil hrelative.ne_nil
    rw [hdirectory,List.cons_append] at hstrip ⊢
    exact List.dropWhile_cons_of_neg (by simp [head_strip hstrip])
  rw [hjoined,strip_note,hblank]
  exact List.prefix_append _ _

theorem matches_deep_iff (hsafe : isSafeRelativePattern normalized = true)
    (hdeep : endsInDeepGlob normalized = true) (hstrip : strip normalized = normalized) :
    matchesNormalized (strip (joined '/' (presentParts (writtenDirectory normalized) ++ [runnerNote])))
      normalized = true ↔ Canonical '/' '.' (writtenDirectory normalized) := by
  have hrelative := relative_directory hsafe hdeep
  simp only [matchesNormalized,hsafe,hdeep,Bool.not_true,Bool.false_eq_true,if_false,if_true,
    Bool.or_eq_true,decide_eq_true_eq,List.isPrefixOf_iff_prefix]
  constructor
  · exact canonical_of_covers hrelative
  · intro hcanonical
    rw [deep_eq hdeep] at hstrip
    exact Or.inr (covers_of_canonical hrelative hstrip hcanonical)

theorem matches_written_iff (husable : isUsable normalized = true)
    (hstrip : strip normalized = normalized) :
    matchesNormalized (strip (joined '/' (presentParts (writtenFile normalized)))) normalized = true ↔
      SpelledDirectly normalized := by
  simp only [isUsable,Bool.and_eq_true,Bool.or_eq_true,Bool.not_eq_true'] at husable
  cases hdeep : endsInDeepGlob normalized with
  | true =>
    have hfile : writtenFile normalized = writtenDirectory normalized ++ '/' :: runnerNote := by
      rw [writtenFile,if_pos hdeep]
    rw [hfile,presentParts_note,SpelledDirectly,if_pos hdeep]
    exact matches_deep_iff husable.1 hdeep hstrip
  | false =>
    have hfile : writtenFile normalized = normalized := by
      rw [writtenFile,if_neg (by simp [hdeep])]
    rw [hfile,SpelledDirectly,if_neg (by simp [hdeep])]
    exact matches_file_iff husable.1 hdeep (husable.2.resolve_left (by simp [hdeep])) hstrip

theorem mem_joined {c : Char} {parts : List Text} (h : c ∈ joined '/' parts) :
    c = '/' ∨ ∃ part ∈ parts, c ∈ part := by
  induction parts with
  | nil => simp [joined] at h
  | cons part parts ih =>
    by_cases hparts : parts = []
    · subst hparts
      exact Or.inr ⟨part,List.mem_cons_self,by simpa [joined] using h⟩
    · rw [← List.singleton_append,joined_append (by simp) hparts] at h
      rcases List.mem_append.mp h with hpart | hrest
      · exact Or.inr ⟨part,List.mem_cons_self,by simpa [joined] using hpart⟩
      · rcases List.mem_cons.mp hrest with hslash | hrest
        · exact Or.inl hslash
        · obtain hslash | ⟨inner,hmem,hc⟩ := ih hrest
          · exact Or.inl hslash
          · exact Or.inr ⟨inner,List.mem_cons_of_mem _ hmem,hc⟩

theorem no_backslash_written (h : '\\' ∉ normalized) :
    '\\' ∉ joined '/' (presentParts (writtenFile normalized)) := by
  have hfile : '\\' ∉ writtenFile normalized := by
    rw [writtenFile]
    split
    · rw [List.mem_append,not_or]
      exact ⟨fun hmem => h (List.mem_of_mem_take hmem),by decide⟩
    · exact h
  intro hmem
  obtain hslash | ⟨part,hpart,hc⟩ := mem_joined hmem
  · exact absurd hslash (by decide)
  · obtain ⟨before,after,hpath,_⟩ := around_of_mem_splitOn (List.mem_of_mem_filter hpart)
    exact hfile (by rw [hpath]; simp [hc])

theorem strip_idempotent (text : Text) : strip (strip text) = strip text := by
  cases hstrip : strip text with
  | nil => rfl
  | cons c rest =>
    apply strip_of_head (head_strip hstrip)
    rw [← hstrip]
    intro hne
    rw [Bool.eq_false_iff]
    exact List.rdropWhile_last_not isSpace _ hne

end acceptance

theorem reportedName_append (worktree : Worktree) (parts : List Text) :
    reportedName worktree (worktree.parts ++ parts) = String.ofList (joined '/' parts) := by
  simp [reportedName]

theorem reported_accepted_iff {allowedPaths : List String} {normalized : Text}
    (hfirst : firstUsable allowedPaths = some normalized) :
    ensureChangedFilesAllowed
        [String.ofList (joined '/' (presentParts (writtenFile normalized)))] allowedPaths = .ok () ↔
      SpelledDirectly normalized ∨ CoveredByOther allowedPaths normalized := by
  have husable : isUsable normalized = true := List.find?_some hfirst
  obtain ⟨chosen,hchosen,hnormalized⟩ := List.mem_map.mp (List.mem_of_find?_eq_some hfirst)
  have hstrip : strip normalized = normalized := by
    rw [← hnormalized]
    exact strip_idempotent _
  have hbackslash : '\\' ∉ normalized := by
    rw [← hnormalized]
    exact no_backslash
  have hself := matches_written_iff husable hstrip
  rw [ensureChangedFilesAllowed_iff]
  simp only [List.mem_singleton,forall_eq,isAllowedFile,String.toList_ofList,List.any_eq_true,
    normalizePathPattern_of_no_backslash (no_backslash_written hbackslash)]
  constructor
  · rintro ⟨_,allowedPath,hmem,hmatch⟩
    by_cases hsame : normalizePathPattern allowedPath.toList = normalized
    · rw [pathMatchesAllowed_eq,hsame] at hmatch
      exact Or.inl (hself.mp hmatch)
    · exact Or.inr ⟨allowedPath,hmem,hsame,hmatch⟩
  · intro h
    refine ⟨List.ne_nil_of_mem hchosen,?_⟩
    rcases h with hdirect | ⟨allowedPath,hmem,_,hmatch⟩
    · refine ⟨chosen,hchosen,?_⟩
      rw [pathMatchesAllowed_eq,hnormalized]
      exact hself.mpr hdirect
    · exact ⟨allowedPath,hmem,hmatch⟩

theorem chosen_file_allowed_iff (worktree : Worktree) (allowedPaths : List String) :
    ChosenFileAllowed worktree allowedPaths ↔
      ∀ normalized, firstUsable allowedPaths = some normalized →
        WritesWhereAllowed allowedPaths normalized := by
  rw [ChosenFileAllowed,selectPatchPath_eq]
  cases hfirst : firstUsable allowedPaths with
  | none => simp
  | some normalized =>
    have hwritten := relative_written (List.find?_some hfirst)
    have haccepted := reported_accepted_iff hfirst
    simp only [safeWorktreePath_of_relative worktree hwritten,null_mem_written,Option.some.injEq,
      forall_eq',WritesWhereAllowed]
    by_cases hnull : Char.ofNat 0 ∈ normalized
    · simp [hnull]
    · by_cases hroot : presentParts (writtenFile normalized) = []
      · simp [hnull,hroot]
      · simp only [hnull,hroot,if_false,false_or,Except.ok.injEq,forall_eq',reportedName_append,
          haccepted,ne_eq,List.append_right_eq_self,not_false_eq_true,true_implies]

def sampleWorktree : Worktree where
  parts := ["task-run".toList]
  resolved := by
    intro part hpart
    obtain rfl := List.mem_singleton.mp hpart
    exact ⟨by decide,by decide,by decide⟩

theorem dotted_directory_refused : ¬ ChosenFileAllowed sampleWorktree ["./src/**"] := by
  intro h
  have hselected : selectPatchPath sampleWorktree ["./src/**"] =
      .ok ["task-run".toList,"src".toList,runnerNote] := by decide
  have haccepted := h _ hselected (by decide)
  exact absurd haccepted (by decide)

end AiScdc
