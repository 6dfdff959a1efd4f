import AiScdc.LocalRunner.LexicalPaths
import AiScdc.Workflow.Paths

namespace AiScdc

namespace RemoteWorker

def normalizePathPattern (pathPattern : Text) : Text :=
  strip (pathPattern.map fun c => if c = '\\' then '/' else c)

def isSafeRelativePattern (pathPattern : Text) : Bool :=
  pathPattern ≠ [] && pathPattern.head? ≠ some '/' && !hasDrive pathPattern &&
    ((splitOn '/' pathPattern).filter isPresentPart).all fun part => part ≠ ['.','.']

def pathMatchesAllowed (fileChanged allowedPath : Text) : Bool :=
  let allowed := normalizePathPattern allowedPath
  if !isSafeRelativePattern allowed then false
  else if endsInDeepGlob allowed then
    let directory := allowed.take (allowed.length - 3)
    fileChanged = directory || (directory ++ ['/']).isPrefixOf fileChanged
  else fnmatchcase fileChanged allowed

def checkFiles (allowedPaths : List String) : List String → Except String Unit
  | [] => .ok ()
  | fileChanged :: rest =>
    let normalizedFile := normalizePathPattern fileChanged.toList
    if allowedPaths.any fun allowedPath => pathMatchesAllowed normalizedFile allowedPath.toList then
      checkFiles allowedPaths rest
    else .error s!"Changed file is outside allowed_paths: {String.ofList normalizedFile}"

def ensureFilesAllowed (filesChanged allowedPaths : List String) : Except String Unit :=
  if allowedPaths = [] then .error "Task has no allowed_paths for remote worker changes"
  else checkFiles allowedPaths filesChanged

theorem checkFiles_accepts (files allowedPaths : List String) :
    checkFiles allowedPaths files = .ok () ↔
      (files.find? fun file => !isAllowedFile allowedPaths file) = none := by
  induction files with
  | nil => simp [checkFiles]
  | cons file files ih =>
    have hcheck : checkFiles allowedPaths (file :: files) =
        if isAllowedFile allowedPaths file then checkFiles allowedPaths files
        else .error s!"Changed file is outside allowed_paths: {String.ofList (AiScdc.normalizePathPattern file.toList)}" := rfl
    rw [hcheck,List.find?_cons]
    cases isAllowedFile allowedPaths file with
    | true => simpa using ih
    | false => simp

theorem ensureFilesAllowed_accepts (files allowedPaths : List String) :
    ensureFilesAllowed files allowedPaths = .ok () ↔
      ensureChangedFilesAllowed files allowedPaths = .ok () := by
  rw [ensureFilesAllowed,ensureChangedFilesAllowed]
  split
  · simp
  · rw [checkFiles_accepts]
    split <;> simp_all

end RemoteWorker

open LexicalPath

theorem splitOn_eq (separator : Char) (text : Text) :
    splitOn separator text = text.splitOn separator := by
  induction text with
  | nil => rfl
  | cons c rest ih =>
    obtain ⟨part,parts,hrest⟩ := List.exists_cons_of_ne_nil (List.splitOn_ne_nil separator rest)
    rw [splitOn,ih,List.splitOn_cons_eq_if_modifyHead,hrest]
    simp only [beq_iff_eq,List.modifyHead_cons]

theorem ensureChangedFilesAllowed_iff {files allowedPaths : List String} :
    ensureChangedFilesAllowed files allowedPaths = .ok () ↔
      allowedPaths ≠ [] ∧ ∀ file ∈ files, isAllowedFile allowedPaths file = true := by
  constructor
  · intro h
    refine ⟨?_,ensureChangedFilesAllowed_ok h⟩
    rintro rfl
    cases h
  · rintro ⟨hne,hall⟩
    have hfind : (files.find? fun file => !isAllowedFile allowedPaths file) = none := by
      simpa using hall
    rw [ensureChangedFilesAllowed,if_neg hne,hfind]

def LiesUnder (directory : Text) (parts : List Text) : Prop :=
  ∃ directoryParts, resolve '/' '.' directory = some directoryParts ∧ directoryParts <+: parts

-- The separators of a glob are its literal slashes; a set in brackets is one symbol.
def MatchesGlob (glob : Text) (parts : List Text) : Prop :=
  ∃ globParts, resolve (.literal '/') (.literal '.') (tokens glob.length glob) = some globParts ∧
    matchTokens (joined (.literal '/') globParts) (joined '/' parts) = true

def AllowedBy (pathPattern : Text) (parts : List Text) : Prop :=
  if endsInDeepGlob pathPattern then
    LiesUnder (pathPattern.take (pathPattern.length - 3)) parts
  else MatchesGlob pathPattern parts

def InsideAllowed (allowedPaths : List String) (file : String) : Prop :=
  ∃ parts, resolve '/' '.' (normalizePathPattern file.toList) = some parts ∧
    ∃ allowedPath ∈ allowedPaths, AllowedBy (normalizePathPattern allowedPath.toList) parts

def PathCheckSound (files allowedPaths : List String) : Prop :=
  ensureChangedFilesAllowed files allowedPaths = .ok () →
    ∀ file ∈ files, InsideAllowed allowedPaths file

def SpelledResolved (file : String) : Prop :=
  Canonical '/' '.' (normalizePathPattern file.toList)

section globs

variable {ts us : List Token} {text : Text}

theorem matchTokens_append (h : matchTokens (ts ++ us) text = true) :
    ∃ front back, text = front ++ back ∧ matchTokens ts front = true ∧
      matchTokens us back = true := by
  induction ts generalizing text with
  | nil => exact ⟨[],text,rfl,rfl,h⟩
  | cons t ts ih =>
    cases t with
    | star =>
      simp only [List.cons_append,matchTokens,List.any_eq_true] at h
      obtain ⟨rest,hsuffix,hrest⟩ := h
      obtain ⟨skipped,rfl⟩ := (List.mem_tails _ _).mp hsuffix
      obtain ⟨front,back,rfl,hfront,hback⟩ := ih hrest
      refine ⟨skipped ++ front,back,by simp,?_,hback⟩
      simp only [matchTokens,List.any_eq_true]
      exact ⟨front,(List.mem_tails _ _).mpr ⟨skipped,rfl⟩,hfront⟩
    | any | oneOf negated ranges | literal d =>
      cases text with
      | nil => simp [matchTokens] at h
      | cons c rest =>
        simp only [List.cons_append,matchTokens,Bool.and_eq_true] at h
        obtain ⟨front,back,rfl,hfront,hback⟩ := ih h.2
        exact ⟨c :: front,back,rfl,by simp [matchTokens,h.1,hfront],hback⟩

theorem matchTokens_literals {word : Text} (h : matchTokens (word.map Token.literal) text = true) :
    text = word := by
  induction word generalizing text with
  | nil => simpa [matchTokens] using h
  | cons d word ih =>
    cases text with
    | nil => simp [matchTokens] at h
    | cons c rest =>
      simp only [List.map_cons,matchTokens,Bool.and_eq_true,Token.accepts,decide_eq_true_eq] at h
      rw [h.1,ih h.2]

-- A literal part of a glob is a part of every text that the glob matches.
theorem mem_splitOn_of_literal {word : Text} (hword : '/' ∉ word)
    (hmem : word.map Token.literal ∈ ts.splitOn (.literal '/')) (h : matchTokens ts text = true) :
    word ∈ text.splitOn '/' := by
  obtain ⟨before,after,rfl,haround⟩ := around_of_mem_splitOn hmem
  rw [List.append_assoc] at h
  obtain ⟨front,rest,rfl,hfront,hrest⟩ := matchTokens_append h
  obtain ⟨middle,back,rfl,hmiddle,hback⟩ := matchTokens_append hrest
  rw [matchTokens_literals hmiddle,← List.append_assoc]
  apply mem_splitOn_of_around hword
  constructor
  · rcases haround.left with rfl | ⟨outer,rfl⟩
    · exact Or.inl (matchTokens_literals hfront)
    · obtain ⟨outside,slash,rfl,_,hslash⟩ := matchTokens_append hfront
      exact Or.inr ⟨outside,by rw [(matchTokens_literals hslash : slash = ['/'])]⟩
  · rcases haround.right with rfl | ⟨inner,rfl⟩
    · exact Or.inl (matchTokens_literals hback)
    · rw [← List.singleton_append] at hback
      obtain ⟨slash,inside,rfl,hslash,_⟩ := matchTokens_append hback
      exact Or.inr ⟨inside,by rw [(matchTokens_literals hslash : slash = ['/'])]; rfl⟩

theorem stars_of_matchTokens_nil (h : matchTokens ts [] = true) : ∀ t ∈ ts, t = .star := by
  induction ts with
  | nil => simp
  | cons t ts ih =>
    cases t with
    | star => simpa [matchTokens] using ih (by simpa [matchTokens] using h)
    | any | oneOf negated ranges | literal d => simp [matchTokens] at h

theorem canonical_glob (htext : Canonical '/' '.' text) (h : matchTokens ts text = true) :
    Canonical (.literal '/') (.literal '.') ts := by
  by_cases hts : ts = []
  · rw [hts]
    exact canonical_nil
  by_cases hempty : text = []
  · subst hempty
    have hstars := stars_of_matchTokens_nil h
    have hone : ts.splitOn (.literal '/') = [ts] :=
      List.splitOn_eq_singleton fun hmem => by cases hstars _ hmem
    apply canonical_of_proper
    rw [hone]
    intro part hpart
    obtain rfl := List.mem_singleton.mp hpart
    constructor
    · exact hts
    · rintro rfl
      cases hstars _ List.mem_cons_self
    · rintro rfl
      cases hstars _ List.mem_cons_self
  · have hproper := proper_of_canonical htext hempty
    apply canonical_of_proper
    intro part hpart
    constructor
    · rintro rfl
      exact (hproper [] (mem_splitOn_of_literal (by simp) hpart h)).ne_nil rfl
    · rintro rfl
      exact (hproper ['.'] (mem_splitOn_of_literal (by simp) hpart h)).ne_dot rfl
    · rintro rfl
      exact (hproper ['.','.'] (mem_splitOn_of_literal (by simp) hpart h)).ne_up rfl

theorem matchesGlob_of_canonical {glob : Text} (htext : Canonical '/' '.' text)
    (h : fnmatchcase text glob = true) : ∃ parts, resolve '/' '.' text = some parts ∧
      MatchesGlob glob parts := by
  obtain ⟨parts,hparts,hjoined⟩ := Option.map_eq_some_iff.mp htext
  obtain ⟨globParts,hglobParts,hglobJoined⟩ := Option.map_eq_some_iff.mp (canonical_glob htext h)
  refine ⟨parts,hparts,globParts,hglobParts,?_⟩
  rw [hjoined,hglobJoined]
  exact h

theorem liesUnder_of_canonical {directory : Text} (hdirectory : directory ≠ [])
    (htext : Canonical '/' '.' text)
    (h : text = directory ∨ (directory ++ ['/']) <+: text) :
    ∃ parts, resolve '/' '.' text = some parts ∧ LiesUnder directory parts := by
  rcases h with rfl | ⟨rest,rfl⟩
  · have hparts := resolve_canonical htext hdirectory
    exact ⟨_,hparts,_,hparts,List.prefix_rfl⟩
  · have hparts := resolve_canonical htext (by simp)
    have hproper := proper_of_canonical htext (by simp)
    rw [List.append_assoc,List.singleton_append] at hparts hproper ⊢
    rw [List.splitOn_append_cons_self] at hparts hproper
    refine ⟨_,hparts,directory.splitOn '/',?_,List.prefix_append _ _⟩
    exact resolve_of_proper fun part hpart => hproper part (List.mem_append_left _ hpart)

end globs

theorem deepDirectory_ne_nil {pathPattern : Text} (hsafe : isSafeRelativePattern pathPattern = true)
    (hdeep : endsInDeepGlob pathPattern = true) :
    pathPattern.take (pathPattern.length - 3) ≠ [] := by
  intro hnil
  obtain ⟨directory,rfl⟩ := List.isSuffixOf_iff_suffix.mp hdeep
  obtain rfl : directory = [] := by simpa using hnil
  simp [isSafeRelativePattern] at hsafe

theorem allowedBy_of_matches {text allowedPath : Text} (htext : Canonical '/' '.' text)
    (h : pathMatchesAllowed text allowedPath = true) :
    ∃ parts, resolve '/' '.' text = some parts ∧
      AllowedBy (normalizePathPattern allowedPath) parts := by
  simp only [pathMatchesAllowed] at h
  split at h
  · cases h
  · rename_i hsafe
    simp only [Bool.not_eq_true,Bool.not_eq_false'] at hsafe
    simp only [AllowedBy]
    split at h
    · rename_i hdeep
      simp only [hdeep,if_true]
      apply liesUnder_of_canonical (deepDirectory_ne_nil hsafe hdeep) htext
      simpa [List.isPrefixOf_iff_prefix] using h
    · rename_i hdeep
      simp only [hdeep]
      exact matchesGlob_of_canonical htext h

theorem insideAllowed_of_resolved {allowedPaths : List String} {file : String} (hfile : SpelledResolved file)
    (hallowed : isAllowedFile allowedPaths file = true) : InsideAllowed allowedPaths file := by
  obtain ⟨allowedPath,hmem,hmatch⟩ := List.any_eq_true.mp hallowed
  obtain ⟨parts,hparts,hby⟩ := allowedBy_of_matches hfile hmatch
  exact ⟨parts,hparts,allowedPath,hmem,hby⟩

theorem pathCheck_sound_of_resolved {files allowedPaths : List String}
    (hfiles : ∀ file ∈ files, SpelledResolved file) : PathCheckSound files allowedPaths := by
  intro haccepted file hfile
  exact insideAllowed_of_resolved (hfiles file hfile) ((ensureChangedFilesAllowed_iff.mp haccepted).2 file hfile)

section anyName

def anyName (n : ℕ) : Text := List.replicate n '?'

theorem tokens_anyName (n : ℕ) : tokens n (anyName n) = List.replicate n .any := by
  induction n with
  | zero => rfl
  | succ n ih => simpa [anyName,List.replicate_succ,tokens] using ih

theorem matchTokens_any {n : ℕ} {text : Text} :
    matchTokens (List.replicate n .any) text = true ↔ text.length = n := by
  induction n generalizing text with
  | zero => simp [matchTokens]
  | succ n ih =>
    cases text with
    | nil => simp [List.replicate_succ,matchTokens]
    | cons c rest => simp [List.replicate_succ,matchTokens,Token.accepts,ih]

theorem mem_anyName {c : Char} {n : ℕ} (h : c ∈ anyName n) : c = '?' := List.eq_of_mem_replicate h

theorem dropSpaces_anyName (n : ℕ) : (anyName n).dropWhile isSpace = anyName n := by
  have hspace : isSpace '?' = false := by decide
  cases n with
  | zero => rfl
  | succ n => simp [anyName,List.replicate_succ,hspace]

theorem normalize_anyName (n : ℕ) : normalizePathPattern (anyName n) = anyName n := by
  have hsame : (anyName n).map (fun c => if c = '\\' then '/' else c) = anyName n := by
    simp [anyName]
  have hreverse : (anyName n).reverse = anyName n := List.reverse_replicate
  rw [normalizePathPattern,hsame,strip,dropSpaces_anyName,hreverse,dropSpaces_anyName,hreverse]

theorem splitOn_anyName {separator : Char} (h : separator ≠ '?') (n : ℕ) :
    (anyName n).splitOn separator = [anyName n] :=
  List.splitOn_eq_singleton fun hmem => h (mem_anyName hmem)

theorem safe_anyName (n : ℕ) : isSafeRelativePattern (anyName (n + 1)) = true := by
  have hdrive : hasDrive (anyName (n + 1)) = false := by cases n <;> rfl
  rw [isSafeRelativePattern,splitOn_eq,splitOn_anyName (by decide),hdrive]
  simp [anyName,List.replicate_succ,isPresentPart]

theorem not_deep_anyName (n : ℕ) : endsInDeepGlob (anyName n) = false := by
  rw [Bool.eq_false_iff]
  intro hdeep
  have hmem : '/' ∈ anyName n := (List.isSuffixOf_iff_suffix.mp hdeep).subset (by decide)
  exact absurd (mem_anyName hmem) (by decide)

theorem matches_anyName {text : Text} (h : text ≠ []) :
    pathMatchesAllowed text (anyName text.length) = true := by
  obtain ⟨n,hn⟩ := Nat.exists_eq_succ_of_ne_zero fun h0 => h (List.length_eq_zero_iff.mp h0)
  simp only [pathMatchesAllowed,normalize_anyName,not_deep_anyName,hn,safe_anyName,fnmatchcase]
  have hlength : (anyName (n + 1)).length = n + 1 := List.length_replicate
  rw [hlength,tokens_anyName]
  simpa using matchTokens_any.mpr hn

theorem allowedBy_anyName {n : ℕ} {parts : List Text} (h : AllowedBy (anyName (n + 1)) parts) :
    (joined '/' parts).length = n + 1 := by
  have hlength : (anyName (n + 1)).length = n + 1 := List.length_replicate
  simp only [AllowedBy,not_deep_anyName,Bool.false_eq_true,if_false,MatchesGlob,hlength,
    tokens_anyName] at h
  obtain ⟨globParts,hglobParts,hmatch⟩ := h
  have hcanonical : Canonical (Token.literal '/') (Token.literal '.') (List.replicate (n + 1) .any) :=
    canonical_glob (canonical_of_proper (show ∀ part ∈ (List.replicate (n + 1) '?').splitOn '/', Proper '.' part by
      have hsplit := splitOn_anyName (show '/' ≠ '?' by decide) (n + 1)
      rw [anyName] at hsplit
      rw [hsplit]
      intro part hpart
      obtain rfl := List.mem_singleton.mp hpart
      constructor <;> simp [List.replicate_succ])) (matchTokens_any.mpr List.length_replicate)
  obtain ⟨parts',hparts',hjoined⟩ := Option.map_eq_some_iff.mp hcanonical
  obtain rfl := Option.some.inj (hglobParts.symm.trans hparts')
  rw [hjoined] at hmatch
  exact matchTokens_any.mp hmatch

end anyName

theorem resolved_of_pathCheck_sound {file : String}
    (h : ∀ allowedPaths, PathCheckSound [file] allowedPaths) : SpelledResolved file := by
  by_contra hfile
  have hne : normalizePathPattern file.toList ≠ [] := by
    intro hnil
    apply hfile
    rw [SpelledResolved,hnil]
    exact canonical_nil
  obtain ⟨n,hn⟩ := Nat.exists_eq_succ_of_ne_zero fun h0 => hne (List.length_eq_zero_iff.mp h0)
  have haccepted : ensureChangedFilesAllowed [file] [String.ofList (anyName (n + 1))] = .ok () := by
    apply ensureChangedFilesAllowed_iff.mpr
    constructor
    · simp
    · simpa [isAllowedFile,hn] using matches_anyName hne
  obtain ⟨parts,hparts,allowedPath,hmem,hby⟩ := h _ haccepted file List.mem_cons_self
  obtain rfl := List.mem_singleton.mp hmem
  rw [String.toList_ofList,normalize_anyName] at hby
  have hshort := joined_shorter hparts hfile
  have hlength := allowedBy_anyName hby
  omega

theorem pathCheck_sound_iff (files allowedPaths : List String) : PathCheckSound files allowedPaths ↔
    allowedPaths = [] ∨ (∃ file ∈ files, isAllowedFile allowedPaths file = false) ∨
      ∀ file ∈ files, SpelledResolved file ∨ InsideAllowed allowedPaths file := by
  constructor
  · intro h
    by_cases hnone : allowedPaths = []
    · exact Or.inl hnone
    by_cases hrefused : ∃ file ∈ files, isAllowedFile allowedPaths file = false
    · exact Or.inr (Or.inl hrefused)
    have hall : ∀ file ∈ files, isAllowedFile allowedPaths file = true := by simpa using hrefused
    have haccepted := ensureChangedFilesAllowed_iff.mpr ⟨hnone,hall⟩
    exact Or.inr (Or.inr fun file hfile => Or.inr (h haccepted file hfile))
  · rintro (hnone | ⟨file,hfile,hrefused⟩ | hfiles) haccepted
    · exact absurd hnone (ensureChangedFilesAllowed_iff.mp haccepted).1
    · rw [(ensureChangedFilesAllowed_iff.mp haccepted).2 file hfile] at hrefused
      cases hrefused
    · intro file hfile
      rcases hfiles file hfile with hspelled | hinside
      · exact insideAllowed_of_resolved hspelled ((ensureChangedFilesAllowed_iff.mp haccepted).2 file hfile)
      · exact hinside

theorem changed_files_check_sound_iff (files allowedPaths : List String) (file : String) :
    (PathCheckSound files allowedPaths ↔
      allowedPaths = [] ∨ (∃ f ∈ files, isAllowedFile allowedPaths f = false) ∨
        ∀ f ∈ files, SpelledResolved f ∨ InsideAllowed allowedPaths f) ∧
    ((∀ paths, PathCheckSound [file] paths) ↔ SpelledResolved file) ∧
    (RemoteWorker.ensureFilesAllowed files allowedPaths = .ok () ↔
      ensureChangedFilesAllowed files allowedPaths = .ok ()) := by
  constructor
  · exact pathCheck_sound_iff files allowedPaths
  constructor
  · constructor
    · exact resolved_of_pathCheck_sound
    · intro hfile paths
      exact pathCheck_sound_of_resolved (by simpa using hfile)
  · exact RemoteWorker.ensureFilesAllowed_accepts files allowedPaths

theorem climbing_file_accepted : ¬ PathCheckSound ["docs/../secrets.env"] ["docs/**"] := by
  intro h
  obtain ⟨parts,hparts,allowedPath,hmem,hby⟩ := h (by decide) "docs/../secrets.env" (by decide)
  obtain rfl := List.mem_singleton.mp hmem
  obtain rfl : parts = ["secrets.env".toList] := by
    have hresolve : resolve '/' '.' (normalizePathPattern "docs/../secrets.env".toList) =
        some ["secrets.env".toList] := by decide
    exact Option.some.inj (hparts.symm.trans hresolve)
  have hdeep : endsInDeepGlob (normalizePathPattern "docs/**".toList) = true := by decide
  rw [AllowedBy,if_pos hdeep] at hby
  obtain ⟨directoryParts,hdirectory, hprefix⟩ := hby
  have hdocs : resolve '/' '.' "docs".toList = some ["docs".toList] := by decide
  obtain rfl := Option.some.inj (hdirectory.symm.trans hdocs)
  exact absurd hprefix (by decide)

end AiScdc
