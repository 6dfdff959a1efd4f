import AiScdc.Sandbox

namespace AiScdc

def isPresentPart (part : Text) : Bool := part ≠ [] && part ≠ ['.']

def splitOn (separator : Char) : Text → List Text
  | [] => [[]]
  | c :: rest =>
    match splitOn separator rest with
    | [] => [[c]]
    | part :: parts => if c = separator then [] :: part :: parts else (c :: part) :: parts

def normalizePathPattern (pathPattern : Text) : Text :=
  strip (pathPattern.map fun c => if c = '\\' then '/' else c)

def hasDrive : Text → Bool
  | c :: ':' :: _ => c.isAlpha
  | _ => false

def isSafeRelativePattern (pathPattern : Text) : Bool :=
  pathPattern ≠ [] && pathPattern.head? ≠ some '/' && !hasDrive pathPattern &&
    ((splitOn '/' pathPattern).filter isPresentPart).all fun part => part ≠ ['.','.']

inductive Token where
  | star
  | any
  | oneOf (negated : Bool) (ranges : List (Char × Char))
  | literal (c : Char)
  deriving DecidableEq, Repr

-- The members of a class: a character, or a range up to another.
def classMembers : Text → List (Char × Option Char)
  | a :: '-' :: b :: rest => (a,some b) :: classMembers rest
  | a :: rest => (a,none) :: classMembers rest
  | [] => []

def isEmptyRange (member : Char × Option Char) : Bool := member.2.any fun last => last < member.1

def classRanges (members : List (Char × Option Char)) : List (Char × Char) :=
  members.map fun member => (member.1,member.2.getD member.1)

-- Empty ranges are left out, and a `!` that comes first only then still negates the class.
def classToken (negated : Bool) (body : Text) : Token :=
  match negated, (classMembers body).filter fun member => !isEmptyRange member with
  | false, ('!',none) :: rest => .oneOf true (classRanges rest)
  | false, ('!',some last) :: rest => .oneOf true (('-','-') :: (last,last) :: classRanges rest)
  | _, members => .oneOf negated (classRanges members)

def untilBracket : Text → Option (Text × Text)
  | [] => none
  | c :: rest =>
    if c = ']' then some ([],rest) else (untilBracket rest).map fun r => (c :: r.1,r.2)

def characterClass (text : Text) : Option (Token × Text) :=
  let (negated,body) := match text with
    | '!' :: rest => (true,rest)
    | rest => (false,rest)
  match body with
  | ']' :: rest => (untilBracket rest).map fun r => (classToken negated (']' :: r.1),r.2)
  | rest => (untilBracket rest).map fun r => (classToken negated r.1,r.2)

-- A bracket that is never closed stands for itself.
def tokens : ℕ → Text → List Token
  | 0, _ => []
  | _ + 1, [] => []
  | fuel + 1, '*' :: rest => .star :: tokens fuel rest
  | fuel + 1, '?' :: rest => .any :: tokens fuel rest
  | fuel + 1, '[' :: rest =>
    match characterClass rest with
    | some (token,rest') => token :: tokens fuel rest'
    | none => .literal '[' :: tokens fuel rest
  | fuel + 1, c :: rest => .literal c :: tokens fuel rest

def Token.accepts (c : Char) : Token → Bool
  | .star => false
  | .any => true
  | .oneOf negated ranges => negated != ranges.any fun r => r.1 ≤ c && c ≤ r.2
  | .literal d => c = d

def matchTokens : List Token → Text → Bool
  | [], name => name.isEmpty
  | .star :: rest, name => name.tails.any (matchTokens rest)
  | _ :: _, [] => false
  | token :: rest, c :: name => token.accepts c && matchTokens rest name

def fnmatchcase (name pat : Text) : Bool := matchTokens (tokens pat.length pat) name

def endsInDeepGlob (pathPattern : Text) : Bool := "/**".toList.isSuffixOf pathPattern

def pathMatchesAllowed (fileChanged allowedPath : Text) : Bool :=
  let allowed := normalizePathPattern allowedPath
  if !isSafeRelativePattern allowed then false
  else if endsInDeepGlob allowed then
    let directory := allowed.take (allowed.length - 3)
    fileChanged = directory || (directory ++ ['/']).isPrefixOf fileChanged
  else fnmatchcase fileChanged allowed

example : pathMatchesAllowed "src/a/b.py".toList " src\\**".toList = true := by decide

example : pathMatchesAllowed "docs/a1.md".toList "docs/?[!a-z].m*".toList = true := by decide

example : pathMatchesAllowed "a1".toList "a[c-a!x]".toList = true := by decide

def isAllowedFile (allowedPaths : List String) (fileChanged : String) : Bool :=
  allowedPaths.any fun allowedPath =>
    pathMatchesAllowed (normalizePathPattern fileChanged.toList) allowedPath.toList

def outsideAllowedPaths (fileChanged : String) : String :=
  s!"Changed file is outside allowed_paths: {String.ofList (normalizePathPattern fileChanged.toList)}"

def ensureChangedFilesAllowed (filesChanged allowedPaths : List String) : Except String Unit :=
  if allowedPaths = [] then .error "Task has no allowed_paths for local runner changes"
  else
    match filesChanged.find? fun file => !isAllowedFile allowedPaths file with
    | some file => .error (outsideAllowedPaths file)
    | none => .ok ()

theorem ensureChangedFilesAllowed_ok {filesChanged allowedPaths : List String} {u : Unit}
    (h : ensureChangedFilesAllowed filesChanged allowedPaths = .ok u) :
    ∀ file ∈ filesChanged, isAllowedFile allowedPaths file = true := by
  unfold ensureChangedFilesAllowed at h
  split at h
  · cases h
  · split at h
    · cases h
    · rename_i hnone
      simpa using hnone

end AiScdc
