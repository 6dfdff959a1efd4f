import Mathlib.Data.Nat.Notation

namespace TextRegex

-- What stands before a place, nearest first, and what stands behind it.
structure Place where
  before : List Char
  after : List Char

inductive Regex where
  | empty
  | boundary
  | char (accepts : Char → Bool)
  | many (accepts : Char → Bool)
  | seq (first second : Regex)
  | either (first second : Regex)

namespace Regex

def optional (r : Regex) : Regex := either r empty

def atLeastOne (accepts : Char → Bool) : Regex := seq (char accepts) (many accepts)

def word (accepts : Char → Char → Bool) (text : String) : Regex :=
  text.toList.foldr (fun c rest => seq (char (accepts c)) rest) empty

def oneOf (rs : List Regex) (last : Regex) : Regex := rs.foldr either last

end Regex

-- The longest run comes first.
def runs (accepts : Char → Bool) : List Char → List Char → List Place
  | before,[] => [⟨before,[]⟩]
  | before,c :: rest =>
    if accepts c then runs accepts (c :: before) rest ++ [⟨before,c :: rest⟩] else [⟨before,c :: rest⟩]

-- Where a match from a place can end, the preferred end first.
def ends (isWord : Char → Bool) : Regex → Place → List Place
  | .empty,place => [place]
  | .boundary,place => if place.before.head?.any isWord ≠ place.after.head?.any isWord then [place] else []
  | .char accepts,place =>
    match place.after with
    | c :: rest => if accepts c then [⟨c :: place.before,rest⟩] else []
    | [] => []
  | .many accepts,place => runs accepts place.before place.after
  | .seq first second,place => (ends isWord first place).flatMap (ends isWord second)
  | .either first second,place => ends isWord first place ++ ends isWord second place

def between (start stop : Place) : List Char := start.after.take (start.after.length - stop.after.length)

-- Matches that do not overlap are replaced from the left; none of them is empty.
def subFrom (replace : Place → Option (List Char × Place)) : ℕ → Place → List Char
  | 0,_ => []
  | fuel + 1,place =>
    match replace place with
    | some (written,next) => written ++ subFrom replace fuel next
    | none =>
      match place.after with
      | [] => []
      | c :: rest => c :: subFrom replace fuel ⟨c :: place.before,rest⟩

def sub (replace : Place → Option (List Char × Place)) (text : List Char) : List Char :=
  subFrom replace (text.length + 1) ⟨[],text⟩

end TextRegex
