import Mathlib.Data.Rat.Floor

namespace JsonValues

-- A text as it is decoded. Lone surrogates stand in `text` as replacement characters, and are kept
-- by their places.
structure PyStr where
  text : String
  surrogates : List (ℕ × ℕ)
  deriving DecidableEq, Repr

def plain (text : String) : PyStr := ⟨text,[]⟩

def PyStr.loneSurrogates (s : PyStr) : Bool := !s.surrogates.isEmpty

inductive PyFloat where
  | nan | posInf | negInf
  | finite (value : ℚ)
  deriving DecidableEq

inductive Json where
  | null
  | bool (value : Bool)
  | int (value : ℤ)
  | float (value : PyFloat)
  | str (value : PyStr)
  | array (items : List Json)
  | object (fields : List (PyStr × Json))

abbrev Object := List (PyStr × Json)

-- payload.get(name): the last of several fields of one name counts.
def field (fields : Object) (name : String) : Json :=
  match fields.reverse.find? fun entry => entry.1 = plain name with
  | some entry => entry.2
  | none => .null

namespace Json

def isNull : Json → Bool
  | null => true
  | _ => false

def asText : Json → Option PyStr
  | str value => some value
  | _ => none

def asObject : Json → Option Object
  | object fields => some fields
  | _ => none

def asList : Json → Option (List Json)
  | array items => some items
  | _ => none

-- value == n, where True is 1 and a float counts as its value.
def equalsInt (n : ℤ) : Json → Bool
  | int value => value = n
  | float (.finite value) => value = n
  | bool value => (if value then 1 else 0) = n
  | _ => false

def equalsStr (s : PyStr) (value : Json) : Bool := value.asText = some s

def equalsText (text : String) (value : Json) : Bool := value.asText = some (plain text)

-- A list or a dict has no hash.
def hashable : Json → Bool
  | array _ | object _ => false
  | _ => true

-- isinstance(value, str) and value
def nonEmptyText (value : Json) : Option PyStr := value.asText.filter fun s => s.text ≠ ""

end Json

def stringList (value : Json) : List PyStr := (value.asList.getD []).filterMap Json.asText

-- Half to even.
def roundHalfEven (q : ℚ) : ℤ :=
  let rest := q - ⌊q⌋
  if rest < 1 / 2 ∨ (rest = 1 / 2 ∧ ⌊q⌋ % 2 = 0) then ⌊q⌋ else ⌊q⌋ + 1

end JsonValues
