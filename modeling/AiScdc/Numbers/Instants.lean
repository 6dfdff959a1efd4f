import Mathlib.Data.Int.Basic

namespace Instants

-- The first and the last instant a datetime can hold, in microseconds.
def minInstant : ℤ := -62135596800000000

def maxInstant : ℤ := 253402300799999999

def Representable (t : ℤ) : Prop := minInstant ≤ t ∧ t ≤ maxInstant

instance : DecidablePred Representable := fun _ => inferInstanceAs (Decidable (_ ∧ _))

-- A datetime by its clock face, with the offset of its time zone if it has one.
structure Datetime where
  face : ℤ
  offset : Option ℤ
  representable : Representable face

namespace Datetime

-- A naive datetime is taken for UTC.
def instant (d : Datetime) : ℤ := d.face - d.offset.getD 0

-- None where the subtraction overflows.
def asUtc (d : Datetime) : Option ℤ := if Representable d.instant then some d.instant else none

end Datetime

end Instants
