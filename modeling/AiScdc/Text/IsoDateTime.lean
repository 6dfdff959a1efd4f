import Mathlib.Algebra.Group.Nat.Defs
import Mathlib.Data.List.TakeWhile
import Mathlib.Order.Lattice
import Mathlib.Order.Defs.LinearOrder
import Mathlib.Data.Nat.Notation
import AiScdc.Text.CodePoints

namespace IsoDateTime

open CodePoints

section calendar

def isLeap (year : ℕ) : Bool := year % 4 = 0 && (year % 100 ≠ 0 || year % 400 = 0)

def daysInMonth (year month : ℕ) : ℕ :=
  if month = 2 then (if isLeap year then 29 else 28)
  else if month = 4 ∨ month = 6 ∨ month = 9 ∨ month = 11 then 30 else 31

theorem daysInMonth_le (year month : ℕ) : daysInMonth year month ≤ 31 := by
  unfold daysInMonth
  split
  · split <;> omega
  · split <;> omega

-- The days before the first of January of a year from 1 on.
def daysBeforeYear (year : ℕ) : ℕ :=
  (year - 1) * 365 + (year - 1) / 4 - (year - 1) / 100 + (year - 1) / 400

def daysInYear (year : ℕ) : ℕ := if isLeap year then 366 else 365

-- The month and the day of the n-th day, from 0, at a month or later.
def monthAndDay (year : ℕ) : ℕ → ℕ → ℕ → ℕ × ℕ
  | 0,month,n => (month,n + 1)
  | fuel + 1,month,n =>
    if n < daysInMonth year month then (month,n + 1)
    else monthAndDay year fuel (month + 1) (n - daysInMonth year month)

-- The date with an ordinal that lies in the year or in one of its neighbours.
def dateNear (year ordinal : ℕ) : ℕ × ℕ × ℕ :=
  let found := if ordinal ≤ daysBeforeYear year then year - 1
    else if daysBeforeYear year + daysInYear year < ordinal then year + 1 else year
  (found,monthAndDay found 11 1 (ordinal - daysBeforeYear found - 1))

-- The ordinal of the Monday of the first week of a year.
def weekOneMonday (year : ℕ) : ℕ :=
  let first := daysBeforeYear year + 1
  let weekday := (first + 6) % 7
  if 3 < weekday then first - weekday + 7 else first - weekday

def hasWeek53 (year : ℕ) : Bool :=
  let weekday := (daysBeforeYear year + 1) % 7
  weekday = 4 || (weekday = 3 && isLeap year)

def dateOfWeek (year week day : ℕ) : Option (ℕ × ℕ × ℕ) :=
  if 1 ≤ year ∧ 1 ≤ week ∧ (week ≤ 52 ∨ (week = 53 ∧ hasWeek53 year)) ∧ 1 ≤ day ∧ day ≤ 7 then
    some (dateNear year (weekOneMonday year + (week - 1) * 7 + (day - 1)))
  else none

end calendar

-- A datetime without a time zone.
structure DateTime where
  year : ℕ
  month : ℕ
  day : ℕ
  hour : ℕ
  minute : ℕ
  second : ℕ
  microsecond : ℕ
  date : 1 ≤ year ∧ year ≤ 9999 ∧ 1 ≤ month ∧ month ≤ 12 ∧ 1 ≤ day ∧ day ≤ daysInMonth year month
  time : hour < 24 ∧ minute < 60 ∧ second < 60 ∧ microsecond < 1000000
  deriving Repr

namespace DateTime

variable {s t : DateTime}

def key (t : DateTime) : ℕ :=
  (((((t.year * 13 + t.month) * 32 + t.day) * 24 + t.hour) * 60 + t.minute) * 60 + t.second) * 1000000 +
    t.microsecond

theorem key_injective : Function.Injective key := by
  intro s t h
  have hs := s.date
  have ht := t.date
  have hsday := daysInMonth_le s.year s.month
  have htday := daysInMonth_le t.year t.month
  have hsclock := s.time
  have htclock := t.time
  unfold key at h
  obtain ⟨hy,hmo,hd,hh,hmi,hsec,hus⟩ : s.year = t.year ∧ s.month = t.month ∧ s.day = t.day ∧ s.hour = t.hour ∧
      s.minute = t.minute ∧ s.second = t.second ∧ s.microsecond = t.microsecond := by omega
  cases s
  cases t
  simp_all

instance : LinearOrder DateTime := LinearOrder.lift' key key_injective

end DateTime

section writing

def two (n : ℕ) : List ℕ := [48 + n / 10 % 10,48 + n % 10]

def four (n : ℕ) : List ℕ := [48 + n / 1000 % 10,48 + n / 100 % 10,48 + n / 10 % 10,48 + n % 10]

def six (n : ℕ) : List ℕ :=
  [48 + n / 100000 % 10,48 + n / 10000 % 10,48 + n / 1000 % 10,48 + n / 100 % 10,48 + n / 10 % 10,48 + n % 10]

-- Texts are lists of code points: 45 is '-', 58 is ':', 46 is '.', 84 is 'T'.
def dateText (year month day : ℕ) : List ℕ := four year ++ 45 :: two month ++ 45 :: two day

def timeText (hour minute second microsecond : ℕ) : List ℕ :=
  two hour ++ 58 :: two minute ++ 58 :: two second ++
    if microsecond = 0 then [] else 46 :: six microsecond

def isoformat (t : DateTime) : List ℕ :=
  dateText t.year t.month t.day ++ 84 :: timeText t.hour t.minute t.second t.microsecond

end writing

section reading

def number (text : List ℕ) : Option ℕ :=
  if text.all isDigit then some (text.foldl (fun n code => n * 10 + (code - 48)) 0) else none

-- Only a separator may be a surrogate; it counts as a 'T'.
def sanitize (text : List ℕ) : List ℕ :=
  match [7,8,10].find? fun place => text[place]?.any isSurrogate with
  | some place => text.set place 84
  | none => text

-- Where the date ends: YYYY-MM-DD, YYYYMMDD, YYYY-Www, YYYYWww, YYYY-Www-D or YYYYWwwD.
def separatorAt (text : List ℕ) : ℕ :=
  if text[4]? = some 45 then
    if text[5]? = some 87 then
      if text[8]? = some 45 ∧ ¬ text[10]?.any isDigit then 10 else 8
    else 10
  else if text[4]? = some 87 then
    let digits := 7 + ((text.drop 7).takeWhile isDigit).length
    if digits < 9 then digits else if digits % 2 = 0 then 7 else 8
  else 8

def parseWeek (year : ℕ) (dashed : Bool) : List ℕ → Option (ℕ × ℕ × ℕ)
  | [a,b] => do dateOfWeek year (← number [a,b]) 1
  | [a,b,d] => if dashed then none else do dateOfWeek year (← number [a,b]) (← number [d])
  | [a,b,mark,d] => if dashed && mark = 45 then do dateOfWeek year (← number [a,b]) (← number [d]) else none
  | _ => none

def parseMonthDay (year : ℕ) (dashed : Bool) : List ℕ → Option (ℕ × ℕ × ℕ)
  | [a,b,c,d] => if dashed then none else do return (year,← number [a,b],← number [c,d])
  | [a,b,mark,c,d] => if dashed && mark = 45 then do return (year,← number [a,b],← number [c,d]) else none
  | _ => none

def parseAfterYear (year : ℕ) (dashed : Bool) (text : List ℕ) : Option (ℕ × ℕ × ℕ) :=
  if text.head? = some 87 then parseWeek year dashed text.tail else parseMonthDay year dashed text

def parseDate (text : List ℕ) : Option (ℕ × ℕ × ℕ) := do
  let year ← number (text.take 4)
  if text[4]? = some 45 then parseAfterYear year true (text.drop 5)
  else parseAfterYear year false (text.drop 4)

def clock (parts : List ℕ) (microsecond : ℕ) : ℕ × ℕ × ℕ × ℕ :=
  (parts.getD 0 0,parts.getD 1 0,parts.getD 2 0,microsecond)

-- At most six digits count, the others are passed over. `last` is what follows the text.
def parseFraction (parts : List ℕ) (last : ℕ) (text : List ℕ) : Option ((ℕ × ℕ × ℕ × ℕ) × Bool) := do
  let digits ← number (text.take 6)
  let after := ((text.drop 6).dropWhile isDigit).headD last
  return (clock parts (digits * 10 ^ (6 - text.length)),after ≠ 0)

-- A clock ends at its text's end or one character before.
def ending (last : ℕ) : List ℕ → Option Bool
  | [] => some (last ≠ 0)
  | [code] => if code < 128 then some (code ≠ 0) else none
  | _ => none

def parseParts (colons : Bool) (last : ℕ) :
    ℕ → List ℕ → List ℕ → Option ((ℕ × ℕ × ℕ × ℕ) × Bool)
  | 0,parts,text => parseFraction parts last text
  | n + 1,parts,a :: b :: rest => do
    let part ← number [a,b]
    match ending last rest,rest with
    | some more,_ => return (clock (parts ++ [part]) 0,more)
    | none,code :: text =>
      if colons && code = 58 then parseParts colons last n (parts ++ [part]) text
      else if code = 46 || code = 44 then parseFraction (parts ++ [part]) last text
      else if colons then none
      else parseParts colons last n (parts ++ [part]) rest
    | none,[] => none
  | _,_,_ => none

-- Hours, minutes and seconds, with colons or without, and whether something follows them.
def parseClock (last : ℕ) (text : List ℕ) : Option ((ℕ × ℕ × ℕ × ℕ) × Bool) :=
  parseParts (text[2]? = some 58) last 3 [] text

def isZoneMark (code : ℕ) : Bool := code = 43 || code = 45 || code = 90

-- Shorter than a day.
def validOffset : ℕ × ℕ × ℕ × ℕ → Bool
  | (hours,minutes,seconds,_) => (hours * 60 + minutes) * 60 + seconds < 86400

-- The offset is checked and dropped. One character may stand between the clock and its offset, and
-- what follows a 'Z' is not read from a NUL on.
def parseTime (text : List ℕ) : Option (ℕ × ℕ × ℕ × ℕ) := do
  let front := text.takeWhile fun code => !isZoneMark code
  match text.drop front.length with
  | [] =>
    let (clock,more) ← parseClock 0 front
    if more then none else return clock
  | mark :: zone =>
    let (clock,_) ← parseClock mark front
    if mark = 90 then
      if zone.headD 0 = 0 then return clock else none
    else
      let (offset,more) ← parseClock 0 zone
      if !more && validOffset offset then return clock else none

def dateTime (date : ℕ × ℕ × ℕ) (clock : ℕ × ℕ × ℕ × ℕ) : Option DateTime :=
  match date,clock with
  | (year,month,day),(hour,minute,second,microsecond) =>
    if hdate : 1 ≤ year ∧ year ≤ 9999 ∧ 1 ≤ month ∧ month ≤ 12 ∧ 1 ≤ day ∧ day ≤ daysInMonth year month then
      if htime : hour < 24 ∧ minute < 60 ∧ second < 60 ∧ microsecond < 1000000 then
        some ⟨year,month,day,hour,minute,second,microsecond,hdate,htime⟩
      else none
    else none

-- Any one character may separate the date from the time.
def fromisoformat (source : List ℕ) : Option DateTime :=
  let text := sanitize source
  if text.length < 7 ∨ text.any isSurrogate then none
  else do
    let date ← parseDate (text.take (separatorAt text))
    match text.drop (separatorAt text) with
    | [] => dateTime date (0,0,0,0)
    | _ :: time => dateTime date (← parseTime time)

end reading

section roundTrip

@[simp]
theorem isDigit_add (n : ℕ) : isDigit (48 + n % 10) = true := by
  simp only [isDigit,Bool.and_eq_true,decide_eq_true_eq]
  omega

theorem number_two {n : ℕ} (h : n < 100) : number (two n) = some n := by
  simp only [number,two,List.all_cons,isDigit_add,List.all_nil,Bool.and_self,if_true,List.foldl_cons,
    List.foldl_nil,Option.some.injEq]
  omega

theorem number_four {n : ℕ} (h : n < 10000) : number (four n) = some n := by
  simp only [number,four,List.all_cons,isDigit_add,List.all_nil,Bool.and_self,if_true,List.foldl_cons,
    List.foldl_nil,Option.some.injEq]
  omega

theorem number_six {n : ℕ} (h : n < 1000000) : number (six n) = some n := by
  simp only [number,six,List.all_cons,isDigit_add,List.all_nil,Bool.and_self,if_true,List.foldl_cons,
    List.foldl_nil,Option.some.injEq]
  omega

theorem parseAfterYear_dateText {year month day : ℕ} (hmonth : month < 100) (hday : day < 100) :
    parseAfterYear year true (two month ++ 45 :: two day) = some (year,month,day) := by
  have hmark : 48 + month / 10 % 10 ≠ 87 := by omega
  have hm := number_two hmonth
  have hd := number_two hday
  rw [two] at hm hd
  simp [parseAfterYear,parseMonthDay,two,hm,hd,hmark]

theorem parseDate_dateText (t : DateTime) :
    parseDate (dateText t.year t.month t.day) = some (t.year,t.month,t.day) := by
  have hdate := t.date
  have hday := daysInMonth_le t.year t.month
  change (number (four t.year)).bind (fun year => parseAfterYear year true (two t.month ++ 45 :: two t.day)) = _
  rw [number_four (by omega),Option.bind_some,parseAfterYear_dateText (by omega) (by omega)]

theorem parseFraction_six (parts : List ℕ) (last : ℕ) {n : ℕ} (h : n < 1000000) :
    parseFraction parts last (six n) = some (clock parts n,decide (last ≠ 0)) := by
  change (number (six n)).bind
    (fun digits => some (clock parts (digits * 10 ^ (6 - 6)),decide (last ≠ 0))) = _
  rw [number_six h,Option.bind_some,Nat.sub_self,Nat.pow_zero,Nat.mul_one]

theorem parseClock_timeText (t : DateTime) :
    parseClock 0 (timeText t.hour t.minute t.second t.microsecond) =
      some ((t.hour,t.minute,t.second,t.microsecond),false) := by
  have htime := t.time
  have hh := number_two (n := t.hour) (by omega)
  have hm := number_two (n := t.minute) (by omega)
  have hs := number_two (n := t.second) (by omega)
  rw [two] at hh hm hs
  rw [timeText]
  split
  · next hzero => simp [parseClock,parseParts,two,hh,hm,hs,ending,clock,hzero]
  · next =>
    have hsix := parseFraction_six [t.hour,t.minute,t.second] 0 htime.2.2.2
    simp only [six] at hsix
    simp [parseClock,parseParts,two,six,hh,hm,hs,ending,clock,hsix]

theorem mem_two {n code : ℕ} (h : code ∈ two n) : 46 ≤ code ∧ code ≤ 58 := by
  simp only [two,List.mem_cons,List.not_mem_nil,or_false] at h
  omega

theorem mem_six {n code : ℕ} (h : code ∈ six n) : 46 ≤ code ∧ code ≤ 58 := by
  simp only [six,List.mem_cons,List.not_mem_nil,or_false] at h
  omega

theorem mem_four {n code : ℕ} (h : code ∈ four n) : 46 ≤ code ∧ code ≤ 58 := by
  simp only [four,List.mem_cons,List.not_mem_nil,or_false] at h
  omega

theorem mem_timeText {hour minute second microsecond code : ℕ}
    (h : code ∈ timeText hour minute second microsecond) : 46 ≤ code ∧ code ≤ 58 := by
  simp only [timeText,List.mem_append,List.mem_cons,or_assoc] at h
  rcases h with h | rfl | h | rfl | h | h
  · exact mem_two h
  · decide
  · exact mem_two h
  · decide
  · exact mem_two h
  · split at h
    · cases h
    · rcases List.mem_cons.mp h with rfl | h
      · decide
      · exact mem_six h

theorem mem_isoformat {t : DateTime} {code : ℕ} (h : code ∈ isoformat t) : 45 ≤ code ∧ code ≤ 84 := by
  simp only [isoformat,dateText,List.mem_append,List.mem_cons,or_assoc] at h
  rcases h with h | rfl | h | rfl | h | rfl | h
  · exact (mem_four h).imp (by omega) (by omega)
  · decide
  · exact (mem_two h).imp (by omega) (by omega)
  · decide
  · exact (mem_two h).imp (by omega) (by omega)
  · decide
  · exact (mem_timeText h).imp (by omega) (by omega)

theorem parseTime_timeText (t : DateTime) :
    parseTime (timeText t.hour t.minute t.second t.microsecond) =
      some (t.hour,t.minute,t.second,t.microsecond) := by
  have hfront : (timeText t.hour t.minute t.second t.microsecond).takeWhile (fun code => !isZoneMark code) =
      timeText t.hour t.minute t.second t.microsecond := by
    apply List.takeWhile_eq_self_iff.mpr
    intro code hcode
    have hrange := mem_timeText hcode
    simp only [isZoneMark,Bool.not_or,Bool.and_eq_true,Bool.not_eq_true',decide_eq_false_iff_not]
    omega
  rw [parseTime,hfront]
  simp [parseClock_timeText]

theorem scalar_isoformat (t : DateTime) : ∀ code ∈ isoformat t, IsScalar code := by
  intro code h
  have hrange := mem_isoformat h
  exact .inl (by omega)

theorem sanitize_isoformat (t : DateTime) : sanitize (isoformat t) = isoformat t := by
  rw [sanitize]
  split
  · next place hplace =>
    have hfound := List.find?_some hplace
    obtain ⟨code,hcode,hsurrogate⟩ := (Option.any_eq_true _ _).mp hfound
    rw [scalar_isSurrogate (scalar_isoformat t code (List.mem_of_getElem? hcode))] at hsurrogate
    cases hsurrogate
  · rfl

theorem separatorAt_isoformat (t : DateTime) : separatorAt (isoformat t) = 10 := by
  have hdate := t.date
  have hmark : 48 + t.month / 10 % 10 ≠ 87 := by omega
  simp [separatorAt,isoformat,dateText,four,two,hmark]

theorem dateTime_self (t : DateTime) :
    dateTime (t.year,t.month,t.day) (t.hour,t.minute,t.second,t.microsecond) = some t := by
  simp only [dateTime,t.date,t.time,and_self,dite_true]

theorem fromisoformat_isoformat (t : DateTime) : fromisoformat (isoformat t) = some t := by
  have hlength : ¬ ((isoformat t).length < 7 ∨ (isoformat t).any isSurrogate = true) := by
    rintro (hshort | hany)
    · simp only [isoformat,dateText,four,two,List.length_append,List.length_cons,List.length_nil] at hshort
      omega
    · obtain ⟨code,hcode,hsurrogate⟩ := List.any_eq_true.mp hany
      rw [scalar_isSurrogate (scalar_isoformat t code hcode)] at hsurrogate
      cases hsurrogate
  simp only [fromisoformat,sanitize_isoformat,if_neg hlength,separatorAt_isoformat]
  have htake : (isoformat t).take 10 = dateText t.year t.month t.day := rfl
  have hdrop : (isoformat t).drop 10 = 84 :: timeText t.hour t.minute t.second t.microsecond := rfl
  simp only [htake,hdrop,parseDate_dateText,parseTime_timeText,Option.bind_eq_bind,Option.bind_some,dateTime_self]

end roundTrip

end IsoDateTime
