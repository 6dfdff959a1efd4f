import Mathlib.Data.List.TakeWhile
import Mathlib.Data.List.Lex
import Mathlib.Data.List.Sort
import AiScdc.Text.CodePoints
import AiScdc.Text.Decimal

namespace JsonText

open CodePoints

inductive Value where
  | null
  | bool (value : Bool)
  | int (value : ℤ)
  | float (literal : List ℕ)
  | str (text : List ℕ)
  | array (items : List Value)
  | object (fields : List (List ℕ × Value))

inductive Scalar where
  | null
  | bool (value : Bool)
  | int (value : ℤ)
  | str (text : List ℕ)

def Scalar.value : Scalar → Value
  | .null => .null
  | .bool value => .bool value
  | .int value => .int value
  | .str text => .str text

section writing

def hexDigit (n : ℕ) : ℕ := if n < 10 then 48 + n else 87 + n

def unit (n : ℕ) : List ℕ :=
  [hexDigit (n / 4096 % 16),hexDigit (n / 256 % 16),hexDigit (n / 16 % 16),hexDigit (n % 16)]

def escape (code : ℕ) : List ℕ :=
  if code = 34 ∨ code = 92 then [92,code]
  else if code = 8 then [92,98]
  else if code = 9 then [92,116]
  else if code = 10 then [92,110]
  else if code = 12 then [92,102]
  else if code = 13 then [92,114]
  else if 32 ≤ code ∧ code ≤ 126 then [code]
  else if code < 0x10000 then 92 :: 117 :: unit code
  else 92 :: 117 :: unit (0xD800 + (code - 0x10000) / 1024) ++
    92 :: 117 :: unit (0xDC00 + (code - 0x10000) % 1024)

def quote (text : List ℕ) : List ℕ := 34 :: text.flatMap escape ++ [34]

def writeScalar : Scalar → List ℕ
  | .null => codes "null"
  | .bool true => codes "true"
  | .bool false => codes "false"
  | .int n => (Decimal.ofInt n).map Char.toNat
  | .str text => quote text

def writeField (entry : List ℕ × Scalar) : List ℕ := quote entry.1 ++ 58 :: writeScalar entry.2

def writeFields : List (List ℕ × Scalar) → List ℕ
  | [] => []
  | [entry] => writeField entry
  | entry :: rest => writeField entry ++ 44 :: writeFields rest

def sorted (fields : List (List ℕ × Scalar)) : List (List ℕ × Scalar) :=
  fields.insertionSort fun a b => a.1 ≤ b.1

-- json.dumps(fields, separators=(",", ":"), sort_keys=True)
def dumps (fields : List (List ℕ × Scalar)) : List ℕ := 123 :: writeFields (sorted fields) ++ [125]

end writing

section reading

inductive Fault where
  | valueError
  | recursionError
  deriving DecidableEq, Repr

def isSpace (code : ℕ) : Bool := code = 32 || code = 9 || code = 10 || code = 13

def skip (text : List ℕ) : List ℕ := text.dropWhile isSpace

def hexValue (code : ℕ) : Option ℕ :=
  if 48 ≤ code ∧ code ≤ 57 then some (code - 48)
  else if 97 ≤ code ∧ code ≤ 102 then some (code - 87)
  else if 65 ≤ code ∧ code ≤ 70 then some (code - 55)
  else none

def scanUnit : List ℕ → Option (ℕ × List ℕ)
  | a :: b :: c :: d :: rest => do
    let n := (← hexValue a) * 4096 + (← hexValue b) * 256 + (← hexValue c) * 16 + (← hexValue d)
    return (n,rest)
  | _ => none

def isHigh (n : ℕ) : Bool := 0xD800 ≤ n && n < 0xDC00

def isLow (n : ℕ) : Bool := 0xDC00 ≤ n && n < 0xE000

-- Two escapes that follow each other may be one character.
def scanUnits (text : List ℕ) : Option (ℕ × List ℕ) := do
  let (n,rest) ← scanUnit text
  if isHigh n ∧ rest[0]? = some 92 ∧ rest[1]? = some 117 then
    let (m,after) ← scanUnit (rest.drop 2)
    return if isLow m then (0x10000 + (n - 0xD800) * 1024 + (m - 0xDC00),after) else (n,rest)
  else return (n,rest)

def escaped (mark : ℕ) : Option ℕ :=
  if mark = 34 ∨ mark = 92 ∨ mark = 47 then some mark
  else if mark = 98 then some 8
  else if mark = 116 then some 9
  else if mark = 110 then some 10
  else if mark = 102 then some 12
  else if mark = 114 then some 13
  else none

def scanCode : List ℕ → Option (ℕ × List ℕ)
  | [] => none
  | code :: rest =>
    if code = 92 then
      match rest with
      | [] => none
      | mark :: after => if mark = 117 then scanUnits after else (escaped mark).map fun code => (code,after)
    else if code < 32 then none
    else some (code,rest)

def scanString : ℕ → List ℕ → Option (List ℕ × List ℕ)
  | 0,_ => none
  | fuel + 1,text =>
    if text.head? = some 34 then some ([],text.tail)
    else do
      let (code,rest) ← scanCode text
      let (front,after) ← scanString fuel rest
      return (code :: front,after)

def scanFraction : List ℕ → List ℕ
  | mark :: rest =>
    let digits := rest.takeWhile isDigit
    if mark = 46 ∧ digits ≠ [] then mark :: digits else []
  | [] => []

def scanExponent : List ℕ → List ℕ
  | mark :: rest =>
    let sign := (rest.take 1).filter fun code => code = 43 || code = 45
    let digits := (rest.drop sign.length).takeWhile isDigit
    if (mark = 101 ∨ mark = 69) ∧ digits ≠ [] then mark :: sign ++ digits else []
  | [] => []

def integer (sign digits : List ℕ) : ℤ :=
  let n : ℕ := Nat.ofDigitChars 10 (digits.map Char.ofNat) 0
  if sign = [] then n else -n

def scanUnsigned (sign text : List ℕ) : Option (Value × List ℕ) :=
  let digits := if text.head? = some 48 then [48] else text.takeWhile isDigit
  let fraction := scanFraction (text.drop digits.length)
  let exponent := scanExponent (text.drop (digits.length + fraction.length))
  if digits = [] then none
  else if fraction ++ exponent ≠ [] then
    some (.float (sign ++ digits ++ fraction ++ exponent),
      text.drop (digits.length + fraction.length + exponent.length))
  else if digits.length ≤ Decimal.maxDigits then some (.int (integer sign digits),text.drop digits.length)
  else none

def scanNumber (text : List ℕ) : Option (Value × List ℕ) :=
  if text.head? = some 45 then scanUnsigned [45] text.tail else scanUnsigned [] text

def words : List (List ℕ × Value) :=
  [(codes "null",.null),(codes "true",.bool true),(codes "false",.bool false),
    (codes "NaN",.float (codes "NaN")),(codes "Infinity",.float (codes "Infinity")),
    (codes "-Infinity",.float (codes "-Infinity"))]

def scanPlain (text : List ℕ) : Option (Value × List ℕ) :=
  match words.find? fun word => word.1.isPrefixOf text with
  | some word => some (word.2,text.drop word.1.length)
  | none => scanNumber text

def orInvalid {α : Type} : Option α → Except Fault α
  | some a => .ok a
  | none => .error .valueError

mutual

-- `room` is how many more arrays and objects may be opened.
def scanValue : ℕ → ℕ → List ℕ → Except Fault (Value × List ℕ)
  | fuel + 1,room,code :: rest =>
    if code = 34 then do
      let (text,after) ← orInvalid (scanString (rest.length + 1) rest)
      return (.str text,after)
    else if code = 123 then
      if room = 0 then .error .recursionError
      else if (skip rest).head? = some 125 then .ok (.object [],(skip rest).tail)
      else do
        let (fields,after) ← scanMembers fuel (room - 1) (skip rest)
        return (.object fields,after)
    else if code = 91 then
      if room = 0 then .error .recursionError
      else if (skip rest).head? = some 93 then .ok (.array [],(skip rest).tail)
      else do
        let (items,after) ← scanItems fuel (room - 1) (skip rest)
        return (.array items,after)
    else orInvalid (scanPlain (code :: rest))
  | _,_,_ => .error .valueError

def scanMembers : ℕ → ℕ → List ℕ → Except Fault (List (List ℕ × Value) × List ℕ)
  | fuel + 1,room,code :: rest => do
    if code ≠ 34 then throw .valueError
    let (key,after) ← orInvalid (scanString (rest.length + 1) rest)
    if (skip after).head? ≠ some 58 then throw .valueError
    let (value,after) ← scanValue fuel room (skip (skip after).tail)
    if (skip after).head? = some 125 then return ([(key,value)],(skip after).tail)
    if (skip after).head? ≠ some 44 then throw .valueError
    let (fields,after) ← scanMembers fuel room (skip (skip after).tail)
    return ((key,value) :: fields,after)
  | _,_,_ => .error .valueError

def scanItems : ℕ → ℕ → List ℕ → Except Fault (List Value × List ℕ)
  | fuel + 1,room,text => do
    let (value,after) ← scanValue fuel room text
    if (skip after).head? = some 93 then return ([value],(skip after).tail)
    if (skip after).head? ≠ some 44 then throw .valueError
    let (items,after) ← scanItems fuel room (skip (skip after).tail)
    return (value :: items,after)
  | _,_,_ => .error .valueError

end

def loads (room : ℕ) (text : List ℕ) : Except Fault Value := do
  if text.head? = some 0xFEFF then throw .valueError
  let (value,rest) ← scanValue (text.length + 1) room (skip text)
  if skip rest = [] then return value else throw .valueError

-- payload.get(name): the last of several fields of one name counts.
def field (fields : List (List ℕ × Value)) (name : String) : Value :=
  match fields.reverse.find? fun entry => entry.1 = codes name with
  | some entry => entry.2
  | none => .null

end reading

section roundTrip

def Readable : Scalar → Prop
  | .int n => n.natAbs < 10 ^ Decimal.maxDigits
  | .str text => ∀ code ∈ text, IsScalar code
  | _ => True

theorem hexValue_hexDigit {n : ℕ} (h : n < 16) : hexValue (hexDigit n) = some n := by
  revert n
  decide

theorem scanUnit_unit {n : ℕ} (h : n < 65536) (rest : List ℕ) :
    scanUnit (unit n ++ rest) = some (n,rest) := by
  have hdigit (k : ℕ) : hexValue (hexDigit (k % 16)) = some (k % 16) :=
    hexValue_hexDigit (Nat.mod_lt _ (by decide))
  simp only [unit,List.cons_append,List.nil_append,scanUnit,hdigit,Option.bind_eq_bind,Option.bind_some,
    Option.pure_def,Option.some.injEq,Prod.mk.injEq,and_true]
  omega

theorem scanUnits_single {n : ℕ} (h : n < 65536) (hn : isHigh n = false) (rest : List ℕ) :
    scanUnits (unit n ++ rest) = some (n,rest) := by
  simp [scanUnits,scanUnit_unit h,hn]

theorem scanUnits_pair {n m : ℕ} (hn : isHigh n = true) (hm : isLow m = true) (rest : List ℕ) :
    scanUnits (unit n ++ 92 :: 117 :: unit m ++ rest) =
      some (0x10000 + (n - 0xD800) * 1024 + (m - 0xDC00),rest) := by
  have hnBound : n < 65536 := by simp [isHigh] at hn; omega
  have hmBound : m < 65536 := by simp [isLow] at hm; omega
  rw [List.append_assoc]
  simp [scanUnits,scanUnit_unit hnBound,scanUnit_unit hmBound,hn,hm]

theorem scanCode_escape {code : ℕ} (h : IsScalar code) (rest : List ℕ) :
    scanCode (escape code ++ rest) = some (code,rest) := by
  rw [escape]
  split
  · next hquote => rcases hquote with rfl | rfl <;> rfl
  split
  · next heq => subst heq; rfl
  split
  · next heq => subst heq; rfl
  split
  · next heq => subst heq; rfl
  split
  · next heq => subst heq; rfl
  split
  · next heq => subst heq; rfl
  split
  · next hquote _ _ _ _ _ hplain =>
    have hslash : code ≠ 92 := fun heq => hquote (.inr heq)
    have hspace : ¬ code < 32 := Nat.not_lt.mpr hplain.1
    simp [scanCode,hslash,hspace]
  split
  · next hunit =>
    have hhigh : isHigh code = false := by
      simp only [isHigh,Bool.and_eq_false_iff,decide_eq_false_iff_not]
      unfold IsScalar at h
      omega
    exact scanUnits_single hunit hhigh rest
  · next hunit =>
    have hbound : code < 0x110000 := by unfold IsScalar at h; omega
    have hhigh : isHigh (0xD800 + (code - 0x10000) / 1024) = true := by
      simp only [isHigh,Bool.and_eq_true,decide_eq_true_eq]
      omega
    have hlow : isLow (0xDC00 + (code - 0x10000) % 1024) = true := by
      simp only [isLow,Bool.and_eq_true,decide_eq_true_eq]
      omega
    have hpair := scanUnits_pair hhigh hlow rest
    have hcode : 0x10000 + (0xD800 + (code - 0x10000) / 1024 - 0xD800) * 1024 +
        (0xDC00 + (code - 0x10000) % 1024 - 0xDC00) = code := by omega
    rw [hcode] at hpair
    exact hpair

theorem head?_escape (code : ℕ) (rest : List ℕ) : (escape code ++ rest).head? ≠ some 34 := by
  rw [escape]
  split
  · simp
  repeat' split
  all_goals simp
  omega

theorem length_escape (code : ℕ) : 1 ≤ (escape code).length := by
  unfold escape
  repeat' split
  all_goals simp

theorem scanString_escape {text : List ℕ} (h : ∀ code ∈ text, IsScalar code) {fuel : ℕ}
    (hfuel : text.length < fuel) (rest : List ℕ) :
    scanString fuel (text.flatMap escape ++ 34 :: rest) = some (text,rest) := by
  induction text generalizing fuel with
  | nil =>
    cases fuel with
    | zero => cases hfuel
    | succ fuel => rfl
  | cons code text ih =>
    cases fuel with
    | zero => cases hfuel
    | succ fuel =>
      have htail := ih (fun c hc => h c (List.mem_cons_of_mem _ hc)) (Nat.lt_of_succ_lt_succ hfuel)
      rw [List.flatMap_cons,List.append_assoc,scanString,if_neg (head?_escape code _),
        scanCode_escape (h code List.mem_cons_self)]
      simp only [Option.bind_eq_bind,Option.bind_some,htail,Option.pure_def]

theorem length_le_flatMap_escape (text : List ℕ) : text.length ≤ (text.flatMap escape).length := by
  induction text with
  | nil => exact Nat.le_refl _
  | cons code text ih =>
    have hcode := length_escape code
    simp only [List.flatMap_cons,List.length_append,List.length_cons]
    omega

theorem digitChar_ne_zero : ∀ n < 10, 0 < n → [n.digitChar].head? ≠ some '0' := by decide

theorem toDigits_head {n : ℕ} (h : 0 < n) : (Nat.toDigits 10 n).head? ≠ some '0' := by
  induction n using Nat.strong_induction_on with
  | _ n ih =>
    rcases Nat.lt_or_ge n 10 with hsmall | hlarge
    · rw [Nat.toDigits_of_lt_base hsmall]
      exact digitChar_ne_zero n hsmall h
    · rw [Nat.toDigits_of_base_le (by decide) hlarge,
        List.head?_append_of_ne_nil _ Nat.toDigits_ne_nil]
      exact ih (n / 10) (by omega) (by omega)

def digitCodes (n : ℕ) : List ℕ := (Nat.toDigits 10 n).map Char.toNat

theorem isDigit_digitCodes {n code : ℕ} (h : code ∈ digitCodes n) : isDigit code = true := by
  obtain ⟨c,hc,rfl⟩ := List.mem_map.mp h
  have hrange := Char.isDigit_iff_toNat.mp (Decimal.digit_of_mem hc)
  simp only [isDigit,Bool.and_eq_true,decide_eq_true_eq]
  exact hrange

theorem map_ofNat_digitCodes (n : ℕ) : (digitCodes n).map Char.ofNat = Nat.toDigits 10 n := by
  rw [digitCodes,List.map_map]
  conv_rhs => rw [← List.map_id (Nat.toDigits 10 n)]
  exact List.map_congr_left fun c _ => Char.ofNat_toNat c

-- What may follow a number in an object that was written without spaces.
def Ends (rest : List ℕ) : Prop := ∃ code after, rest = code :: after ∧ (code = 44 ∨ code = 125)

theorem takeWhile_digitCodes (n : ℕ) {rest : List ℕ} (h : Ends rest) :
    (digitCodes n ++ rest).takeWhile isDigit = digitCodes n := by
  obtain ⟨code,after,rfl,hcode⟩ := h
  rw [List.takeWhile_append_of_pos fun code hc => isDigit_digitCodes hc]
  rcases hcode with rfl | rfl <;> simp [isDigit]

theorem digits_digitCodes (n : ℕ) {rest : List ℕ} (h : Ends rest) :
    (if (digitCodes n ++ rest).head? = some 48 then [48] else (digitCodes n ++ rest).takeWhile isDigit) =
      digitCodes n := by
  rcases Nat.eq_zero_or_pos n with rfl | hn
  · rfl
  · rw [if_neg,takeWhile_digitCodes n h]
    rw [List.head?_append_of_ne_nil _ (by simp [digitCodes]),digitCodes,List.head?_map]
    intro heq
    obtain ⟨c,hc,hcode⟩ := Option.map_eq_some_iff.mp heq
    have hzero : c = '0' := Char.toNat_inj.mp hcode
    exact toDigits_head hn (hzero ▸ hc)

theorem scanFraction_ends {rest : List ℕ} (h : Ends rest) : scanFraction rest = [] := by
  obtain ⟨code,after,rfl,rfl | rfl⟩ := h <;> simp [scanFraction]

theorem scanExponent_ends {rest : List ℕ} (h : Ends rest) : scanExponent rest = [] := by
  obtain ⟨code,after,rfl,rfl | rfl⟩ := h <;> simp [scanExponent]

theorem scanUnsigned_digitCodes (sign : List ℕ) {n : ℕ} (hn : n < 10 ^ Decimal.maxDigits) {rest : List ℕ}
    (h : Ends rest) :
    scanUnsigned sign (digitCodes n ++ rest) = some (.int (if sign = [] then n else -n),rest) := by
  have hne : digitCodes n ≠ [] := by simp [digitCodes]
  have hlength : (digitCodes n).length ≤ Decimal.maxDigits := by
    rw [digitCodes,List.length_map]
    exact (Nat.length_toDigits_le_iff (by decide) (by decide)).mpr hn
  have hdrop : (digitCodes n ++ rest).drop (digitCodes n).length = rest := List.drop_left
  simp only [scanUnsigned,digits_digitCodes n h,hdrop,scanFraction_ends h,List.length_nil,Nat.add_zero,
    scanExponent_ends h,if_neg hne,List.append_nil,ne_eq,not_true_eq_false,if_false,if_pos hlength,
    integer,map_ofNat_digitCodes,Nat.ofDigitChars_ten_toDigits]

theorem digitCodes_head (n : ℕ) (rest : List ℕ) : (digitCodes n ++ rest).head? ≠ some 45 := by
  rw [List.head?_append_of_ne_nil _ (by simp [digitCodes])]
  intro h
  have hdigit := isDigit_digitCodes (List.mem_of_head? h)
  revert hdigit
  decide

theorem scanNumber_ofInt {n : ℤ} (hn : n.natAbs < 10 ^ Decimal.maxDigits) {rest : List ℕ} (h : Ends rest) :
    scanNumber ((Decimal.ofInt n).map Char.toNat ++ rest) = some (.int n,rest) := by
  cases n with
  | ofNat n =>
    have hscan := scanUnsigned_digitCodes (n := n) [] hn h
    rw [if_pos rfl] at hscan
    change scanNumber (digitCodes n ++ rest) = _
    rw [scanNumber,if_neg (digitCodes_head n rest),hscan]
    rfl
  | negSucc n =>
    have hscan := scanUnsigned_digitCodes (n := n + 1) [45] hn h
    rw [if_neg (by simp)] at hscan
    change scanNumber (45 :: (digitCodes (n + 1) ++ rest)) = _
    rw [scanNumber,List.head?_cons,if_pos rfl,List.tail_cons]
    exact hscan

theorem ofInt_starts (n : ℤ) (rest : List ℕ) : ∃ code after, isDigit code = true ∧
    ((Decimal.ofInt n).map Char.toNat ++ rest = code :: after ∨
      (Decimal.ofInt n).map Char.toNat ++ rest = 45 :: code :: after) := by
  have hstarts (k : ℕ) : ∃ code after, isDigit code = true ∧ digitCodes k ++ rest = code :: after := by
    obtain ⟨code,after,heq⟩ := List.exists_cons_of_ne_nil (show digitCodes k ≠ [] by simp [digitCodes])
    exact ⟨code,after ++ rest,isDigit_digitCodes (heq ▸ List.mem_cons_self),by rw [heq,List.cons_append]⟩
  cases n with
  | ofNat n =>
    obtain ⟨code,after,hdigit,heq⟩ := hstarts n
    exact ⟨code,after,hdigit,.inl heq⟩
  | negSucc n =>
    obtain ⟨code,after,hdigit,heq⟩ := hstarts (n + 1)
    exact ⟨code,after,hdigit,.inr (congrArg (45 :: ·) heq)⟩

theorem words_eq : words.map Prod.fst =
    [[110,117,108,108],[116,114,117,101],[102,97,108,115,101],[78,97,78],
      [73,110,102,105,110,105,116,121],[45,73,110,102,105,110,105,116,121]] := by decide

theorem scanPlain_number {text after : List ℕ} {code : ℕ} (hdigit : isDigit code = true)
    (h : text = code :: after ∨ text = 45 :: code :: after) : scanPlain text = scanNumber text := by
  have hrange : 48 ≤ code ∧ code ≤ 57 := by simpa [isDigit] using hdigit
  have hnone : words.find? (fun word => word.1.isPrefixOf text) = none := by
    apply List.find?_eq_none.mpr
    intro word hword
    have hmem := words_eq ▸ List.mem_map_of_mem (f := Prod.fst) hword
    simp only [List.mem_cons,List.not_mem_nil,or_false] at hmem
    rcases h with rfl | rfl <;> rcases hmem with hw | hw | hw | hw | hw | hw <;> rw [hw] <;>
      simp [List.isPrefixOf] <;> omega
  rw [scanPlain,hnone]

theorem scanValue_plain {fuel room code : ℕ} {after : List ℕ} (h : code ≠ 34 ∧ code ≠ 123 ∧ code ≠ 91) :
    scanValue (fuel + 1) room (code :: after) = orInvalid (scanPlain (code :: after)) := by
  rw [scanValue,if_neg h.1,if_neg h.2.1,if_neg h.2.2]

theorem scanString_quote {text : List ℕ} (h : ∀ code ∈ text, IsScalar code) (rest : List ℕ) :
    scanString ((text.flatMap escape ++ 34 :: rest).length + 1) (text.flatMap escape ++ 34 :: rest) =
      some (text,rest) := by
  apply scanString_escape h
  have hlength := length_le_flatMap_escape text
  rw [List.length_append,List.length_cons]
  omega

theorem quote_append (text rest : List ℕ) : quote text ++ rest = 34 :: (text.flatMap escape ++ 34 :: rest) := by
  simp [quote]

theorem scanValue_scalar {entry : Scalar} (h : Readable entry) {rest : List ℕ} (hrest : Ends rest)
    (fuel room : ℕ) :
    scanValue (fuel + 1) room (writeScalar entry ++ rest) = .ok (entry.value,rest) := by
  rcases entry with _ | value | n | text
  · rfl
  · cases value <;> rfl
  · obtain ⟨code,after,hdigit,hstart⟩ := ofInt_starts n rest
    have hrange : 48 ≤ code ∧ code ≤ 57 := by simpa [isDigit] using hdigit
    have hread := (scanPlain_number hdigit hstart).trans (scanNumber_ofInt h hrest)
    rw [writeScalar]
    rcases hstart with heq | heq
    · rw [heq] at hread ⊢
      rw [scanValue_plain (by omega),hread]
      rfl
    · rw [heq] at hread ⊢
      rw [scanValue_plain (by decide),hread]
      rfl
  · rw [writeScalar,quote_append,scanValue,if_pos rfl,scanString_quote h]
    rfl

theorem skip_ends {rest : List ℕ} (h : Ends rest) : skip rest = rest := by
  obtain ⟨code,after,rfl,rfl | rfl⟩ := h <;> rfl

theorem skip_scalar (entry : Scalar) (rest : List ℕ) :
    skip (writeScalar entry ++ rest) = writeScalar entry ++ rest := by
  rcases entry with _ | value | n | text
  · rfl
  · cases value <;> rfl
  · obtain ⟨code,after,hdigit,hstart⟩ := ofInt_starts n rest
    have hrange : 48 ≤ code ∧ code ≤ 57 := by simpa [isDigit] using hdigit
    rw [writeScalar]
    rcases hstart with heq | heq
    · rw [heq,skip,List.dropWhile_cons_of_neg]
      simp [isSpace]
      omega
    · rw [heq]
      rfl
  · rfl

def ReadableField (entry : List ℕ × Scalar) : Prop := (∀ code ∈ entry.1, IsScalar code) ∧ Readable entry.2

def read (entry : List ℕ × Scalar) : List ℕ × Value := (entry.1,entry.2.value)

theorem ok_bind {α β : Type} (a : α) (f : α → Except Fault β) : (Except.ok a >>= f) = f a := rfl

theorem scanMembers_field {entry : List ℕ × Scalar} (h : ReadableField entry) {rest : List ℕ}
    (hrest : Ends rest) (fuel room : ℕ) :
    scanMembers (fuel + 2) room (writeField entry ++ rest) = (do
      if rest.head? = some 125 then return ([read entry],rest.tail)
      if rest.head? ≠ some 44 then throw .valueError
      let (fields,after) ← scanMembers (fuel + 1) room (skip rest.tail)
      return (read entry :: fields,after)) := by
  have hcolon : skip (58 :: (writeScalar entry.2 ++ rest)) = 58 :: (writeScalar entry.2 ++ rest) := rfl
  have hvalue := scanValue_scalar h.2 hrest fuel room
  have hend := skip_ends hrest
  rw [writeField,List.append_assoc,quote_append,scanMembers,List.cons_append,scanString_quote h.1]
  simp only [orInvalid,ok_bind,ne_eq,not_true_eq_false,if_false,hcolon,List.head?_cons,List.tail_cons,
    skip_scalar,hvalue,hend]
  rfl

theorem scanMembers_writeFields {fields : List (List ℕ × Scalar)} (h : ∀ entry ∈ fields, ReadableField entry)
    (hne : fields ≠ []) {fuel : ℕ} (hfuel : fields.length ≤ fuel) (room : ℕ) (rest : List ℕ) :
    scanMembers (fuel + 1) room (writeFields fields ++ 125 :: rest) = .ok (fields.map read,rest) := by
  induction fields generalizing fuel with
  | nil => exact absurd rfl hne
  | cons entry fields ih =>
    obtain ⟨fuel,rfl⟩ : ∃ k, fuel = k + 1 := ⟨fuel - 1,by rw [List.length_cons] at hfuel; omega⟩
    have hentry := h entry List.mem_cons_self
    cases fields with
    | nil => exact scanMembers_field hentry ⟨125,rest,rfl,.inr rfl⟩ fuel room
    | cons next fields =>
      have htail := ih (fun e he => h e (List.mem_cons_of_mem _ he)) (List.cons_ne_nil _ _)
        (Nat.le_of_succ_le_succ hfuel)
      have hskip : skip (writeFields (next :: fields) ++ 125 :: rest) = writeFields (next :: fields) ++ 125 :: rest := by
        cases fields <;> rfl
      have hfield := scanMembers_field hentry
        ⟨44,writeFields (next :: fields) ++ 125 :: rest,rfl,.inl rfl⟩ fuel room
      rw [writeFields,List.append_assoc,List.cons_append,hfield]
      simp only [List.head?_cons,List.tail_cons,hskip,htail]
      rfl
      simp

theorem length_writeFields (fields : List (List ℕ × Scalar)) : fields.length ≤ (writeFields fields).length := by
  induction fields with
  | nil => exact Nat.le_refl _
  | cons entry fields ih =>
    have hentry : 1 ≤ (writeField entry).length := by simp [writeField,quote]
    cases fields with
    | nil => exact hentry
    | cons next fields =>
      have htail : (writeFields (entry :: next :: fields)).length =
          (writeField entry).length + ((writeFields (next :: fields)).length + 1) := by
        rw [writeFields,List.length_append,List.length_cons]
        simp
      rw [htail,List.length_cons]
      omega

theorem scanValue_object {fields : List (List ℕ × Scalar)} (h : ∀ entry ∈ fields, ReadableField entry)
    {fuel room : ℕ} (hroom : 0 < room) (hfuel : fields.length < fuel) :
    scanValue (fuel + 1) room (123 :: (writeFields fields ++ [125])) = .ok (.object (fields.map read),[]) := by
  have hopen : room ≠ 0 := Nat.pos_iff_ne_zero.mp hroom
  rw [scanValue,if_neg (by decide),if_pos rfl,if_neg hopen]
  obtain ⟨fuel,rfl⟩ : ∃ k, fuel = k + 1 := ⟨fuel - 1,by omega⟩
  cases fields with
  | nil => rfl
  | cons entry fields =>
    have hskip : skip (writeFields (entry :: fields) ++ [125]) = writeFields (entry :: fields) ++ [125] := by
      cases fields <;> rfl
    have hhead : (writeFields (entry :: fields) ++ [125]).head? = some 34 := by cases fields <;> rfl
    rw [hskip,hhead,if_neg (by decide),
      scanMembers_writeFields h (List.cons_ne_nil _ _) (Nat.le_of_lt_succ hfuel) (room - 1) []]
    rfl

theorem loads_dumps {fields : List (List ℕ × Scalar)} (h : ∀ entry ∈ fields, ReadableField entry) {room : ℕ}
    (hroom : 0 < room) : loads room (dumps fields) = .ok (.object ((sorted fields).map read)) := by
  have hsorted : ∀ entry ∈ sorted fields, ReadableField entry := by
    intro entry he
    exact h entry ((List.perm_insertionSort _ fields).mem_iff.mp he)
  have hlength := length_writeFields (sorted fields)
  have hfuel : (sorted fields).length < (dumps fields).length := by
    rw [dumps,List.length_append,List.length_cons]
    exact Nat.lt_succ_of_le (Nat.le_succ_of_le hlength)
  have hobject := scanValue_object hsorted hroom hfuel
  have hskip : skip (dumps fields) = 123 :: (writeFields (sorted fields) ++ [125]) := rfl
  rw [loads,hskip,hobject]
  rfl

end roundTrip

section ascii

theorem hexDigit_lt {n : ℕ} (h : n < 16) : hexDigit n < 128 := by
  revert n
  decide

theorem ascii_unit (n : ℕ) : Ascii (unit n) := by
  have hdigit (k : ℕ) : hexDigit (k % 16) < 128 := hexDigit_lt (Nat.mod_lt _ (by decide))
  exact ascii_cons (hdigit _) (ascii_cons (hdigit _) (ascii_cons (hdigit _) (ascii_cons (hdigit _) ascii_nil)))

theorem ascii_escape (code : ℕ) : Ascii (escape code) := by
  rw [escape]
  split
  · next h => exact ascii_cons (by decide) (ascii_cons (by omega) ascii_nil)
  iterate 5
    split
    · exact ascii_cons (by decide) (ascii_cons (by decide) ascii_nil)
  split
  · next h => exact ascii_cons (by omega) ascii_nil
  split
  · exact ascii_cons (by decide) (ascii_cons (by decide) (ascii_unit _))
  · exact ascii_append (ascii_cons (by decide) (ascii_cons (by decide) (ascii_unit _)))
      (ascii_cons (by decide) (ascii_cons (by decide) (ascii_unit _)))

theorem ascii_quote (text : List ℕ) : Ascii (quote text) := by
  apply ascii_append
  · apply ascii_cons (by decide)
    intro c hc
    obtain ⟨code,_,hmem⟩ := List.mem_flatMap.mp hc
    exact ascii_escape code c hmem
  · exact ascii_cons (by decide) ascii_nil

theorem ascii_writeScalar (entry : Scalar) : Ascii (writeScalar entry) := by
  rcases entry with _ | value | n | text
  · unfold Ascii
    decide
  · cases value <;> unfold Ascii <;> decide
  · intro code hcode
    obtain ⟨c,hc,rfl⟩ := List.mem_map.mp hcode
    rcases Decimal.digit_or_sign hc with rfl | hdigit
    · decide
    · have hrange := Char.isDigit_iff_toNat.mp hdigit
      exact Nat.lt_of_le_of_lt hrange.2 (by decide)
  · exact ascii_quote text

theorem ascii_writeFields (fields : List (List ℕ × Scalar)) : Ascii (writeFields fields) := by
  have hfield (entry : List ℕ × Scalar) : Ascii (writeField entry) :=
    ascii_append (ascii_quote _) (ascii_cons (by decide) (ascii_writeScalar _))
  induction fields with
  | nil => exact ascii_nil
  | cons entry fields ih =>
    cases fields with
    | nil => exact hfield entry
    | cons next fields => exact ascii_append (hfield entry) (ascii_cons (by decide) ih)

theorem ascii_dumps (fields : List (List ℕ × Scalar)) : Ascii (dumps fields) :=
  ascii_append (ascii_cons (by decide) (ascii_writeFields _)) (ascii_cons (by decide) ascii_nil)

end ascii

end JsonText
