import Mathlib.Data.List.Basic

namespace Percent

section utf8

def isContinuation (b : UInt8) : Bool := 0x80 ≤ b && b < 0xC0

-- How many bytes a lead byte asks for; `none` for a byte that leads nothing.
def trailing (lead : UInt8) : Option ℕ :=
  if lead < 0x80 then some 0
  else if 0xC2 ≤ lead && lead < 0xE0 then some 1
  else if 0xE0 ≤ lead && lead < 0xF0 then some 2
  else if 0xF0 ≤ lead && lead < 0xF5 then some 3
  else none

-- Neither overlong forms nor surrogates nor values above 0x10FFFF.
def allowsSecond (lead next : UInt8) : Bool :=
  isContinuation next && (lead ≠ 0xE0 || 0xA0 ≤ next) && (lead ≠ 0xED || next < 0xA0) &&
    (lead ≠ 0xF0 || 0x90 ≤ next) && (lead ≠ 0xF4 || next < 0x90)

def takeTrailing (lead : UInt8) (n : ℕ) : List UInt8 → List UInt8
  | [] => []
  | b :: rest =>
    if n = 0 then []
    else if allowsSecond lead b then b :: (rest.take (n - 1)).takeWhile isContinuation
    else []

def leadBits (lead : UInt8) : ℕ → ℕ
  | 0 => lead.toNat
  | 1 => lead.toNat % 32
  | 2 => lead.toNat % 16
  | _ => lead.toNat % 8

def assemble (lead : UInt8) (tail : List UInt8) : Char :=
  Char.ofNat (tail.foldl (fun v b => v * 64 + b.toNat % 64) (leadBits lead tail.length))

def replacement : Char := Char.ofNat 0xFFFD

def decodeHead (lead : UInt8) (rest : List UInt8) : Char × ℕ :=
  match trailing lead with
  | none => (replacement,0)
  | some n =>
    let tail := takeTrailing lead n rest
    (if tail.length = n then assemble lead tail else replacement,tail.length)

def decodeFrom : ℕ → List UInt8 → List Char
  | 0,_ => []
  | _ + 1,[] => []
  | fuel + 1,lead :: rest =>
    (decodeHead lead rest).1 :: decodeFrom fuel (rest.drop (decodeHead lead rest).2)

-- A malformed sequence becomes one replacement character, up to where it can still be well formed.
def utf8Replace (bytes : List UInt8) : List Char := decodeFrom bytes.length bytes

theorem decodeFrom_length_le (fuel : ℕ) (bytes : List UInt8) :
    (decodeFrom fuel bytes).length ≤ bytes.length := by
  induction fuel generalizing bytes with
  | zero => exact Nat.zero_le _
  | succ fuel ih =>
    cases bytes with
    | nil => exact Nat.zero_le _
    | cons lead rest =>
      have hrest := ih (rest.drop (decodeHead lead rest).2)
      rw [List.length_drop] at hrest
      simp only [decodeFrom,List.length_cons]
      omega

theorem utf8Replace_length_le (bytes : List UInt8) : (utf8Replace bytes).length ≤ bytes.length :=
  decodeFrom_length_le _ _

theorem decodeFrom_fuel {fuel fuel' : ℕ} {bytes : List UInt8} (h : bytes.length ≤ fuel)
    (h' : bytes.length ≤ fuel') : decodeFrom fuel bytes = decodeFrom fuel' bytes := by
  induction fuel generalizing fuel' bytes with
  | zero =>
    rw [List.length_eq_zero_iff.mp (Nat.le_zero.mp h)]
    cases fuel' <;> rfl
  | succ fuel ih =>
    cases bytes with
    | nil => cases fuel' <;> rfl
    | cons lead rest =>
      cases fuel' with
      | zero => exact absurd h' (Nat.not_succ_le_zero _)
      | succ fuel' =>
        rw [List.length_cons] at h h'
        have hrest : (rest.drop (decodeHead lead rest).2).length ≤ rest.length := by
          rw [List.length_drop]
          omega
        simp only [decodeFrom]
        exact congrArg _ (ih (by omega) (by omega))

theorem utf8Replace_cons (lead : UInt8) (rest : List UInt8) :
    utf8Replace (lead :: rest) =
      (decodeHead lead rest).1 :: utf8Replace (rest.drop (decodeHead lead rest).2) := by
  simp only [utf8Replace,List.length_cons,decodeFrom]
  rw [decodeFrom_fuel _ (Nat.le_refl _)]
  rw [List.length_drop]
  omega

def Ascii (bytes : List UInt8) : Prop := ∀ b ∈ bytes, b < 0x80

theorem not_continuation {b : UInt8} (h : b < 0x80) : isContinuation b = false := by
  simp [isContinuation,UInt8.not_le.mpr h]

theorem takeWhile_take_append {α : Type} {p : α → Bool} (k : ℕ) (front : List α) {back : List α}
    (h : ∀ a ∈ back, p a = false) :
    ((front ++ back).take k).takeWhile p = (front.take k).takeWhile p := by
  have hback : (back.take (k - front.length)).takeWhile p = [] := by
    cases hb : back.take (k - front.length) with
    | nil => rfl
    | cons a rest =>
      have ha : a ∈ back := List.mem_of_mem_take (hb ▸ List.mem_cons_self)
      rw [List.takeWhile_cons,h a ha]
      rfl
  rw [List.take_append,List.takeWhile_append,hback]
  split
  · next hall =>
    rw [List.append_nil]
    exact ((List.takeWhile_prefix p).eq_of_length hall).symm
  · rfl

theorem takeTrailing_append (lead : UInt8) (n : ℕ) (rest : List UInt8) {bytes : List UInt8}
    (h : Ascii bytes) : takeTrailing lead n (rest ++ bytes) = takeTrailing lead n rest := by
  cases rest with
  | nil =>
    cases bytes with
    | nil => rfl
    | cons b bytes =>
      have hb : allowsSecond lead b = false := by
        simp [allowsSecond,not_continuation (h b List.mem_cons_self)]
      simp [takeTrailing,hb]
  | cons b rest =>
    have htake := takeWhile_take_append (n - 1) rest fun a ha => not_continuation (h a ha)
    simp only [List.cons_append,takeTrailing,htake]

theorem takeTrailing_length_le (lead : UInt8) (n : ℕ) (rest : List UInt8) :
    (takeTrailing lead n rest).length ≤ rest.length := by
  cases rest with
  | nil => exact Nat.zero_le _
  | cons b rest =>
    simp only [takeTrailing]
    split
    · exact Nat.zero_le _
    · split
      · simp only [List.length_cons]
        have hrest : (rest.take (n - 1)).length ≤ rest.length := by
          rw [List.length_take]
          omega
        have hwhile := (List.takeWhile_prefix (p := isContinuation) (l := rest.take (n - 1))).length_le
        omega
      · exact Nat.zero_le _

theorem decodeHead_append (lead : UInt8) (rest : List UInt8) {bytes : List UInt8} (h : Ascii bytes) :
    decodeHead lead (rest ++ bytes) = decodeHead lead rest := by
  rw [decodeHead,decodeHead]
  cases trailing lead with
  | none => rfl
  | some n => simp only [takeTrailing_append lead n rest h]

theorem decodeHead_le (lead : UInt8) (rest : List UInt8) : (decodeHead lead rest).2 ≤ rest.length := by
  rw [decodeHead]
  cases trailing lead with
  | none => exact Nat.zero_le _
  | some n => exact takeTrailing_length_le lead n rest

def asciiText (bytes : List UInt8) : List Char := bytes.map fun b => Char.ofNat b.toNat

def decodeStrictFrom : ℕ → List UInt8 → Option (List Char)
  | _,[] => some []
  | 0,_ => none
  | fuel + 1,lead :: rest => do
    let n ← trailing lead
    let tail := takeTrailing lead n rest
    if tail.length = n then return assemble lead tail :: (← decodeStrictFrom fuel (rest.drop n))
    else none

def utf8Strict (bytes : List UInt8) : Option (List Char) := decodeStrictFrom bytes.length bytes

theorem utf8Strict_ascii {bytes : List UInt8} (h : Ascii bytes) : utf8Strict bytes = some (asciiText bytes) := by
  rw [utf8Strict]
  induction bytes with
  | nil => rfl
  | cons b bytes ih =>
    have htrail : takeTrailing b 0 bytes = [] := by cases bytes <;> simp [takeTrailing]
    simp only [List.length_cons,decodeStrictFrom,trailing,h b List.mem_cons_self,if_true,
      Option.bind_eq_bind,Option.bind_some,htrail,List.length_nil,List.drop_zero,
      ih fun a ha => h a (List.mem_cons_of_mem _ ha)]
    rfl

theorem utf8Replace_ascii {bytes : List UInt8} (h : Ascii bytes) : utf8Replace bytes = asciiText bytes := by
  induction bytes with
  | nil => rfl
  | cons b bytes ih =>
    have hhead : decodeHead b bytes = (Char.ofNat b.toNat,0) := by
      have htrail : takeTrailing b 0 bytes = [] := by cases bytes <;> simp [takeTrailing]
      simp only [decodeHead,trailing,h b List.mem_cons_self,if_true,htrail]
      rfl
    rw [utf8Replace_cons,hhead,List.drop_zero,ih fun a ha => h a (List.mem_cons_of_mem _ ha)]
    rfl

theorem utf8Replace_append {bytes : List UInt8} (h : Ascii bytes) (n : ℕ) :
    ∀ front : List UInt8, front.length ≤ n →
      utf8Replace (front ++ bytes) = utf8Replace front ++ asciiText bytes := by
  induction n with
  | zero =>
    intro front hlength
    rw [List.length_eq_zero_iff.mp (Nat.le_zero.mp hlength)]
    exact utf8Replace_ascii h
  | succ n ih =>
    intro front hlength
    cases front with
    | nil => exact utf8Replace_ascii h
    | cons lead rest =>
      rw [List.cons_append,utf8Replace_cons,utf8Replace_cons,decodeHead_append lead rest h,
        List.drop_append_of_le_length (decodeHead_le lead rest),ih]
      · rfl
      · rw [List.length_drop]
        rw [List.length_cons] at hlength
        omega

end utf8

section unquote

def hexDigit (c : Char) : Option ℕ :=
  if '0' ≤ c ∧ c ≤ '9' then some (c.toNat - 48)
  else if 'a' ≤ c ∧ c ≤ 'f' then some (c.toNat - 87)
  else if 'A' ≤ c ∧ c ≤ 'F' then some (c.toNat - 55)
  else none

def unquoteBytes : List Char → List UInt8
  | '%' :: high :: low :: rest =>
    match hexDigit high,hexDigit low with
    | some h,some l => UInt8.ofNat (16 * h + l) :: unquoteBytes rest
    | _,_ => 37 :: unquoteBytes (high :: low :: rest)
  | c :: rest => UInt8.ofNat c.toNat :: unquoteBytes rest
  | [] => []

def isAscii (c : Char) : Bool := c.toNat < 128

-- A run of ASCII characters is decoded as a whole; the others stand for themselves.
def unquoteFrom : List Char → List Char → List Char
  | run,[] => utf8Replace (unquoteBytes run.reverse)
  | run,c :: rest =>
    if isAscii c then unquoteFrom (c :: run) rest
    else utf8Replace (unquoteBytes run.reverse) ++ c :: unquoteFrom [] rest

def unquote (text : List Char) : List Char := if '%' ∈ text then unquoteFrom [] text else text

theorem unquoteBytes_unescaped {high low : Char} (rest : List Char)
    (h : ∀ m n, hexDigit high = some m → hexDigit low = some n → False) :
    unquoteBytes ('%' :: high :: low :: rest) = 37 :: unquoteBytes (high :: low :: rest) := by
  rw [unquoteBytes]
  split
  · next m n hm hn => exact (h m n hm hn).elim
  · rfl

theorem unquoteBytes_length_le (run : List Char) : (unquoteBytes run).length ≤ run.length := by
  induction run using unquoteBytes.induct with
  | case1 high low rest h l hh hl ih =>
    simp only [unquoteBytes,hh,hl,List.length_cons]
    omega
  | case2 high low rest hn ih =>
    rw [unquoteBytes_unescaped rest hn]
    exact Nat.succ_le_succ ih
  | case3 c rest hc ih =>
    rw [unquoteBytes]
    · simp only [List.length_cons]
      omega
    · exact hc
  | case4 => exact Nat.zero_le _

theorem unquoteFrom_length_le (run text : List Char) :
    (unquoteFrom run text).length ≤ run.length + text.length := by
  induction text generalizing run with
  | nil =>
    have hbytes := unquoteBytes_length_le run.reverse
    rw [List.length_reverse] at hbytes
    exact Nat.le_trans (utf8Replace_length_le _) hbytes
  | cons c rest ih =>
    rw [unquoteFrom]
    split
    · have hrest := ih (c :: run)
      simp only [List.length_cons] at hrest ⊢
      omega
    · have hrest := ih []
      have hbytes := unquoteBytes_length_le run.reverse
      have hrun := utf8Replace_length_le (unquoteBytes run.reverse)
      rw [List.length_reverse] at hbytes
      simp only [List.length_append,List.length_cons,List.length_nil] at hrest ⊢
      omega

theorem unquote_length_le (text : List Char) : (unquote text).length ≤ text.length := by
  rw [unquote]
  split
  · have h := unquoteFrom_length_le [] text
    simpa using h
  · exact Nat.le_refl _

-- What can follow any text without changing what that text decodes to.
structure PlainSuffix (suffix : List Char) : Prop where
  ascii : ∀ c ∈ suffix, isAscii c = true
  unescaped : '%' ∉ suffix
  boundary : ∀ c ∈ suffix.head?, hexDigit c = none

def charBytes (text : List Char) : List UInt8 := text.map fun c => UInt8.ofNat c.toNat

theorem unquoteBytes_plain {text : List Char} (h : '%' ∉ text) : unquoteBytes text = charBytes text := by
  induction text with
  | nil => rfl
  | cons c text ih =>
    rw [unquoteBytes]
    · rw [ih fun hm => h (List.mem_cons_of_mem _ hm)]
      rfl
    · rintro high low rest rfl
      exact (h List.mem_cons_self).elim

theorem ascii_charBytes {text : List Char} (h : ∀ c ∈ text, isAscii c = true) :
    Ascii (charBytes text) := by
  intro b hb
  obtain ⟨c,hc,rfl⟩ := List.mem_map.mp hb
  have hlt : c.toNat < 128 := of_decide_eq_true (h c hc)
  rw [UInt8.lt_iff_toNat_lt,UInt8.toNat_ofNat']
  have h128 : (0x80 : UInt8).toNat = 128 := rfl
  omega

theorem asciiText_charBytes {text : List Char} (h : ∀ c ∈ text, isAscii c = true) :
    asciiText (charBytes text) = text := by
  rw [asciiText,charBytes,List.map_map]
  conv_rhs => rw [← List.map_id text]
  apply List.map_congr_left
  intro c hc
  have hlt : c.toNat < 128 := of_decide_eq_true (h c hc)
  have hmod : c.toNat % 256 = c.toNat := Nat.mod_eq_of_lt (by omega)
  simp only [Function.comp_apply,UInt8.toNat_ofNat',id_eq]
  rw [show 2 ^ 8 = 256 from rfl,hmod,Char.ofNat_toNat]

theorem unquoteBytes_percent {text : List Char}
    (h : ∀ high low rest, text = high :: low :: rest → hexDigit high = none ∨ hexDigit low = none) :
    unquoteBytes ('%' :: text) = 37 :: unquoteBytes text := by
  match text,h with
  | [],_ => rfl
  | [_],_ => rfl
  | high :: low :: rest,h =>
    apply unquoteBytes_unescaped
    intro m n hm hn
    rcases h high low rest rfl with hnone | hnone
    · rw [hm] at hnone
      cases hnone
    · rw [hn] at hnone
      cases hnone

theorem unquoteBytes_cons {c : Char} (h : c ≠ '%') (rest : List Char) :
    unquoteBytes (c :: rest) = UInt8.ofNat c.toNat :: unquoteBytes rest := by
  rw [unquoteBytes]
  rintro high low tail rfl
  exact (h rfl).elim

theorem unquoteBytes_append {suffix : List Char} (h : PlainSuffix suffix) (text : List Char) :
    unquoteBytes (text ++ suffix) = unquoteBytes text ++ charBytes suffix := by
  induction text using unquoteBytes.induct with
  | case1 high low rest m n hm hn ih =>
    simp only [List.cons_append,unquoteBytes,hm,hn]
    rw [ih]
  | case2 high low rest hn ih =>
    simp only [List.cons_append] at ih ⊢
    rw [unquoteBytes_unescaped _ hn,unquoteBytes_unescaped _ hn,ih]
    rfl
  | case3 c rest hc ih =>
    by_cases hpercent : c = '%'
    · subst hpercent
      have hshort : ∀ high low tail, rest ++ suffix = high :: low :: tail →
          hexDigit high = none ∨ hexDigit low = none := by
        intro high low tail heq
        match rest,hc with
        | [],_ =>
          left
          exact h.boundary high (by rw [show suffix = _ from heq]; rfl)
        | [first],_ =>
          right
          obtain ⟨_,hsuffix⟩ := List.cons.inj heq
          exact h.boundary low (by rw [show suffix = _ from hsuffix]; rfl)
        | first :: second :: more,hc => exact (hc first second more rfl rfl).elim
      have hlong : ∀ high low tail, rest = high :: low :: tail →
          hexDigit high = none ∨ hexDigit low = none :=
        fun high low tail heq => (hc high low tail rfl heq).elim
      rw [List.cons_append,unquoteBytes_percent hshort,unquoteBytes_percent hlong,ih]
      rfl
    · rw [List.cons_append,unquoteBytes_cons hpercent,unquoteBytes_cons hpercent,ih]
      rfl
  | case4 => exact unquoteBytes_plain h.unescaped

theorem unquoteFrom_append {suffix : List Char} (h : PlainSuffix suffix) (run text : List Char) :
    unquoteFrom run (text ++ suffix) = unquoteFrom run text ++ suffix := by
  have hend (run : List Char) : unquoteFrom run suffix =
      utf8Replace (unquoteBytes run.reverse) ++ suffix := by
    have hruns : ∀ (tail run : List Char), (∀ c ∈ tail, isAscii c = true) →
        unquoteFrom run tail = utf8Replace (unquoteBytes (run.reverse ++ tail)) := by
      intro tail
      induction tail with
      | nil => intro run _; rw [unquoteFrom,List.append_nil]
      | cons c tail ih =>
        intro run ht
        rw [unquoteFrom,if_pos (ht c List.mem_cons_self),
          ih _ fun a ha => ht a (List.mem_cons_of_mem _ ha)]
        simp
    rw [hruns suffix run h.ascii,unquoteBytes_append h,
      utf8Replace_append (ascii_charBytes h.ascii) _ _ (Nat.le_refl _),asciiText_charBytes h.ascii]
  induction text generalizing run with
  | nil => exact hend run
  | cons c rest ih =>
    simp only [List.cons_append,unquoteFrom]
    split
    · exact ih _
    · rw [ih [],List.append_assoc,List.cons_append]

theorem unquote_append {suffix : List Char} (h : PlainSuffix suffix) (text : List Char) :
    unquote (text ++ suffix) = unquote text ++ suffix := by
  have hmem : '%' ∈ text ++ suffix ↔ '%' ∈ text := by
    rw [List.mem_append]
    exact or_iff_left h.unescaped
  simp only [unquote,hmem]
  split
  · exact unquoteFrom_append h [] text
  · rfl

theorem unquote_append_ne {suffix : List Char} (h : PlainSuffix suffix) (hne : suffix ≠ []) (n : ℕ) :
    ∀ text : List Char, text.length ≤ n → unquote text ++ suffix ≠ text := by
  induction n with
  | zero =>
    intro text hlength heq
    rw [List.length_eq_zero_iff.mp (Nat.le_zero.mp hlength)] at heq
    exact hne (List.append_eq_nil_iff.mp heq).2
  | succ n ih =>
    intro text hlength heq
    have hshorter : (unquote text).length ≤ n := by
      have hlengths := congrArg List.length heq
      have hpos := List.length_pos_iff.mpr hne
      rw [List.length_append] at hlengths
      omega
    apply ih (unquote text) hshorter
    have hagain := congrArg unquote heq
    rw [unquote_append h] at hagain
    exact hagain

end unquote

end Percent
