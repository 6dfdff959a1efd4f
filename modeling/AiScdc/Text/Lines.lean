import Mathlib.Data.List.Basic

namespace TextLines

def isLineBreak (c : Char) : Bool :=
  c.toNat ∈ [0x0a,0x0b,0x0c,0x0d,0x1c,0x1d,0x1e,0x85,0x2028,0x2029]

def splitLinesFrom : List Char → List Char → List String
  | [],[] => []
  | line,[] => [String.ofList line.reverse]
  | line,'\r' :: '\n' :: rest => String.ofList line.reverse :: splitLinesFrom [] rest
  | line,c :: rest =>
    if isLineBreak c then String.ofList line.reverse :: splitLinesFrom [] rest
    else splitLinesFrom (c :: line) rest

def splitLines (text : String) : List String := splitLinesFrom [] text.toList

theorem splitLinesFrom_length_le (line text : List Char) :
    (splitLinesFrom line text).length ≤ text.length + 1 := by
  fun_induction splitLinesFrom line text with
  | case1 => exact Nat.zero_le _
  | case2 => exact Nat.le_refl _
  | case3 line rest ih =>
    simp only [List.length_cons]
    omega
  | case4 line c rest _ _ ih =>
    simp only [List.length_cons]
    omega
  | case5 line c rest _ _ ih =>
    simp only [List.length_cons]
    omega

theorem length_le_utf8ByteSize (text : List Char) : text.length ≤ (String.ofList text).utf8ByteSize := by
  induction text with
  | nil => exact Nat.zero_le _
  | cons c text ih =>
    have hc := c.utf8Size_pos
    rw [String.ofList_cons,String.utf8ByteSize_append,String.utf8ByteSize_singleton,List.length_cons]
    omega

theorem splitLines_length_le (text : String) : (splitLines text).length ≤ text.utf8ByteSize + 1 := by
  have hlines := splitLinesFrom_length_le [] text.toList
  have hbytes := length_le_utf8ByteSize text.toList
  rw [String.ofList_toList] at hbytes
  exact Nat.le_trans hlines (Nat.succ_le_succ hbytes)

end TextLines
