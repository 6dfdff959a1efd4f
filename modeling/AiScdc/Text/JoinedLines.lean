import AiScdc.Text.Lines

namespace TextLines

section lines

variable {line rest pre last : List Char} {c : Char}

theorem splitLinesFrom_char (h : isLineBreak c = false) :
    splitLinesFrom line (c :: rest) = splitLinesFrom (c :: line) rest := by
  have hreturn : c ≠ '\r' := by
    rintro rfl
    revert h
    decide
  rw [splitLinesFrom.eq_4 _ _ _ (fun _ hc _ => hreturn hc),h]
  rfl

theorem splitLinesFrom_newline :
    splitLinesFrom line ('\n' :: rest) = String.ofList line.reverse :: splitLinesFrom [] rest := by
  rw [splitLinesFrom.eq_4 _ _ _ (fun _ hc _ => absurd hc (by decide)),if_pos (by decide)]

theorem splitLinesFrom_line (line rest : List Char) (h : ∀ c ∈ pre, isLineBreak c = false) :
    splitLinesFrom line (pre ++ rest) = splitLinesFrom (pre.reverse ++ line) rest := by
  induction pre generalizing line with
  | nil => rfl
  | cons c pre ih =>
    rw [List.cons_append,splitLinesFrom_char (h c List.mem_cons_self),
      ih (c :: line) fun d hd => h d (List.mem_cons_of_mem c hd)]
    simp

theorem splitLinesFrom_last (hne : last ≠ []) (h : ∀ c ∈ last, isLineBreak c = false) :
    splitLinesFrom [] last = [String.ofList last] := by
  have hread := splitLinesFrom_line [] [] h
  rw [List.append_nil,List.append_nil] at hread
  rw [hread,splitLinesFrom.eq_2 _ (by simpa using hne),List.reverse_reverse]

-- Where '\n' is the only break of a text, its lines joined by it are the text.
theorem splitLinesFrom_joined (line last : List Char) {body : List Char}
    (hbody : ∀ c ∈ body, isLineBreak c = true → c = '\n') (hne : last ≠ []) (hlast : ∀ c ∈ last, isLineBreak c = false) :
    ∃ lines, lines ≠ [] ∧ splitLinesFrom line (body ++ '\n' :: last) = lines ++ [String.ofList last] ∧
      "\n".intercalate lines = String.ofList (line.reverse ++ body) := by
  induction body generalizing line with
  | nil =>
    refine ⟨[String.ofList line.reverse],by simp,?_,by simp⟩
    rw [List.nil_append,splitLinesFrom_newline,splitLinesFrom_last hne hlast]
    rfl
  | cons c body ih =>
    have hrest : ∀ d ∈ body, isLineBreak d = true → d = '\n' := fun d hd => hbody d (List.mem_cons_of_mem c hd)
    cases hc : isLineBreak c with
    | false =>
      obtain ⟨lines,hlines,hsplit,hjoin⟩ := ih (c :: line) hrest
      refine ⟨lines,hlines,?_,?_⟩
      · rw [List.cons_append,splitLinesFrom_char hc,hsplit]
      · simpa using hjoin
    | true =>
      obtain rfl := hbody c List.mem_cons_self hc
      obtain ⟨lines,hlines,hsplit,hjoin⟩ := ih [] hrest
      refine ⟨String.ofList line.reverse :: lines,by simp,?_,?_⟩
      · rw [List.cons_append,splitLinesFrom_newline,hsplit]
        rfl
      · rw [String.intercalate_cons_of_ne_nil hlines,hjoin,← String.toList_inj]
        simp

end lines

end TextLines
