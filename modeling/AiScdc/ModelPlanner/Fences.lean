import AiScdc.LocalRunner.PatchPath
import AiScdc.ModelPlanner.Accepted
import AiScdc.RequestProtection.TokenLifetime
import AiScdc.Text.JoinedLines

namespace AiScdc.ModelPlanner

open RemoteWorker (strippedText)
open RequestProtection (strip_unspaced)
open TextLines (isLineBreak splitLines splitLinesFrom_joined splitLinesFrom_line splitLinesFrom_newline)

def fenced (info body : Text) : String := String.ofList (fence ++ info ++ '\n' :: (body ++ '\n' :: fence))

section texts

variable {info body : Text} {c : Char}

theorem isSpace_of_isLineBreak (h : isLineBreak c = true) : isSpace c = true := by
  simp only [isLineBreak,List.mem_cons,List.not_mem_nil,or_false,decide_eq_true_eq] at h
  simp only [isSpace,Bool.or_eq_true,Bool.and_eq_true,decide_eq_true_eq]
  omega

theorem unbroken_of_unspaced (h : isSpace c = false) : isLineBreak c = false := by
  cases hbreak : isLineBreak c with
  | false => rfl
  | true => rw [isSpace_of_isLineBreak hbreak] at h; cases h

theorem unspaced_of_all (h : info.all (fun c => !isSpace c) = true) : ∀ c ∈ info, isSpace c = false := by
  intro c hc
  simpa using List.all_eq_true.mp h c hc

theorem newlines_of_all (h : body.all (fun c => !isLineBreak c || c = '\n') = true) :
    ∀ c ∈ body, isLineBreak c = true → c = '\n' := by
  intro c hc hbreak
  simpa [hbreak] using List.all_eq_true.mp h c hc

theorem fence_unspaced : ∀ c ∈ fence, isSpace c = false := unspaced_of_all (by decide)

theorem opening_unspaced (hinfo : ∀ c ∈ info, isSpace c = false) : ∀ c ∈ fence ++ info, isSpace c = false := by
  intro c hc
  rcases List.mem_append.mp hc with hc | hc
  · exact fence_unspaced c hc
  · exact hinfo c hc

theorem strippedText_fenced : strippedText (fenced info body) = fenced info body := by
  rw [strippedText,fenced,String.toList_ofList]
  congr 1
  refine strip_of_head (by decide) fun hne => ?_
  simp [fence]
  decide

theorem splitLines_fenced (hinfo : ∀ c ∈ info, isSpace c = false)
    (hbody : ∀ c ∈ body, isLineBreak c = true → c = '\n') :
    ∃ lines, splitLines (fenced info body) = String.ofList (fence ++ info) :: (lines ++ [String.ofList fence]) ∧
      "\n".intercalate lines = String.ofList body := by
  obtain ⟨lines,-,hsplit,hjoin⟩ := splitLinesFrom_joined [] fence hbody (by decide)
    fun c hc => unbroken_of_unspaced (fence_unspaced c hc)
  refine ⟨lines,?_,hjoin⟩
  rw [splitLines,fenced,String.toList_ofList,
    splitLinesFrom_line _ _ fun c hc => unbroken_of_unspaced (opening_unspaced hinfo c hc),
    splitLinesFrom_newline,hsplit]
  simp

theorem stripJsonFence_fenced (hinfo : ∀ c ∈ info, isSpace c = false)
    (hjson : info.map Char.toLower = [] ∨ info.map Char.toLower = "json".toList)
    (hbody : ∀ c ∈ body, isLineBreak c = true → c = '\n') :
    stripJsonFence (fenced info body) = strippedText (String.ofList body) := by
  obtain ⟨lines,hlines,hjoin⟩ := splitLines_fenced hinfo hbody
  have hopening : strip (fence ++ info) = fence ++ info := strip_unspaced (opening_unspaced hinfo)
  have hclosing : strip fence = fence := strip_unspaced fence_unspaced
  have hfirst : (splitLines (fenced info body)).headD "" = String.ofList (fence ++ info) := by
    rw [hlines,List.headD_cons]
  have hlast : (splitLines (fenced info body)).getLastD "" = String.ofList fence := by
    rw [hlines,List.getLastD_cons,List.getLastD_concat]
  have hinner : ((splitLines (fenced info body)).drop 1).dropLast = lines := by
    rw [hlines,List.drop_one,List.tail_cons,List.dropLast_concat]
  have hlength : ¬ (splitLines (fenced info body)).length < 2 := by
    rw [hlines,List.length_cons,List.length_append,List.length_singleton]
    omega
  have hopens : ¬ (!fence.isPrefixOf (fence ++ info) || fence ≠ fence) = true := by
    simp [List.isPrefixOf_iff_prefix.mpr (List.prefix_append fence info)]
  have hknown : ¬ ((strip info).map Char.toLower ≠ [] && (strip info).map Char.toLower ≠ "json".toList) = true := by
    rw [strip_unspaced hinfo]
    rcases hjson with hjson | hjson <;> rw [hjson] <;> decide
  simp only [stripJsonFence]
  rw [if_neg hlength,hfirst,hlast,hinner,String.toList_ofList,String.toList_ofList,hopening,hclosing,
    if_neg hopens,List.drop_left,if_neg hknown,hjoin]

end texts

section outputs

theorem fenced_output_accepted (loads : String → Loaded) (info body : Text) (specs : List TaskSpecDraft)
    (hinfo : ∀ c ∈ info, isSpace c = false)
    (hjson : info.map Char.toLower = [] ∨ info.map Char.toLower = "json".toList)
    (hbody : ∀ c ∈ body, isLineBreak c = true → c = '\n') :
    parseTaskSpecDrafts loads (fenced info body) = .ok specs ↔
      specs ≠ [] ∧ ∃ items, loads (strippedText (String.ofList body)) = .value (.array items) ∧
        List.Forall₂ Describes items specs := by
  rw [accepted_iff,strippedText_fenced,stripJsonFence_fenced hinfo hjson hbody]

def sampleSpec : TaskSpecDraft where
  title := ⟨"Fix the parser",by decide⟩
  roleRequired := .backend
  objective := ⟨"Read the fence",by decide⟩
  acceptanceCriteria := ⟨[⟨"Tests pass",by decide⟩],by decide⟩
  allowedPaths := ⟨[⟨"apps/web/**",by decide⟩],by decide⟩
  requiredTests := []
  riskLevel := .low

def sampleText : Text :=
  "[\n\x7b\"title\":\"Fix the parser\",\"role_required\":\"backend\",\"objective\":\"Read the fence\",\n".toList ++
  "\"acceptance_criteria\":[\"Tests pass\"],\"allowed_paths\":[\"apps/web/**\"],\"required_tests\":[],\n".toList ++
  "\"risk_level\":\"low\"\x7d\n]".toList

def sampleLoads (text : String) : Loaded :=
  if text = String.ofList sampleText then .value (.array [.object (draftObject sampleSpec)]) else .decodeError

theorem strip_sampleText : strip sampleText = sampleText := by decide +kernel

theorem sample_fenced_output : parseTaskSpecDrafts sampleLoads (fenced "JSON".toList sampleText) = .ok [sampleSpec] :=
  (fenced_output_accepted sampleLoads "JSON".toList sampleText [sampleSpec] (unspaced_of_all (by decide)) (by decide)
    (newlines_of_all (by decide +kernel))).mpr ⟨by decide,[.object (draftObject sampleSpec)],
      if_pos (by rw [strippedText,String.toList_ofList,strip_sampleText]),
      .cons (describes_draftObject sampleSpec) .nil⟩

end outputs

end AiScdc.ModelPlanner
