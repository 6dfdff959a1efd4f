import AiScdc.ModelPlanner.Drafts

namespace AiScdc.ModelPlanner

open JsonValues (PyStr Object field plain)
open ModelSettings (AgentRole)
open RemoteWorker (strippedText)

section draft

def stringValue (text : NonEmptyString) : JsonValues.Json := .str (plain text.1)

def stringArray (items : List NonEmptyString) : JsonValues.Json := .array (items.map stringValue)

-- The JSON object that says what the draft says.
def draftObject (spec : TaskSpecDraft) : Object :=
  [(plain "title",stringValue spec.title),
   (plain "role_required",.str (plain (agentRoleValue spec.roleRequired))),
   (plain "objective",stringValue spec.objective),
   (plain "acceptance_criteria",stringArray spec.acceptanceCriteria.1),
   (plain "allowed_paths",stringArray spec.allowedPaths.1),
   (plain "required_tests",stringArray spec.requiredTests),
   (plain "risk_level",.str (plain (riskLevelValue spec.riskLevel)))]

-- The item is that object as a dict: whatever the order of its fields, and the last of one name counts.
def Describes (item : JsonValues.Json) (spec : TaskSpecDraft) : Prop :=
  ∃ fields, item = .object fields ∧ (∀ entry ∈ fields, isTaskSpecField entry.1 = true) ∧
    ∀ name ∈ taskSpecFields, field fields name = field (draftObject spec) name

theorem describes_draftObject (spec : TaskSpecDraft) : Describes (.object (draftObject spec)) spec := by
  refine ⟨draftObject spec,rfl,fun entry hentry => ?_,fun _ _ => rfl⟩
  simp only [draftObject,List.mem_cons,List.not_mem_nil,or_false] at hentry
  rcases hentry with rfl | rfl | rfl | rfl | rfl | rfl | rfl <;> rfl

end draft

section lists

variable {α β : Type} {read : α → Option β} {items : List α} {values : List β}

theorem mapM_iff :
    items.mapM read = some values ↔ List.Forall₂ (fun item value => read item = some value) items values := by
  induction items generalizing values with
  | nil => simp [eq_comm]
  | cons item items ih =>
    rw [List.mapM_cons,List.forall₂_cons_left_iff]
    simp only [Option.bind_eq_bind,Option.bind_eq_some_iff,ih,Option.pure_def,Option.some.injEq]
    constructor
    · rintro ⟨value,hvalue,more,hmore,rfl⟩
      exact ⟨value,more,hvalue,hmore,rfl⟩
    · rintro ⟨value,more,hvalue,hmore,rfl⟩
      exact ⟨value,hvalue,more,hmore,rfl⟩

end lists

section values

variable {value : JsonValues.Json} {texts : List NonEmptyString} {someTexts : SomeStrings}

theorem asText_some {s : PyStr} (h : value.asText = some s) : value = .str s := by
  cases value with
  | str text => exact congrArg JsonValues.Json.str (Option.some.inj h)
  | _ => cases h

theorem asObject_some {fields : Object} (h : value.asObject = some fields) : value = .object fields := by
  cases value with
  | object entries => exact congrArg JsonValues.Json.object (Option.some.inj h)
  | _ => cases h

theorem nonEmptyStrings_iff : nonEmptyStrings value = some texts ↔ value = stringArray texts := by
  cases value with
  | array items =>
    simp only [nonEmptyStrings,JsonValues.Json.asList,Option.bind_some,mapM_iff,nonEmptyString_iff,stringArray,JsonValues.Json.array.injEq]
    rw [← List.forall₂_eq_eq_eq,List.forall₂_map_right_iff]
    rfl
  | _ => simp [nonEmptyStrings,JsonValues.Json.asList,stringArray]

theorem someStrings_iff : someStrings value = some someTexts ↔ value = stringArray someTexts.1 := by
  obtain ⟨texts,hne⟩ := someTexts
  rw [← nonEmptyStrings_iff,someStrings,Option.bind_eq_some_iff]
  constructor
  · rintro ⟨found,hfound,h⟩
    split at h
    · obtain rfl := congrArg Subtype.val (Option.some.inj h)
      exact hfound
    · cases h
  · intro h
    exact ⟨texts,h,dif_pos hne⟩

theorem enumMember_iff {α : Type} {members : List α} {text : α → String} {member : α}
    (hall : ∀ member, member ∈ members) (hinj : Function.Injective text) :
    enumMember members text value = some member ↔ value = .str (plain (text member)) := by
  constructor
  · intro h
    obtain ⟨s,hs,hfind⟩ := Option.bind_eq_some_iff.mp h
    obtain rfl : s = plain (text member) := by simpa using List.find?_some hfind
    exact asText_some hs
  · rintro rfl
    cases hfind : members.find? (fun other => plain (text member) = plain (text other)) with
    | none => simpa using List.find?_eq_none.mp hfind member (hall member)
    | some other =>
      have htext : text member = text other := by simpa [plain] using List.find?_some hfind
      obtain rfl := hinj htext
      exact hfind

theorem agentRole_iff {role : AgentRole} :
    enumMember agentRoles agentRoleValue value = some role ↔ value = .str (plain (agentRoleValue role)) := by
  refine enumMember_iff (fun role => ?_) fun a b h => ?_
  · cases role <;> decide
  · cases a <;> cases b <;> first | rfl | exact absurd h (by decide)

theorem riskLevel_iff {level : RiskLevel} :
    enumMember riskLevels riskLevelValue value = some level ↔ value = .str (plain (riskLevelValue level)) := by
  refine enumMember_iff (fun level => ?_) fun a b h => ?_
  · cases level <;> decide
  · cases a <;> cases b <;> first | rfl | exact absurd h (by decide)

end values

section specs

variable {item : JsonValues.Json} {fields : Object} {spec : TaskSpecDraft}

theorem fields_iff :
    (∀ name ∈ taskSpecFields, field fields name = field (draftObject spec) name) ↔
      field fields "title" = stringValue spec.title ∧
      field fields "role_required" = .str (plain (agentRoleValue spec.roleRequired)) ∧
      field fields "objective" = stringValue spec.objective ∧
      field fields "acceptance_criteria" = stringArray spec.acceptanceCriteria.1 ∧
      field fields "allowed_paths" = stringArray spec.allowedPaths.1 ∧
      field fields "required_tests" = stringArray spec.requiredTests ∧
      field fields "risk_level" = .str (plain (riskLevelValue spec.riskLevel)) := by
  simp [taskSpecFields,field,draftObject,plain]

theorem modelValidate_iff : modelValidate item = some spec ↔ Describes item spec := by
  constructor
  · intro h
    obtain ⟨fields,hitem,hread⟩ := Option.bind_eq_some_iff.mp h
    obtain rfl := asObject_some hitem
    split at hread
    · next hnames =>
      simp only [Option.bind_eq_bind,Option.bind_eq_some_iff,Option.pure_def,Option.some.injEq,nonEmptyString_iff,
        nonEmptyStrings_iff,someStrings_iff,agentRole_iff,riskLevel_iff] at hread
      obtain ⟨title,htitle,role,hrole,objective,hobjective,criteria,hcriteria,paths,hpaths,tests,htests,level,
        hlevel,rfl⟩ := hread
      exact ⟨fields,rfl,List.all_eq_true.mp hnames,
        fields_iff.mpr ⟨htitle,hrole,hobjective,hcriteria,hpaths,htests,hlevel⟩⟩
    · cases hread
  · rintro ⟨fields,rfl,hnames,hfields⟩
    obtain ⟨htitle,hrole,hobjective,hcriteria,hpaths,htests,hlevel⟩ := fields_iff.mp hfields
    rw [modelValidate,JsonValues.Json.asObject,Option.bind_some,if_pos (List.all_eq_true.mpr hnames)]
    rw [nonEmptyString_iff.mpr htitle,agentRole_iff.mpr hrole,nonEmptyString_iff.mpr hobjective,
      someStrings_iff.mpr hcriteria,someStrings_iff.mpr hpaths,nonEmptyStrings_iff.mpr htests,riskLevel_iff.mpr hlevel]
    rfl

end specs

section outputs

variable {loads : String → Loaded} {content : String} {items : List JsonValues.Json} {specs : List TaskSpecDraft}

theorem specs_iff : items.mapM modelValidate = some specs ↔ List.Forall₂ Describes items specs := by
  simp only [mapM_iff,modelValidate_iff]

theorem accepted_iff : parseTaskSpecDrafts loads content = .ok specs ↔
    specs ≠ [] ∧ ∃ items, loads (stripJsonFence (strippedText content)) = .value (.array items) ∧
      List.Forall₂ Describes items specs := by
  rw [parseTaskSpecDrafts]
  cases loads (stripJsonFence (strippedText content)) with
  | raised => simp
  | decodeError => simp
  | value payload =>
    cases payload with
    | array items =>
      simp only [JsonValues.Json.asList,Loaded.value.injEq,JsonValues.Json.array.injEq,exists_eq_left',← specs_iff]
      cases items with
      | nil => simp [eq_comm]
      | cons item items =>
        cases hread : (item :: items).mapM modelValidate with
        | none => simp
        | some found =>
          have hne : found ≠ [] := by
            rintro rfl
            cases specs_iff.mp hread
          simp only [List.isEmpty_cons,Bool.false_eq_true,if_false,Except.ok.injEq,Option.some.injEq]
          constructor
          · rintro rfl
            exact ⟨hne,rfl⟩
          · exact And.right
    | _ => simp [JsonValues.Json.asList]

theorem raised_iff : parseTaskSpecDrafts loads content = .error .raised ↔
    loads (stripJsonFence (strippedText content)) = .raised := by
  rw [parseTaskSpecDrafts]
  cases loads (stripJsonFence (strippedText content)) with
  | raised => simp
  | decodeError => simp
  | value payload =>
    simp only [reduceCtorEq,iff_false]
    split
    · simp
    · next items _ =>
      cases items.isEmpty
      · cases items.mapM modelValidate <;> simp
      · simp

theorem planner_output_accepted (loads : String → Loaded) (content : String) :
    (∀ specs, parseTaskSpecDrafts loads content = .ok specs ↔
      specs ≠ [] ∧ ∃ items, loads (stripJsonFence (strippedText content)) = .value (.array items) ∧
        List.Forall₂ Describes items specs) ∧
    (parseTaskSpecDrafts loads content = .error .raised ↔
      loads (stripJsonFence (strippedText content)) = .raised) :=
  ⟨fun _ => accepted_iff,raised_iff⟩

end outputs

end AiScdc.ModelPlanner
