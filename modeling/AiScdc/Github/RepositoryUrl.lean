import AiScdc.ArtifactPlane.Uri
import AiScdc.Text.Percent
import AiScdc.Guards

namespace AiScdc.Github

open AiScdc.ArtifactPlane (UrlText SplitResult urlsplit before after afterLast)
open Percent (unquote)

def isSingleGithubPathSegment (value : Text) : Bool :=
  !(value.all isSpace) && !('/' ∈ value) && !('\\' ∈ value) &&
    !('/' ∈ unquote value) && !('\\' ∈ unquote value)

def userinfo (parsed : SplitResult) : Option Text :=
  if '@' ∈ parsed.netloc then
    some (parsed.netloc.take (parsed.netloc.length - (afterLast (· = '@') parsed.netloc).length - 1))
  else none

def hasCredentials (parsed : SplitResult) : Bool :=
  match userinfo parsed with
  | none => false
  | some info => before (· = ':') info ≠ [] || after (· = ':') info ≠ []

def pathParts (parsed : SplitResult) : List Text :=
  (parsed.path.splitOn '/').filter fun part => part ≠ []

def dotGit : Text := ".git".toList

def Names (owner repo : Text) (first second : Text) : Prop :=
  first = owner ∧ (second = repo ∨ second = repo ++ dotGit)

instance (owner repo first second : Text) : Decidable (Names owner repo first second) :=
  inferInstanceAs (Decidable (_ ∧ _))

def onGithub [UrlText] (parsed : SplitResult) : Bool :=
  parsed.scheme = "https".toList && parsed.hostname = some "github.com".toList

section connect

def segmentsDetail : String := "GitHub owner and repo must be single path segments"
def mismatchDetail : String := "GitHub repository URL must match owner/repo"
def credentialsDetail : String := "GitHub repository URL must not include credentials"

-- Every refusal has status 400.
def validateGithubRepositoryUrl [UrlText] (repoUrl owner repo : String) : Except String String :=
  if !isSingleGithubPathSegment owner.toList || !isSingleGithubPathSegment repo.toList then
    .error segmentsDetail
  else match urlsplit repoUrl with
    | none => .error mismatchDetail
    | some parsed =>
      if hasCredentials parsed then .error credentialsDetail
      else if !onGithub parsed then .error mismatchDetail
      else match pathParts parsed with
        | [first,second] =>
          if !decide (Names owner.toList repo.toList first second) || parsed.query ≠ [] ||
              parsed.fragment ≠ [] then
            .error mismatchDetail
          else .ok repoUrl
        | _ => .error mismatchDetail

end connect

section sandbox

def isSafeAuthenticatedGithubUrl [UrlText] (repoUrl : String) (expectedOwner expectedRepo : Option String) :
    Bool :=
  match expectedOwner,expectedRepo with
  | some expectedOwner,some expectedRepo =>
    if expectedOwner = "" || expectedRepo = "" then false
    else if !isSingleGithubPathSegment expectedOwner.toList then false
    else if !isSingleGithubPathSegment expectedRepo.toList then false
    else match urlsplit repoUrl with
      | none => false
      | some parsed =>
        if hasCredentials parsed then false
        else if !onGithub parsed then false
        else match pathParts parsed with
          | [first,second] =>
            if first = [] || second = [] then false
            else if !isSingleGithubPathSegment first then false
            else if !isSingleGithubPathSegment second then false
            else if unquote first ≠ expectedOwner.toList then false
            else if !(unquote second = expectedRepo.toList ||
                unquote second = expectedRepo.toList ++ dotGit) then false
            else if parsed.query ≠ [] || parsed.fragment ≠ [] then false
            else true
          | _ => false
  | _,_ => false

end sandbox

section segments

theorem pathParts_ne_nil {parsed : SplitResult} {part : Text} (h : part ∈ pathParts parsed) :
    part ≠ [] := of_decide_eq_true (List.mem_filter.mp h).2

theorem single_ne_empty {value : String} (h : isSingleGithubPathSegment value.toList) : value ≠ "" := by
  rintro rfl
  revert h
  decide

theorem plainSuffix_dotGit : Percent.PlainSuffix dotGit where
  ascii := List.all_eq_true.mp (by decide)
  unescaped := by decide
  boundary := by
    intro c hc
    obtain rfl : '.' = c := Option.some.inj hc
    decide

variable {owner repo first second : Text}

-- Unquoting shortens a text that it changes, so it cannot turn one spelling of the name into the other.
theorem unquote_repo_fixed (h : second = repo ∨ second = repo ++ dotGit)
    (h' : unquote second = repo ∨ unquote second = repo ++ dotGit) : unquote second = second := by
  rcases h with rfl | rfl
  · rcases h' with h' | h'
    · exact h'
    · have hlength := Percent.unquote_length_le second
      rw [h',List.length_append] at hlength
      have hgit : dotGit.length = 4 := rfl
      omega
  · rcases h' with h' | h'
    · rw [Percent.unquote_append plainSuffix_dotGit] at h'
      exact (Percent.unquote_append_ne plainSuffix_dotGit (by decide) _ repo (Nat.le_refl _) h').elim
    · exact h'

theorem single_repo_name (hrepo : isSingleGithubPathSegment repo)
    (h : second = repo ∨ second = repo ++ dotGit) (hfixed : unquote second = second) :
    isSingleGithubPathSegment second := by
  rcases h with rfl | rfl
  · exact hrepo
  · have hspace : dotGit.all isSpace = false := by decide
    have hslash : '/' ∉ dotGit := by decide
    have hbackslash : '\\' ∉ dotGit := by decide
    simp only [isSingleGithubPathSegment,Bool.and_eq_true,Bool.not_eq_true',decide_eq_false_iff_not]
      at hrepo ⊢
    obtain ⟨⟨⟨⟨_,hforward⟩,hback⟩,_⟩,_⟩ := hrepo
    rw [hfixed]
    have hone : '/' ∉ repo ++ dotGit := by simp [hforward,hslash]
    have htwo : '\\' ∉ repo ++ dotGit := by simp [hback,hbackslash]
    exact ⟨⟨⟨⟨by rw [List.all_append,hspace,Bool.and_false],hone⟩,htwo⟩,hone⟩,htwo⟩

end segments

section agreement

variable [UrlText] {url owner repo : String} {first second : Text}

-- What both ask of the url before its two segments are compared.
structure Shared (url owner repo : String) (first second : Text) : Prop where
  owner : isSingleGithubPathSegment owner.toList
  repo : isSingleGithubPathSegment repo.toList
  parsed : ∃ parsed, urlsplit url = some parsed ∧ hasCredentials parsed = false ∧ onGithub parsed ∧
    pathParts parsed = [first,second] ∧ parsed.query = [] ∧ parsed.fragment = []

theorem validate_ok_iff :
    validateGithubRepositoryUrl url owner repo = .ok url ↔
      ∃ first second, Shared url owner repo first second ∧ Names owner.toList repo.toList first second := by
  constructor
  · intro h
    rw [validateGithubRepositoryUrl] at h
    obtain ⟨hsegments,h⟩ := ok_of_guard h
    cases hparsed : urlsplit url with
    | none =>
      rw [hparsed] at h
      cases h
    | some parsed =>
      rw [hparsed] at h
      obtain ⟨hcredentials,h⟩ := ok_of_guard h
      obtain ⟨hgithub,h⟩ := ok_of_guard h
      split at h
      · next first second hparts =>
        obtain ⟨hnames,_⟩ := ok_of_guard h
        simp only [Bool.or_eq_true,Bool.not_eq_true',not_or,Bool.not_eq_false] at hsegments hgithub
        simp only [Bool.or_eq_true,Bool.not_eq_true',decide_eq_false_iff_not,decide_eq_true_eq,
          not_or,not_not] at hnames
        obtain ⟨⟨hnames,hquery⟩,hfragment⟩ := hnames
        exact ⟨first,second,⟨hsegments.1,hsegments.2,parsed,hparsed,Bool.eq_false_iff.mpr hcredentials,
          hgithub,hparts,hquery,hfragment⟩,hnames⟩
      · cases h
  · rintro ⟨first,second,⟨howner,hrepo,parsed,hparsed,hcredentials,hgithub,hparts,hquery,hfragment⟩,
      hnames⟩
    simp only [validateGithubRepositoryUrl,howner,hrepo,hparsed,hcredentials,hgithub,hparts,hquery,
      hfragment,hnames,decide_true,Bool.not_true,Bool.or_self,Bool.false_eq_true,if_false,ne_eq,
      not_true_eq_false,decide_false]

theorem sandbox_accepts_iff :
    isSafeAuthenticatedGithubUrl url (some owner) (some repo) = true ↔
      ∃ first second, Shared url owner repo first second ∧
        isSingleGithubPathSegment first ∧ isSingleGithubPathSegment second ∧
        Names owner.toList repo.toList (unquote first) (unquote second) := by
  constructor
  · intro h
    rw [isSafeAuthenticatedGithubUrl] at h
    obtain ⟨_,h⟩ := true_of_guard h
    obtain ⟨howner,h⟩ := true_of_guard h
    obtain ⟨hrepo,h⟩ := true_of_guard h
    cases hparsed : urlsplit url with
    | none =>
      rw [hparsed] at h
      cases h
    | some parsed =>
      rw [hparsed] at h
      obtain ⟨hcredentials,h⟩ := true_of_guard h
      obtain ⟨hgithub,h⟩ := true_of_guard h
      split at h
      · next first second hparts =>
        obtain ⟨_,h⟩ := true_of_guard h
        obtain ⟨hfirst,h⟩ := true_of_guard h
        obtain ⟨hsecond,h⟩ := true_of_guard h
        obtain ⟨hownerName,h⟩ := true_of_guard h
        obtain ⟨hrepoName,h⟩ := true_of_guard h
        obtain ⟨hrest,_⟩ := true_of_guard h
        simp only [Bool.or_eq_true,decide_eq_true_eq,not_or,not_not] at hrest
        simp only [Bool.not_eq_true',Bool.not_eq_false] at howner hrepo hfirst hsecond hgithub
        simp only [Bool.not_eq_true',Bool.not_eq_false,Bool.or_eq_true,decide_eq_true_eq] at hrepoName
        exact ⟨first,second,⟨howner,hrepo,parsed,hparsed,Bool.eq_false_iff.mpr hcredentials,hgithub,
          hparts,hrest.1,hrest.2⟩,hfirst,hsecond,not_not.mp hownerName,hrepoName⟩
      · cases h
  · rintro ⟨first,second,⟨howner,hrepo,parsed,hparsed,hcredentials,hgithub,hparts,hquery,hfragment⟩,
      hfirst,hsecond,hownerName,hrepoName⟩
    have hfirstMem : first ∈ pathParts parsed := by rw [hparts]; exact List.mem_cons_self
    have hsecondMem : second ∈ pathParts parsed := by
      rw [hparts]
      exact List.mem_cons_of_mem _ List.mem_cons_self
    have hone := pathParts_ne_nil hfirstMem
    have htwo := pathParts_ne_nil hsecondMem
    have hrepoNamed : (unquote second = repo.toList || unquote second = repo.toList ++ dotGit) = true := by
      simpa using hrepoName
    simp only [isSafeAuthenticatedGithubUrl,howner,hrepo,hparsed,hcredentials,hgithub,hparts,hquery,
      hfragment,hfirst,hsecond,hownerName,hrepoNamed,hone,htwo,single_ne_empty howner,
      single_ne_empty hrepo,decide_false,Bool.not_true,Bool.or_self,Bool.false_eq_true,if_false,ne_eq,
      not_true_eq_false]

def ValidatorsAgree (url owner repo : String) : Prop :=
  validateGithubRepositoryUrl url owner repo = .ok url ↔
    isSafeAuthenticatedGithubUrl url (some owner) (some repo) = true

def NamesQuotedOrNot (owner repo : Text) (first second : Text) : Prop :=
  Names owner repo first second ∨
    (isSingleGithubPathSegment first ∧ isSingleGithubPathSegment second ∧
      Names owner repo (unquote first) (unquote second))

theorem shared_unique {first' second' : Text} (h : Shared url owner repo first second)
    (h' : Shared url owner repo first' second') : first' = first ∧ second' = second := by
  obtain ⟨_,_,parsed,hparsed,_,_,hparts,_⟩ := h
  obtain ⟨_,_,parsed',hparsed',_,_,hparts',_⟩ := h'
  obtain rfl : parsed = parsed' := Option.some.inj (hparsed.symm.trans hparsed')
  rw [hparts] at hparts'
  obtain ⟨hfirst,hrest⟩ := List.cons.inj hparts'
  exact ⟨hfirst.symm,(List.cons.inj hrest).1.symm⟩

theorem validators_agree_iff (url owner repo : String) :
    ValidatorsAgree url owner repo ↔
      ∀ first second, Shared url owner repo first second →
        NamesQuotedOrNot owner.toList repo.toList first second →
        unquote first = first ∧ unquote second = second := by
  rw [ValidatorsAgree,validate_ok_iff,sandbox_accepts_iff]
  have hfixed {first second : Text} (h : Names owner.toList repo.toList first second)
      (h' : Names owner.toList repo.toList (unquote first) (unquote second)) :
      unquote first = first ∧ unquote second = second :=
    ⟨h'.1.trans h.1.symm,unquote_repo_fixed h.2 h'.2⟩
  constructor
  · intro hagree first second hshared hnames
    rcases hnames with hraw | ⟨hfirst,hsecond,hunquoted⟩
    · obtain ⟨first',second',hshared',_,_,hunquoted⟩ := hagree.mp ⟨first,second,hshared,hraw⟩
      obtain ⟨rfl,rfl⟩ := shared_unique hshared hshared'
      exact hfixed hraw hunquoted
    · obtain ⟨first',second',hshared',hraw⟩ :=
        hagree.mpr ⟨first,second,hshared,hfirst,hsecond,hunquoted⟩
      obtain ⟨rfl,rfl⟩ := shared_unique hshared hshared'
      exact hfixed hraw hunquoted
  · intro h
    constructor
    · rintro ⟨first,second,hshared,hraw⟩
      obtain ⟨hfirst,hsecond⟩ := h first second hshared (.inl hraw)
      refine ⟨first,second,hshared,?_,single_repo_name hshared.repo hraw.2 hsecond,?_⟩
      · rw [hraw.1]
        exact hshared.owner
      · rw [hfirst,hsecond]
        exact hraw
    · rintro ⟨first,second,hshared,hfirstSingle,hsecondSingle,hunquoted⟩
      obtain ⟨hfirst,hsecond⟩ := h first second hshared (.inr ⟨hfirstSingle,hsecondSingle,hunquoted⟩)
      rw [hfirst,hsecond] at hunquoted
      exact ⟨first,second,hshared,hunquoted⟩

end agreement

@[reducible] def asciiUrls : UrlText := ⟨fun text => text.map Char.toLower,fun _ => true⟩

theorem escaped_owner_reaches_sandbox :
    let _ := asciiUrls
    ¬ ValidatorsAgree "https://github.com/%61cme/repo" "acme" "repo" ∧
      ¬ ValidatorsAgree "https://github.com/%61cme/repo" "%61cme" "repo" := by
  intro _
  constructor
  · intro h
    have hsandbox : isSafeAuthenticatedGithubUrl "https://github.com/%61cme/repo" (some "acme")
        (some "repo") = true := by decide +kernel
    have hconnect : validateGithubRepositoryUrl "https://github.com/%61cme/repo" "acme" "repo" =
        .error mismatchDetail := by decide +kernel
    rw [h.mpr hsandbox] at hconnect
    cases hconnect
  · intro h
    have hconnect : validateGithubRepositoryUrl "https://github.com/%61cme/repo" "%61cme" "repo" =
        .ok "https://github.com/%61cme/repo" := by decide +kernel
    have hsandbox : isSafeAuthenticatedGithubUrl "https://github.com/%61cme/repo" (some "%61cme")
        (some "repo") = false := by decide +kernel
    rw [h.mp hconnect] at hsandbox
    cases hsandbox

end AiScdc.Github
