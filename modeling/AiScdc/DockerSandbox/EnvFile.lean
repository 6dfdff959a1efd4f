import AiScdc.DockerSandbox.Commands
import AiScdc.Text.KeyLines

namespace AiScdc.DockerSandbox

open KeyLines (Writable)

def keyLine (entry : String × String) : KeyLines.Entry := (entry.1.toList,entry.2.toList)

section names

variable {name : String} {entry : String × String} {items : List (String × String)}

theorem isSpace_of_nameChar {c : Char} (h : c.isAlphanum = true ∨ c = '_') : isSpace c = false := by
  have hrange : (48 ≤ c.toNat ∧ c.toNat ≤ 57) ∨ (65 ≤ c.toNat ∧ c.toNat ≤ 122) := by
    rcases h with h | rfl
    · change (((decide (65 ≤ c.val ∧ c.val ≤ 90)) || (97 ≤ c.val && c.val ≤ 122)) || (48 ≤ c.val && c.val ≤ 57)) = true at h
      simp only [Bool.or_eq_true,Bool.and_eq_true,decide_eq_true_eq,UInt32.le_iff_toNat_le] at h
      change ((65 ≤ c.toNat ∧ c.toNat ≤ 90) ∨ 97 ≤ c.toNat ∧ c.toNat ≤ 122) ∨ 48 ≤ c.toNat ∧ c.toNat ≤ 57 at h
      omega
    · decide
  simp only [isSpace,Bool.or_eq_false_iff,Bool.and_eq_false_iff,decide_eq_false_iff_not]
  omega

theorem envName_chars (h : isEnvName name.toList = true) :
    name.toList ≠ [] ∧ ∀ c ∈ name.toList, c.isAlphanum = true ∨ c = '_' := by
  cases hname : name.toList with
  | nil =>
    rw [hname] at h
    cases h
  | cons c rest =>
    simp only [hname,isEnvName,Bool.and_eq_true,Bool.or_eq_true,decide_eq_true_eq,List.all_eq_true] at h
    refine ⟨List.cons_ne_nil c rest,fun d hd => ?_⟩
    rcases List.mem_cons.mp hd with rfl | hd
    · exact h.1.imp_left fun halpha => by simp [Char.isAlphanum,halpha]
    · exact h.2 d hd

theorem item_writable (hname : isSafeSandboxEnvName entry.1 = true) (hvalue : isSafeDockerEnvValue entry.2 = true) :
    Writable isSpace (keyLine entry) := by
  simp only [isSafeSandboxEnvName,Bool.and_eq_true] at hname
  obtain ⟨hne,hchars⟩ := envName_chars hname.1
  have havoids (d : Char) (hd : d.isAlphanum = false ∧ d ≠ '_') : ∀ c ∈ entry.1.toList, c ≠ d := by
    rintro c hc rfl
    rcases hchars c hc with halnum | hunder
    · exact Bool.false_ne_true (hd.1.symm.trans halnum)
    · exact hd.2 hunder
  simp only [isSafeDockerEnvValue,Bool.and_eq_true,decide_eq_true_eq] at hvalue
  constructor
  · intro c hc
    have hmem : c ∈ entry.1.toList := List.mem_of_mem_head? hc
    exact ⟨isSpace_of_nameChar (hchars c hmem),havoids '#' (by decide) c hmem⟩
  · exact hne
  · intro c hc
    exact ⟨havoids '=' (by decide) c hc,havoids '\n' (by decide) c hc⟩
  · intro c hc
    exact ⟨fun heq => hvalue.1 (heq ▸ hc),fun heq => hvalue.2 (heq ▸ hc)⟩

theorem envFileContent_toList (items : List (String × String)) :
    (envFileContent items).toList = KeyLines.write (items.map keyLine) := by
  have hjoin (lines : List String) : (String.join lines).toList = lines.flatMap String.toList := by
    induction lines with
    | nil => rfl
    | cons line lines ih => simp [ih]
  rw [envFileContent,hjoin,KeyLines.write,List.flatMap_map,List.flatMap_map]
  congr 1
  funext entry
  simp [envLine,KeyLines.line,keyLine]

theorem mem_containerEnvItems {env : ContainerEnv} : entry ∈ containerEnvItems env ↔
    entry ∈ env.entries ∧ isSafeSandboxEnvName entry.1 = true ∧ isSafeDockerEnvValue entry.2 = true := by
  rw [containerEnvItems,List.mem_filter,List.mem_insertionSort,List.mem_filter,and_assoc]

theorem containerEnvItems_unique (env : ContainerEnv) : ((containerEnvItems env).map Prod.fst).Nodup := by
  have hperm := List.perm_insertionSort (fun a b : String × String => a.1 ≤ b.1)
    (env.entries.filter fun entry => isSafeSandboxEnvName entry.1)
  have hsub : (containerEnvItems env).Sublist _ := List.filter_sublist
  refine (hsub.map Prod.fst).nodup ?_
  refine (hperm.map Prod.fst).nodup_iff.mpr ?_
  exact (List.filter_sublist.map Prod.fst).nodup env.unique

-- What docker reads from the file is what the request holds, less the names and values that are refused.
theorem env_file_exact (env : ContainerEnv) :
    KeyLines.read isSpace (envFileContent (containerEnvItems env)).toList = (containerEnvItems env).map keyLine ∧
    ((containerEnvItems env).map Prod.fst).Nodup ∧
    (∀ entry, entry ∈ containerEnvItems env ↔ entry ∈ env.entries ∧ isSafeSandboxEnvName entry.1 = true ∧
      isSafeDockerEnvValue entry.2 = true) ∧
    ∀ entry ∈ containerEnvItems env, upper entry.1 ∉ dockerCliEnvDenylist := by
  refine ⟨?_,containerEnvItems_unique env,fun entry => mem_containerEnvItems,fun entry hentry => ?_⟩
  · rw [envFileContent_toList]
    apply KeyLines.read_write
    intro line hline
    obtain ⟨entry,hentry,rfl⟩ := List.mem_map.mp hline
    obtain ⟨_,hname,hvalue⟩ := mem_containerEnvItems.mp hentry
    exact item_writable hname hvalue
  · obtain ⟨_,hname,_⟩ := mem_containerEnvItems.mp hentry
    simp only [isSafeSandboxEnvName,Bool.and_eq_true,decide_eq_true_eq] at hname
    exact hname.2

end names

end AiScdc.DockerSandbox
