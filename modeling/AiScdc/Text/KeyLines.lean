import Mathlib.Data.List.Basic

-- Files of NAME=value lines, with blank lines and comments passed over.
namespace KeyLines

abbrev Entry := List Char × List Char

def line (entry : Entry) : List Char := entry.1 ++ '=' :: entry.2

def write (entries : List Entry) : List Char := entries.flatMap fun entry => line entry ++ ['\n']

def withoutReturn (text : List Char) : List Char := if text.getLast? = some '\r' then text.dropLast else text

def splitName (text : List Char) : Entry :=
  (text.takeWhile fun c => c ≠ '=',(text.dropWhile fun c => c ≠ '=').drop 1)

def readLine (isBlank : Char → Bool) (text : List Char) : Option Entry :=
  let trimmed := (withoutReturn text).dropWhile isBlank
  if trimmed = [] || trimmed.head? = some '#' then none else some (splitName trimmed)

def read (isBlank : Char → Bool) (text : List Char) : List Entry := (text.splitOn '\n').filterMap (readLine isBlank)

example : read (· = ' ') "# settings\nA=1\n\n  B=x=y\n".toList = [("A".toList,"1".toList),("B".toList,"x=y".toList)] := by
  decide +kernel

structure Writable (isBlank : Char → Bool) (entry : Entry) : Prop where
  begins : ∀ c ∈ entry.1.head?, isBlank c = false ∧ c ≠ '#'
  nonempty : entry.1 ≠ []
  name : ∀ c ∈ entry.1, c ≠ '=' ∧ c ≠ '\n'
  value : ∀ c ∈ entry.2, c ≠ '\n' ∧ c ≠ '\r'

section entries

variable {isBlank : Char → Bool} {entry : Entry} {entries : List Entry}

theorem splitName_line (h : ∀ c ∈ entry.1, c ≠ '=') : splitName (line entry) = entry := by
  have htake : (line entry).takeWhile (fun c => c ≠ '=') = entry.1 := by
    rw [line,List.takeWhile_append_of_pos fun c hc => decide_eq_true (h c hc)]
    simp
  have hdrop : (line entry).dropWhile (fun c => c ≠ '=') = '=' :: entry.2 := by
    rw [line,List.dropWhile_append_of_pos fun c hc => decide_eq_true (h c hc)]
    simp
  rw [splitName,htake,hdrop]
  rfl

theorem withoutReturn_line (h : ∀ c ∈ entry.2, c ≠ '\r') : withoutReturn (line entry) = line entry := by
  apply if_neg
  intro hlast
  rcases List.eq_nil_or_concat entry.2 with hvalue | ⟨before,c,hvalue⟩
  · rw [line,hvalue,List.getLast?_concat] at hlast
    exact absurd (Option.some.inj hlast) (by decide)
  · rw [List.concat_eq_append] at hvalue
    rw [line,hvalue,← List.cons_append,← List.append_assoc,List.getLast?_concat] at hlast
    exact h c (by rw [hvalue]; simp) (Option.some.inj hlast)

theorem readLine_line (h : Writable isBlank entry) : readLine isBlank (line entry) = some entry := by
  obtain ⟨c,name,hname⟩ := List.exists_cons_of_ne_nil h.nonempty
  obtain ⟨hblank,hhash⟩ := h.begins c (by rw [hname]; rfl)
  have htrim : (line entry).dropWhile isBlank = line entry := by
    rw [line,hname,List.cons_append]
    exact List.dropWhile_cons_of_neg (by simp [hblank])
  have hhead : (line entry).head? = some c := by rw [line,hname]; rfl
  have hne : line entry ≠ [] := by simp [line]
  simp only [readLine,withoutReturn_line fun c hc => (h.value c hc).2,htrim]
  rw [if_neg (by simp [hne,hhead,hhash]),splitName_line fun c hc => (h.name c hc).1]

theorem line_no_break (h : Writable isBlank entry) : '\n' ∉ line entry := by
  intro hmem
  rcases List.mem_append.mp hmem with hmem | hmem
  · exact (h.name _ hmem).2 rfl
  · rcases List.mem_cons.mp hmem with heq | hmem
    · exact absurd heq (by decide)
    · exact (h.value _ hmem).1 rfl

theorem write_lines (entries : List Entry) : write entries = ['\n'].intercalate (entries.map line ++ [[]]) := by
  induction entries with
  | nil => rfl
  | cons entry entries ih =>
    rw [write,List.flatMap_cons,← write,ih]
    cases entries <;> simp [List.intercalate]

theorem readLine_lines (h : ∀ entry ∈ entries, Writable isBlank entry) :
    (entries.map line).filterMap (readLine isBlank) = entries := by
  induction entries with
  | nil => rfl
  | cons entry entries ih =>
    obtain ⟨hentry,hentries⟩ := List.forall_mem_cons.mp h
    rw [List.map_cons,List.filterMap_cons_some (readLine_line hentry),ih hentries]

theorem read_write (h : ∀ entry ∈ entries, Writable isBlank entry) : read isBlank (write entries) = entries := by
  have hbreaks : ∀ text ∈ entries.map line ++ [[]], '\n' ∉ text := by
    intro text htext
    rcases List.mem_append.mp htext with htext | htext
    · obtain ⟨entry,hentry,rfl⟩ := List.mem_map.mp htext
      exact line_no_break (h entry hentry)
    · rw [List.mem_singleton.mp htext]
      exact List.not_mem_nil
  have hlast : [([] : List Char)].filterMap (readLine isBlank) = [] := rfl
  rw [read,write_lines,List.splitOn_intercalate '\n' hbreaks (by simp),List.filterMap_append,hlast,
    List.append_nil,readLine_lines h]

end entries

end KeyLines
