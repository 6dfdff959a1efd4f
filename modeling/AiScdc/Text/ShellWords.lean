import Mathlib.Data.List.Basic

namespace ShellWords

inductive Lexeme where
  | word (text : List Char) (literal : Bool)
  | semicolon
  deriving DecidableEq, Repr

-- The word being read, and whether the shell takes its text as it stands.
abbrev Pending := Option (List Char × Bool)

inductive Mode where
  | plain | single | double
  deriving DecidableEq, Repr

def extend : Pending → List Char → Bool → Pending
  | none,text,literal => some (text,literal)
  | some word,text,literal => some (word.1 ++ text,word.2 && literal)

def flush : Pending → List Lexeme → List Lexeme
  | none,rest => rest
  | some word,rest => .word word.1 word.2 :: rest

def isPlain (c : Char) : Bool := c.isAlphanum || c ∈ "_@%+=:,./-".toList

def isExpansion (c : Char) : Bool := c = '$' || c = '?'

-- What keeps a meaning between double quotes.
def isSpecial (c : Char) : Bool := c = '$' || c = '\\' || c.toNat = 96

-- `none` outside the fragment, and where a quotation is not closed.
def scan : Mode → Pending → List Char → Option (List Lexeme)
  | .plain,word,[] => some (flush word [])
  | .single,_,[] => none
  | .double,_,[] => none
  | .plain,word,c :: rest =>
    if c = ' ' then (scan .plain none rest).map (flush word)
    else if c = ';' then (scan .plain none rest).map fun later => flush word (.semicolon :: later)
    else if c = '\'' then scan .single (extend word [] true) rest
    else if c = '"' then scan .double (extend word [] true) rest
    else if isPlain c then scan .plain (extend word [c] true) rest
    else if isExpansion c then scan .plain (extend word [c] false) rest
    else none
  | .single,word,c :: rest =>
    if c = '\'' then scan .plain word rest else scan .single (extend word [c] true) rest
  | .double,word,c :: rest =>
    if c = '"' then scan .plain word rest
    else if isSpecial c then none
    else scan .double (extend word [c] true) rest

def readCommand (command : String) : Option (List Lexeme) := scan .plain none command.toList

example : readCommand "status=$?; rm -f 'a b'\"c\"" =
    some [.word "status=$?".toList false,.semicolon,.word "rm".toList true,.word "-f".toList true,
      .word "a bc".toList true] := by decide +kernel

def quoteChar (c : Char) : List Char := if c = '\'' then "'\"'\"'".toList else [c]

def quote (text : List Char) : List Char :=
  if text = [] then "''".toList
  else if text.all isPlain then text
  else '\'' :: text.flatMap quoteChar ++ ['\'']

def commandLine (args : List (List Char)) : List Char := [' '].intercalate (args.map quote)

def literals (args : List (List Char)) : List Lexeme := args.map fun arg => .word arg true

section words

variable {word : Pending} {said text rest : List Char} {literal : Bool} {c : Char}

@[simp] theorem extend_extend (word : Pending) (said text : List Char) (l l' : Bool) :
    extend (extend word said l) text l' = extend word (said ++ text) (l && l') := by
  cases word <;> simp [extend,Bool.and_assoc]

@[simp] theorem flush_none : flush none = id := rfl

theorem scan_blank (word : Pending) (rest : List Char) :
    scan .plain word (' ' :: rest) = (scan .plain none rest).map (flush word) := rfl

theorem scan_semicolon (word : Pending) (rest : List Char) : scan .plain word (';' :: rest) =
    (scan .plain none rest).map fun later => flush word (.semicolon :: later) := rfl

theorem scan_plain_char (h : isPlain c = true) :
    scan .plain word (c :: rest) = scan .plain (extend word [c] true) rest := by
  have hne (d : Char) (hd : isPlain d = false) : c ≠ d := by
    rintro rfl
    exact Bool.false_ne_true (hd.symm.trans h)
  rw [scan,if_neg (hne ' ' (by decide)),if_neg (hne ';' (by decide)),if_neg (hne '\'' (by decide)),
    if_neg (hne '"' (by decide)),if_pos h]

theorem scan_plain (h : ∀ c ∈ text, isPlain c = true) :
    scan .plain (extend word said literal) (text ++ rest) =
      scan .plain (extend word (said ++ text) literal) rest := by
  induction text generalizing said with
  | nil => simp
  | cons c text ih =>
    obtain ⟨hc,htext⟩ := List.forall_mem_cons.mp h
    rw [List.cons_append,scan_plain_char hc,extend_extend,Bool.and_true,ih htext]
    simp

theorem scan_single_char (hc : c ≠ '\'') :
    scan .single word (c :: rest) = scan .single (extend word [c] true) rest := by
  rw [scan,if_neg hc]

-- The quotation is closed, the quote stands between double quotes, and the quotation goes on.
theorem scan_single_quote (word : Pending) (rest : List Char) :
    scan .single word ("'\"'\"'".toList ++ rest) =
      scan .single (extend (extend (extend word [] true) ['\''] true) [] true) rest := rfl

theorem scan_single (text : List Char) :
    scan .single (extend word said literal) (text.flatMap quoteChar ++ '\'' :: rest) =
      scan .plain (extend word (said ++ text) literal) rest := by
  induction text generalizing said with
  | nil =>
    rw [List.append_nil]
    rfl
  | cons c text ih =>
    rw [List.flatMap_cons,quoteChar,List.append_assoc]
    split
    · next hc =>
      rw [scan_single_quote]
      simp only [extend_extend,Bool.and_true,List.append_nil]
      rw [ih,hc]
      simp
    · next hc =>
      rw [List.singleton_append,scan_single_char hc,extend_extend,Bool.and_true,ih]
      simp

theorem scan_quote (word : Pending) (text rest : List Char) :
    scan .plain word (quote text ++ rest) = scan .plain (extend word text true) rest := by
  rw [quote]
  split
  · next h =>
    subst h
    exact congrArg (fun w => scan .plain w rest) rfl
  split
  · next hne hplain =>
    obtain ⟨c,text,rfl⟩ := List.exists_cons_of_ne_nil hne
    obtain ⟨hc,htext⟩ := List.forall_mem_cons.mp (List.all_eq_true.mp hplain)
    rw [List.cons_append,scan_plain_char hc,scan_plain htext]
    rfl
  · have hopen : scan .plain word ('\'' :: (text.flatMap quoteChar ++ '\'' :: rest)) =
        scan .single (extend word [] true) (text.flatMap quoteChar ++ '\'' :: rest) := rfl
    simp only [List.cons_append,List.append_assoc,List.nil_append]
    rw [hopen,scan_single]
    rfl

end words

section lines

variable {args : List (List Char)}

theorem commandLine_cons (arg : List Char) (hne : args ≠ []) :
    commandLine (arg :: args) = quote arg ++ ' ' :: commandLine args := by
  obtain ⟨arg',args,rfl⟩ := List.exists_cons_of_ne_nil hne
  simp [commandLine,List.intercalate]

theorem commandLine_singleton (arg : List Char) : commandLine [arg] = quote arg := by
  simp [commandLine,List.intercalate]

theorem commandLine_append {args' : List (List Char)} (hne : args ≠ []) (hne' : args' ≠ []) :
    commandLine (args ++ args') = commandLine args ++ ' ' :: commandLine args' := by
  induction args with
  | nil => exact absurd rfl hne
  | cons arg args ih =>
    cases args with
    | nil => rw [List.singleton_append,commandLine_cons arg hne',commandLine_singleton]
    | cons arg' args =>
      rw [List.cons_append,commandLine_cons arg (by simp),ih (by simp),
        commandLine_cons arg (List.cons_ne_nil arg' args)]
      simp

theorem scan_commandLine (args : List (List Char)) (last rest : List Char) :
    scan .plain none (commandLine (args ++ [last]) ++ rest) =
      (scan .plain (some (last,true)) rest).map (literals args ++ ·) := by
  induction args with
  | nil =>
    rw [List.nil_append,commandLine_singleton,scan_quote]
    simp [extend,literals]
  | cons arg args ih =>
    rw [List.cons_append,commandLine_cons arg (by simp),List.append_assoc,scan_quote,List.cons_append,
      scan_blank,ih]
    simp [Function.comp_def,flush,extend,literals]

theorem read_commandLine (args : List (List Char)) : scan .plain none (commandLine args) = some (literals args) := by
  rcases List.eq_nil_or_concat args with rfl | ⟨args,last,rfl⟩
  · rfl
  · rw [List.concat_eq_append]
    have h := scan_commandLine args last []
    rw [List.append_nil] at h
    rw [h]
    simp [scan,flush,literals]

theorem scan_commandLine_semicolon (hne : args ≠ []) (rest : List Char) :
    scan .plain none (commandLine args ++ ';' :: rest) =
      (scan .plain none rest).map fun later => literals args ++ .semicolon :: later := by
  rcases List.eq_nil_or_concat args with rfl | ⟨args,last,rfl⟩
  · exact absurd rfl hne
  · rw [List.concat_eq_append,scan_commandLine,scan_semicolon]
    simp [Function.comp_def,flush,literals]

end lines

end ShellWords
