import Mathlib.Data.List.Basic

/-! Splitting a line into words as a POSIX shell does, as far as single quotes,
the backslash and blanks go. Every letter of a word tells whether it was
quoted: what was not may be expanded or taken for an operator. -/
namespace Shell

/-- A letter of a word and whether it was quoted. -/
abbrev Letter := Char × Bool

inductive Mode where
  | between
  | word (letters : List Letter)
  /-- inside single quotes -/
  | quoted (letters : List Letter)
  /-- behind a backslash, in a word or between two -/
  | escaped (letters : Option (List Letter))
  deriving DecidableEq, Repr

structure State where
  words : List (List Letter)
  mode : Mode
  deriving DecidableEq, Repr

def isBlank (c : Char) : Bool :=
  c == ' ' || c == '\t'

/-- A character outside quotes that is no blank. -/
def unquoted (letters : Option (List Letter)) (c : Char) : Mode :=
  if c = '\'' then .quoted (letters.getD [])
  else if c = '\\' then .escaped letters
  else .word (letters.getD [] ++ [(c, false)])

def step (s : State) (c : Char) : State :=
  match s.mode with
  | .between => if isBlank c then s else { s with mode := unquoted none c }
  | .word letters =>
      if isBlank c then { words := s.words ++ [letters], mode := .between }
      else { s with mode := unquoted (some letters) c }
  | .quoted letters =>
      if c = '\'' then { s with mode := .word letters }
      else { s with mode := .quoted (letters ++ [(c, true)]) }
  | .escaped letters =>
      -- a newline behind a backslash joins two lines
      if c = '\n' then { s with mode := letters.elim .between .word }
      else { s with mode := .word (letters.getD [] ++ [(c, true)]) }

def run (s : State) (text : List Char) : State :=
  text.foldl step s

/-- The words of a line, where no quote is left open. -/
def splitWords (text : List Char) : Option (List (List Letter)) :=
  let s := run { words := [], mode := .between } text
  match s.mode with
  | .between => some s.words
  | .word letters => some (s.words ++ [letters])
  | .quoted _ | .escaped _ => none

/-- A character between single quotes. A quote is put outside of them. -/
def escapeQuote (c : Char) : List Char :=
  if c = '\'' then ['\'', '\\', '\'', '\''] else [c]

/-- A text between single quotes. -/
def quote (text : List Char) : List Char :=
  '\'' :: (text.flatMap escapeQuote ++ ['\''])

/-- A word of which nothing is left to the shell. -/
def literal (text : List Char) : List Letter :=
  text.map fun c => (c, true)

theorem run_append (s : State) (first second : List Char) : run s (first ++ second) = run (run s first) second :=
  List.foldl_append

theorem run_escapeQuote (words : List (List Letter)) (letters : List Letter) (c : Char) :
    run { words, mode := .quoted letters } (escapeQuote c) =
      { words, mode := .quoted (letters ++ [(c, true)]) } := by
  by_cases hQuote : c = '\''
  · subst hQuote
    rfl
  · rw [escapeQuote, if_neg hQuote]
    exact if_neg hQuote

/-- Inside quotes every character of the text is taken literally. -/
theorem run_quoted (words : List (List Letter)) (letters : List Letter) (text : List Char) :
    run { words, mode := .quoted letters } (text.flatMap escapeQuote) =
      { words, mode := .quoted (letters ++ literal text) } := by
  induction text generalizing letters with
  | nil =>
      rw [literal, List.map_nil, List.append_nil]
      rfl
  | cons c text ih =>
      rw [List.flatMap_cons, run_append, run_escapeQuote, ih, List.append_assoc]
      rfl

/-- A quoted text and a blank are one word. -/
theorem run_quote (words : List (List Letter)) (text : List Char) :
    run { words, mode := .between } (quote text ++ [' ']) =
      { words := words ++ [literal text], mode := .between } := by
  have hOpen : run { words, mode := .between } ['\''] = { words, mode := .quoted [] } := rfl
  have hClose : run { words, mode := .quoted (literal text) } ['\'', ' '] =
      { words := words ++ [literal text], mode := .between } := rfl
  have hText : quote text ++ [' '] = ['\''] ++ (text.flatMap escapeQuote ++ ['\'', ' ']) := by
    rw [quote, List.cons_append, List.append_assoc]
    rfl
  rw [hText, run_append, hOpen, run_append, run_quoted, List.nil_append, hClose]

theorem run_quotes (words : List (List Letter)) (texts : List (List Char)) :
    run { words, mode := .between } (texts.flatMap fun text => quote text ++ [' ']) =
      { words := words ++ texts.map literal, mode := .between } := by
  induction texts generalizing words with
  | nil =>
      rw [List.map_nil, List.append_nil]
      rfl
  | cons text texts ih => rw [List.flatMap_cons, run_append, run_quote, ih, List.map_cons, List.append_assoc,
      List.singleton_append]

/-- Quoted texts, each followed by a blank, are split into themselves. -/
theorem splitWords_quotes (texts : List (List Char)) :
    splitWords (texts.flatMap fun text => quote text ++ [' ']) = some (texts.map literal) := by
  rw [splitWords, run_quotes]
  rfl

/-- Quoting writes nothing but the text, quotes and backslashes. -/
theorem mem_quote {c : Char} {text : List Char} (h : c ∈ quote text) : c ∈ text ∨ c = '\'' ∨ c = '\\' := by
  simp only [quote, List.mem_cons, List.mem_append, List.mem_flatMap, List.not_mem_nil, or_false] at h
  rcases h with hOpen | ⟨other, hOther, hChar⟩ | hClose
  · exact .inr (.inl hOpen)
  · unfold escapeQuote at hChar
    split_ifs at hChar with hQuote
    · simp only [List.mem_cons, List.not_mem_nil, or_false] at hChar
      tauto
    · rw [List.mem_singleton.mp hChar]
      exact .inl hOther
  · exact .inr (.inl hClose)

end Shell
