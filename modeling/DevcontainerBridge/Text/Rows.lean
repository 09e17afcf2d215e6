import Mathlib.Data.List.Basic

/-! Reading tables of text: lines, words and unsigned numerals, as Rust's
standard library reads them. -/
namespace Text

/-- Rust's `split_inclusive` at newlines. -/
def splitInclusive : List Char → List (List Char)
  | [] => []
  | c :: rest =>
      if c = '\n' then
        ['\n'] :: splitInclusive rest
      else
        match splitInclusive rest with
        | [] => [[c]]
        | line :: lines => (c :: line) :: lines

/-- A line without its newline and a carriage return before it. -/
def lineContent (line : List Char) : List Char :=
  match line.reverse with
  | '\n' :: '\r' :: content => content.reverse
  | '\n' :: content => content.reverse
  | _ => line

/-- Rust's `str::lines`. -/
def lines (text : List Char) : List (List Char) :=
  (splitInclusive text).map lineContent

/-- Rust's `str::split_whitespace`, for a notion of white space. -/
def words (isSpace : Char → Bool) (text : List Char) : List (List Char) :=
  (text.splitOnP isSpace).filter (· ≠ [])

/-- Rust's `str::rsplit_once` at a character. -/
def rsplitOnce (separator : Char) : List Char → Option (List Char × List Char)
  | [] => none
  | c :: rest =>
      match rsplitOnce separator rest with
      | some (before, after) => some (c :: before, after)
      | none => if c = separator then some ([], rest) else none

/-- Rust's `str::strip_prefix`. -/
def stripPrefix (start text : List Char) : Option (List Char) :=
  if start.isPrefixOf text then some (text.drop start.length) else none

/-- Rust's `str::trim`, for a notion of white space. -/
def trim (isSpace : Char → Bool) (text : List Char) : List Char :=
  ((text.dropWhile isSpace).reverse.dropWhile isSpace).reverse

/-- Rust's `char::to_digit`. -/
def toDigit (radix : Nat) (c : Char) : Option Nat :=
  let value :=
    if c.isDigit then c.toNat - '0'.toNat
    else if c.isLower then c.toNat - 'a'.toNat + 10
    else if c.isUpper then c.toNat - 'A'.toNat + 10
    else radix
  if value < radix then some value else none

/-- Rust's `from_str_radix` for unsigned numbers below a bound. -/
def parseUnsigned (radix bound : Nat) (text : List Char) : Option Nat :=
  let digits :=
    match text with
    | '+' :: rest => rest
    | _ => text
  match digits.mapM (toDigit radix) with
  | none | some [] => none
  | some values =>
      let value := values.foldl (fun acc digit => acc * radix + digit) 0
      if value < bound then some value else none

variable {text before after row : List Char}

theorem splitInclusive_ne_nil (h : text ≠ []) : splitInclusive text ≠ [] := by
  cases text with
  | nil => exact absurd rfl h
  | cons c rest =>
      rw [splitInclusive]
      split_ifs
      · exact List.cons_ne_nil _ _
      · cases splitInclusive rest <;> exact List.cons_ne_nil _ _

/-- A newline ends the pieces before it. -/
theorem splitInclusive_append (before after : List Char) :
    splitInclusive (before ++ '\n' :: after) = splitInclusive (before ++ ['\n']) ++ splitInclusive after := by
  induction before with
  | nil => rfl
  | cons c before ih =>
      have hPieces : splitInclusive (before ++ ['\n']) ≠ [] := splitInclusive_ne_nil (by simp)
      rw [List.cons_append, List.cons_append, splitInclusive, splitInclusive, ih]
      by_cases hNewline : c = '\n'
      · rw [if_pos hNewline, if_pos hNewline, List.cons_append]
      · rw [if_neg hNewline, if_neg hNewline]
        cases hFirst : splitInclusive (before ++ ['\n']) with
        | nil => exact absurd hFirst hPieces
        | cons line lines => rfl

theorem splitInclusive_of_not_mem (h : '\n' ∉ row) (hRow : row ≠ []) : splitInclusive row = [row] := by
  induction row with
  | nil => exact absurd rfl hRow
  | cons c row ih =>
      rw [List.mem_cons, not_or] at h
      rw [splitInclusive, if_neg (Ne.symm h.1)]
      cases row with
      | nil => rfl
      | cons d row => rw [ih h.2 (List.cons_ne_nil d row)]

theorem splitInclusive_terminated (h : '\n' ∉ row) : splitInclusive (row ++ ['\n']) = [row ++ ['\n']] := by
  induction row with
  | nil => rfl
  | cons c row ih =>
      rw [List.mem_cons, not_or] at h
      rw [List.cons_append, splitInclusive, if_neg (Ne.symm h.1), ih h.2]

/-- A newline separates the lines before it from those behind it. -/
theorem lines_append (before after : List Char) :
    lines (before ++ '\n' :: after) = lines (before ++ ['\n']) ++ lines after := by
  rw [lines, splitInclusive_append, List.map_append, lines, lines]

theorem lines_ne_nil (before : List Char) : lines (before ++ ['\n']) ≠ [] := by
  intro hNone
  exact splitInclusive_ne_nil (by simp) (List.map_eq_nil_iff.mp hNone)

/-- A row in the middle of a text is a line of its own. -/
theorem lines_row (h : '\n' ∉ row) (after : List Char) :
    lines (row ++ '\n' :: after) = lineContent (row ++ ['\n']) :: lines after := by
  rw [lines_append, lines, splitInclusive_terminated h]
  rfl

/-- A row at the end of a text is a line of its own. -/
theorem lines_last (h : '\n' ∉ row) (hRow : row ≠ []) : lines row = [lineContent row] := by
  rw [lines, splitInclusive_of_not_mem h hRow]
  rfl

theorem rsplitOnce_eq_none_iff {separator : Char} : rsplitOnce separator text = none ↔ separator ∉ text := by
  induction text with
  | nil => exact iff_of_true rfl List.not_mem_nil
  | cons c text ih =>
      rw [rsplitOnce, List.mem_cons, not_or, ← ih]
      cases rsplitOnce separator text with
      | none => simp [eq_comm]
      | some parts => simp

theorem rsplitOnce_append {separator : Char} (h : separator ∉ after) (before : List Char) :
    rsplitOnce separator (before ++ separator :: after) = some (before, after) := by
  induction before with
  | nil =>
      rw [List.nil_append, rsplitOnce, rsplitOnce_eq_none_iff.mpr h]
      exact if_pos rfl
  | cons c before ih => rw [List.cons_append, rsplitOnce, ih]

/-- The split is at the last occurrence. -/
theorem rsplitOnce_eq_some_iff {separator : Char} :
    rsplitOnce separator text = some (before, after) ↔ text = before ++ separator :: after ∧ separator ∉ after := by
  constructor
  · intro h
    induction text generalizing before with
    | nil => cases h
    | cons c text ih =>
        rw [rsplitOnce] at h
        cases hRest : rsplitOnce separator text with
        | some parts =>
            rw [hRest] at h
            cases h
            obtain ⟨rfl, hAfter⟩ := ih hRest
            exact ⟨rfl, hAfter⟩
        | none =>
            rw [hRest] at h
            dsimp only at h
            split_ifs at h with hSame
            cases h
            exact ⟨by rw [hSame, List.nil_append], rsplitOnce_eq_none_iff.mp hRest⟩
  · rintro ⟨rfl, h⟩
    exact rsplitOnce_append h before

theorem parseUnsigned_lt {radix bound value : Nat} (h : parseUnsigned radix bound text = some value) :
    value < bound := by
  unfold parseUnsigned at h
  dsimp only at h
  split at h
  case h_1 => cases h
  case h_2 => cases h
  case h_3 =>
    split_ifs at h with hBound
    cases h
    exact hBound

theorem dropWhile_of_none {isSpace : Char → Bool} (h : ∀ c ∈ text, isSpace c = false) :
    text.dropWhile isSpace = text := by
  cases text with
  | nil => rfl
  | cons c text => rw [List.dropWhile_cons_of_neg (by simp [h c List.mem_cons_self])]

/-- A text without white space is trimmed already. -/
theorem trim_of_none {isSpace : Char → Bool} (h : ∀ c ∈ text, isSpace c = false) : trim isSpace text = text := by
  rw [trim, dropWhile_of_none h, dropWhile_of_none fun c hMember => h c (List.mem_reverse.mp hMember),
    List.reverse_reverse]

/-- Trimming takes the white space at the end of a text that has none otherwise. -/
theorem trim_terminated {isSpace : Char → Bool} {last : Char} (hText : ∀ c ∈ text, isSpace c = false)
    (hLast : isSpace last = true) : trim isSpace (text ++ [last]) = text := by
  have hReverse : ∀ c ∈ text.reverse, isSpace c = false := fun c hMember => hText c (List.mem_reverse.mp hMember)
  cases text with
  | nil => simp [trim, hLast]
  | cons c text =>
      unfold trim
      rw [List.cons_append, List.dropWhile_cons_of_neg (by simp [hText c List.mem_cons_self]), ← List.cons_append,
        List.reverse_append, List.reverse_singleton, List.singleton_append, List.dropWhile_cons_of_pos hLast,
        dropWhile_of_none hReverse, List.reverse_reverse]

end Text
