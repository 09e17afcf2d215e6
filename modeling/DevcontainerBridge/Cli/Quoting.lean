import DevcontainerBridge.Shell.Words
import DevcontainerBridge.Stream.Utf8

/-! The paths of pasted images as they are typed into a terminal. The shell
that reads them is not part of the program. -/
namespace DevcontainerBridge

open Shell Stream

/-- The errors that saving and quoting can end with. -/
inductive SaveError where
  | io
  | invalidPath (reason : String)
  | invalidResponse (reason : String)
  deriving DecidableEq, Repr

/-- Rust's `char::is_control`. -/
def isControl (c : Char) : Bool :=
  c.toNat < 0x20 || 0x7F ≤ c.toNat && c.toNat < 0xA0

/-- Rust's `str::replace` of one character. -/
def replaceChar (c : Char) (replacement text : List Char) : List Char :=
  text.flatMap fun other => if other = c then replacement else [other]

/-- Quote a path for the shell. -/
def quotePath (path : List UInt8) : Except SaveError (List Char) :=
  match fromUtf8 path with
  | none => .error (.invalidPath "path is not UTF-8")
  | some text =>
      if text.toList.any isControl then
        .error (.invalidPath "path contains control characters")
      else
        .ok ('\'' :: (replaceChar '\'' ['\'', '\\', '\'', '\''] text.toList ++ ['\'']))

/-- What `paste` types: every path, quoted, with a space behind it. -/
def quotePaths : List (List UInt8) → Except SaveError (List Char)
  | [] => .ok []
  | path :: paths =>
      match quotePath path with
      | .error e => .error e
      | .ok quoted =>
          match quotePaths paths with
          | .error e => .error e
          | .ok more => .ok (quoted ++ ' ' :: more)

theorem quotePath_utf8 {text : String} (h : ∀ c ∈ text.toList, isControl c = false) :
    quotePath (utf8 text) = .ok (quote text.toList) := by
  have hNone : text.toList.any isControl = false := by simpa using h
  unfold quotePath
  rw [fromUtf8_utf8]
  dsimp only
  rw [if_neg (by simp [hNone])]
  rfl

theorem quotePaths_utf8 {texts : List String} (h : ∀ text ∈ texts, ∀ c ∈ text.toList, isControl c = false) :
    quotePaths (texts.map utf8) = .ok ((texts.map String.toList).flatMap fun text => quote text ++ [' ']) := by
  induction texts with
  | nil => rfl
  | cons text texts ih =>
      have hTail := ih fun other hOther => h other (List.mem_cons_of_mem text hOther)
      rw [List.map_cons, quotePaths, quotePath_utf8 (h text List.mem_cons_self), hTail, List.map_cons,
        List.flatMap_cons, List.append_assoc]
      rfl

/-- What is typed is split by the shell into the paths, no letter of which is
left to it, and no newline submits the line. -/
theorem quotePaths_splitWords (paths : List String) (h : ∀ path ∈ paths, ∀ c ∈ path.toList, isControl c = false) :
    ∃ typed, quotePaths (paths.map utf8) = .ok typed ∧
      splitWords typed = some (paths.map fun path => literal path.toList) ∧ '\n' ∉ typed := by
  refine ⟨_, quotePaths_utf8 h, ?_, ?_⟩
  · rw [splitWords_quotes, List.map_map]
    rfl
  · intro hNewline
    simp only [List.mem_flatMap, List.mem_map, List.mem_append, List.mem_singleton] at hNewline
    obtain ⟨-, ⟨path, hPath, rfl⟩, hQuoted | hBlank⟩ := hNewline
    · rcases mem_quote hQuoted with hText | hQuote | hBackslash
      · exact absurd (h path hPath _ hText) (by decide)
      · cases hQuote
      · cases hBackslash
    · cases hBlank

/-- A path with a quote and a command in it is typed as it is, and so is one
with a blank and a variable behind it. -/
theorem quotePaths_commands :
    ∃ typed, quotePaths [utf8 "/tmp/a'b $(cmd).png", utf8 "/tmp/c $HOME.png"] = .ok typed ∧
      splitWords typed = some [literal "/tmp/a'b $(cmd).png".toList, literal "/tmp/c $HOME.png".toList] ∧
      '\n' ∉ typed := by
  have hControl : ∀ path ∈ ["/tmp/a'b $(cmd).png", "/tmp/c $HOME.png"], path.toList.any isControl = false := by
    decide
  refine quotePaths_splitWords ["/tmp/a'b $(cmd).png", "/tmp/c $HOME.png"] fun path hPath c hChar => ?_
  simpa using List.any_eq_false.mp (hControl path hPath) c hChar

end DevcontainerBridge
