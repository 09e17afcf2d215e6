import Mathlib.Data.List.Basic

/-! Codes whose words are found again in what is written behind each other. A
word may need a letter behind it that shows where it ends, as a number does. -/
namespace Text

section Codes

variable {Letter Value Other : Type*}

/-- What follows a word is nothing, or begins with a letter that ends words. -/
def Stops (stop : Letter → Prop) (rest : List Letter) : Prop :=
  ∀ letter ∈ rest.head?, stop letter

/-- The word of a value is told from every other word, whatever follows. -/
def Apart (stop : Letter → Prop) (code : Value → List Letter) (value : Value) : Prop :=
  ∀ other rest more, Stops stop rest → Stops stop more → code value ++ rest = code other ++ more →
    value = other ∧ rest = more

def Unambiguous (stop : Letter → Prop) (code : Value → List Letter) : Prop :=
  ∀ value, Apart stop code value

/-- Every letter ends a word. -/
abbrev anyLetter : Letter → Prop := fun _ => True

variable {stop : Letter → Prop} {code : Value → List Letter} {value : Value} {letter : Letter}

theorem stops_nil : Stops stop [] := nofun

theorem stops_cons {rest : List Letter} (h : stop letter) : Stops stop (letter :: rest) := by
  intro first hFirst
  obtain rfl : letter = first := Option.some.inj hFirst
  exact h

theorem stops_any (rest : List Letter) : Stops anyLetter rest := fun _ _ => trivial

theorem Unambiguous.injective (h : Unambiguous stop code) : Function.Injective code := by
  intro value other hSame
  exact (h value other [] [] stops_nil stops_nil (congrArg (· ++ []) hSame)).1

/-- A code that is read back is unambiguous. -/
theorem unambiguous_of_decode (decode : List Letter → Option (Value × List Letter))
    (h : ∀ value rest, Stops stop rest → decode (code value ++ rest) = some (value, rest)) :
    Unambiguous stop code := by
  intro value other rest more hRest hMore hSame
  have hRead := h value rest hRest
  rw [hSame, h other more hMore] at hRead
  obtain ⟨rfl, rfl⟩ := Prod.mk.inj (Option.some.inj hRead)
  exact ⟨rfl, rfl⟩

theorem takeWhile_append_stops [DecidablePred stop] {word rest : List Letter} (hWord : ∀ letter ∈ word, ¬stop letter)
    (hRest : Stops stop rest) : (word ++ rest).takeWhile (fun letter => !decide (stop letter)) = word := by
  induction word with
  | nil =>
      cases rest with
      | nil => rfl
      | cons letter rest => simp [hRest letter rfl]
  | cons letter word ih =>
      simp [hWord letter List.mem_cons_self, ih fun other hOther => hWord other (List.mem_cons_of_mem letter hOther)]

/-- Words without a letter that ends words are told apart by them. -/
theorem unambiguous_of_free [DecidablePred stop] (hInjective : Function.Injective code)
    (hFree : ∀ value, ∀ letter ∈ code value, ¬stop letter) : Unambiguous stop code := by
  intro value other rest more hRest hMore hSame
  have hWord := congrArg (List.takeWhile fun letter => !decide (stop letter)) hSame
  rw [takeWhile_append_stops (hFree value) hRest, takeWhile_append_stops (hFree other) hMore] at hWord
  rw [hWord] at hSame
  exact ⟨hInjective hWord, List.append_cancel_left hSame⟩

theorem Apart.behind (front : List Letter) (h : Apart stop code value) :
    Apart stop (fun value => front ++ code value) value := by
  intro other rest more hRest hMore hSame
  dsimp only at hSame
  rw [List.append_assoc, List.append_assoc] at hSame
  exact h other rest more hRest hMore (List.append_cancel_left hSame)

end Codes

section Lists

variable {Letter Value : Type*} {stop : Letter → Prop} {code : Value → List Letter} {values : List Value}

/-- Words in a row, where none needs anything between them, up to a letter
that begins no word. -/
theorem apart_flatMap (values : List Value) {close : Letter} (h : ∀ value ∈ values, Apart anyLetter code value)
    (hBegins : ∀ value, ∃ first rest, code value = first :: rest ∧ first ≠ close) :
    Apart anyLetter (fun values => values.flatMap code ++ [close]) values := by
  induction values with
  | nil =>
      intro others rest more _ _ hSame
      cases others with
      | nil => exact ⟨rfl, (List.cons.inj hSame).2⟩
      | cons other others =>
          obtain ⟨first, word, hWord, hFirst⟩ := hBegins other
          simp only [List.flatMap_cons, hWord, List.cons_append] at hSame
          exact absurd (List.cons.inj hSame).1.symm hFirst
  | cons value values ih =>
      intro others rest more hRest hMore hSame
      cases others with
      | nil =>
          obtain ⟨first, word, hWord, hFirst⟩ := hBegins value
          simp only [List.flatMap_cons, hWord, List.cons_append] at hSame
          exact absurd (List.cons.inj hSame).1 hFirst
      | cons other others =>
          simp only [List.flatMap_cons, List.append_assoc] at hSame
          obtain ⟨rfl, hOthers⟩ := h value List.mem_cons_self other _ _ (stops_any _) (stops_any _) hSame
          have hTail := ih fun next hNext => h next (List.mem_cons_of_mem value hNext)
          obtain ⟨rfl, rfl⟩ := hTail others rest more hRest hMore (by simpa only [List.append_assoc] using hOthers)
          exact ⟨rfl, rfl⟩

section Separated

variable {separator close : Letter} (hSeparator : stop separator) (hClose : stop close)

theorem intercalate_cons (separator : Letter) (word : List Letter) (words : List (List Letter)) :
    [separator].intercalate (word :: words) = word ++ words.flatMap (separator :: ·) := by
  induction words generalizing word with
  | nil => simp
  | cons next words ih =>
      rw [List.intercalate_cons_cons, ih, List.flatMap_cons, List.append_assoc, List.singleton_append,
        List.cons_append]

include hSeparator hClose

theorem stops_separated (words : List (List Letter)) (rest : List Letter) :
    Stops stop (words.flatMap (separator :: ·) ++ close :: rest) := by
  cases words with
  | nil => exact stops_cons hClose
  | cons word words => exact stops_cons hSeparator

/-- Words with a separator before each, up to a closing letter. -/
theorem apart_preceded (hDistinct : separator ≠ close) (h : ∀ value ∈ values, Apart stop code value)
    {others : List Value} {rest more : List Letter}
    (hSame : (values.map code).flatMap (separator :: ·) ++ close :: rest =
      (others.map code).flatMap (separator :: ·) ++ close :: more) : values = others ∧ rest = more := by
  induction values generalizing others with
  | nil =>
      cases others with
      | nil => exact ⟨rfl, (List.cons.inj hSame).2⟩
      | cons other others => exact absurd (List.cons.inj hSame).1.symm hDistinct
  | cons value values ih =>
      cases others with
      | nil => exact absurd (List.cons.inj hSame).1 hDistinct
      | cons other others =>
          simp only [List.map_cons, List.flatMap_cons, List.append_assoc, List.cons_append] at hSame
          obtain ⟨rfl, hOthers⟩ := h value List.mem_cons_self other _ _ (stops_separated hSeparator hClose _ _)
            (stops_separated hSeparator hClose _ _) (List.cons.inj hSame).2
          obtain ⟨rfl, rfl⟩ := ih (fun next hNext => h next (List.mem_cons_of_mem value hNext)) hOthers
          exact ⟨rfl, rfl⟩

/-- Words with a separator between them, up to a closing letter that begins
no word. -/
theorem apart_separated (hDistinct : separator ≠ close) (h : ∀ value ∈ values, Apart stop code value)
    (hBegins : ∀ value, ∃ first rest, code value = first :: rest ∧ first ≠ close) :
    Apart anyLetter (fun values => [separator].intercalate (values.map code) ++ [close]) values := by
  intro others rest more _ _ hSame
  simp only [List.append_assoc, List.singleton_append] at hSame
  cases values with
  | nil =>
      cases others with
      | nil => exact ⟨rfl, (List.cons.inj hSame).2⟩
      | cons other others =>
          obtain ⟨first, word, hWord, hFirst⟩ := hBegins other
          rw [List.map_cons, intercalate_cons, hWord] at hSame
          exact absurd (List.cons.inj hSame).1.symm hFirst
  | cons value values =>
      cases others with
      | nil =>
          obtain ⟨first, word, hWord, hFirst⟩ := hBegins value
          rw [List.map_cons, intercalate_cons, hWord] at hSame
          exact absurd (List.cons.inj hSame).1 hFirst
      | cons other others =>
          simp only [List.map_cons, intercalate_cons, List.append_assoc] at hSame
          obtain ⟨rfl, hOthers⟩ := h value List.mem_cons_self other _ _ (stops_separated hSeparator hClose _ _)
            (stops_separated hSeparator hClose _ _) hSame
          obtain ⟨rfl, rfl⟩ := apart_preceded hSeparator hClose hDistinct
            (fun next hNext => h next (List.mem_cons_of_mem value hNext)) hOthers
          exact ⟨rfl, rfl⟩

end Separated

end Lists

end Text
