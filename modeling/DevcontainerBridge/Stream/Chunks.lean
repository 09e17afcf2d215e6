import Mathlib.Data.List.Basic

/-! A stream that arrives in pieces. A reader that looks for a separator takes
from the first piece only, and hands back what follows the separator. -/
namespace Stream

variable {Item : Type*}

/-- What one call to a buffered reader returns before the end of the stream. -/
abbrev Chunk (Item : Type*) := { piece : List Item // piece ≠ [] }

/-- All items that are still to come. -/
def contents (chunks : List (Chunk Item)) : List Item :=
  chunks.flatMap Subtype.val

/-- Put items that were not consumed in front again. -/
def pushBack (leftover : List Item) (chunks : List (Chunk Item)) : List (Chunk Item) :=
  if h : leftover = [] then chunks else ⟨leftover, h⟩ :: chunks

/-- Everything in one piece. -/
def contiguous (items : List Item) : List (Chunk Item) :=
  pushBack items []

/-- One item at a time. -/
def itemwise (items : List Item) : List (Chunk Item) :=
  items.map fun item => ⟨[item], List.cons_ne_nil item []⟩

/-- Take exactly `count` items, where the stream still has that many. -/
def takeExact : Nat → List (Chunk Item) → Option (List Item × List (Chunk Item))
  | 0, chunks => some ([], chunks)
  | _ + 1, [] => none
  | count + 1, chunk :: chunks =>
      if count + 1 ≤ chunk.val.length then
        some (chunk.val.take (count + 1), pushBack (chunk.val.drop (count + 1)) chunks)
      else
        (takeExact (count + 1 - chunk.val.length) chunks).map fun (items, later) =>
          (chunk.val ++ items, later)

@[simp] theorem contents_nil : contents ([] : List (Chunk Item)) = [] := rfl

@[simp] theorem contents_cons (chunk : Chunk Item) (chunks : List (Chunk Item)) :
    contents (chunk :: chunks) = chunk.val ++ contents chunks := rfl

@[simp] theorem contents_pushBack (leftover : List Item) (chunks : List (Chunk Item)) :
    contents (pushBack leftover chunks) = leftover ++ contents chunks := by
  unfold pushBack
  split_ifs with h
  · simp [h]
  · rfl

@[simp] theorem contents_contiguous (items : List Item) : contents (contiguous items) = items := by
  simp [contiguous]

@[simp] theorem contents_itemwise (items : List Item) : contents (itemwise items) = items := by
  induction items with
  | nil => rfl
  | cons item items ih => exact congrArg (item :: ·) ih

theorem contiguous_of_ne_nil {items : List Item} (h : items ≠ []) : contiguous items = [⟨items, h⟩] :=
  dif_neg h

/-- However the stream is cut, the items in front are taken. -/
theorem takeExact_append {front rest : List Item} {chunks : List (Chunk Item)}
    (h : contents chunks = front ++ rest) :
    ∃ later, takeExact front.length chunks = some (front, later) ∧ contents later = rest := by
  induction chunks generalizing front with
  | nil =>
      obtain ⟨rfl, rfl⟩ := List.append_eq_nil_iff.mp h.symm
      exact ⟨[], rfl, rfl⟩
  | cons chunk chunks ih =>
      cases hLength : front.length with
      | zero =>
          rw [List.eq_nil_of_length_eq_zero hLength] at h ⊢
          exact ⟨chunk :: chunks, rfl, h⟩
      | succ count =>
          rw [contents_cons] at h
          unfold takeExact
          rcases List.append_eq_append_iff.mp h with ⟨more, rfl, hMore⟩ | ⟨tail, hChunk, hTail⟩
          · rw [List.length_append] at hLength
            obtain ⟨later, hTake, hLater⟩ := ih hMore
            split_ifs with hFits
            · -- the piece ends where the wanted items end
              have hEmpty : more = [] := List.eq_nil_of_length_eq_zero (by omega)
              subst hEmpty
              refine ⟨pushBack (chunk.val.drop (count + 1)) chunks, ?_, ?_⟩
              · rw [List.take_of_length_le (by omega), List.append_nil]
              · rw [contents_pushBack, List.drop_of_length_le (by omega)]
                exact hMore
            · have hRest : count + 1 - chunk.val.length = more.length := by omega
              rw [hRest, hTake]
              exact ⟨later, rfl, hLater⟩
          · have hFits : count + 1 ≤ chunk.val.length := by
              rw [hChunk, List.length_append]
              omega
            rw [if_pos hFits, hChunk, List.take_left' hLength, List.drop_left' hLength]
            refine ⟨pushBack tail chunks, rfl, ?_⟩
            rw [contents_pushBack, hTail]

/-- What is taken is the front of the stream. -/
theorem takeExact_some {count : Nat} {items : List Item} {chunks later : List (Chunk Item)}
    (h : takeExact count chunks = some (items, later)) :
    items.length = count ∧ contents chunks = items ++ contents later := by
  induction chunks generalizing count items with
  | nil =>
      cases count with
      | zero =>
          cases h
          exact ⟨rfl, rfl⟩
      | succ count => cases h
  | cons chunk chunks ih =>
      cases count with
      | zero =>
          cases h
          exact ⟨rfl, rfl⟩
      | succ count =>
          unfold takeExact at h
          split_ifs at h with hFits
          · cases h
            refine ⟨List.length_take_of_le hFits, ?_⟩
            rw [contents_pushBack, contents_cons, ← List.append_assoc, List.take_append_drop]
          · obtain ⟨⟨more, rest⟩, hMore, hPair⟩ := Option.map_eq_some_iff.mp h
            cases hPair
            obtain ⟨hLength, hContents⟩ := ih hMore
            constructor
            · rw [List.length_append]
              omega
            · rw [contents_cons, hContents, List.append_assoc]

variable [DecidableEq Item] {separator : Item}

/-- The position of the first separator cuts a piece behind it. -/
theorem idxOf?_append_cons {line rest : List Item} (h : separator ∉ line) :
    (line ++ separator :: rest).idxOf? separator = some line.length := by
  induction line with
  | nil => simp [List.idxOf?_cons]
  | cons item line ih =>
      have hHead : item ≠ separator := fun hEq => h (hEq ▸ List.mem_cons_self)
      have hTail : separator ∉ line := fun hMember => h (List.mem_cons_of_mem item hMember)
      simp [List.idxOf?_cons, hHead, ih hTail]

/-- A stream is a last line without separator or a line, a separator and a rest. -/
theorem eq_line_or_append (separator : Item) (items : List Item) :
    separator ∉ items ∨ ∃ line rest, separator ∉ line ∧ items = line ++ separator :: rest := by
  by_cases h : separator ∈ items
  · obtain ⟨line, rest, hItems, hLine⟩ := List.eq_append_cons_of_mem h
    exact .inr ⟨line, rest, hLine, hItems⟩
  · exact .inl h

theorem idxOf?_eq_none {piece : List Item} (h : separator ∉ piece) : piece.idxOf? separator = none := by
  rw [List.idxOf?_eq_none_iff]
  exact h

omit [DecidableEq Item] in
/-- The first piece of a stream ends within the first line or contains its end. -/
theorem piece_of_line {piece later line rest : List Item} (hLine : separator ∉ line)
    (h : piece ++ later = line ++ separator :: rest) :
    (separator ∉ piece ∧ ∃ line', line = piece ++ line' ∧ later = line' ++ separator :: rest) ∨
      ∃ after, piece = line ++ separator :: after ∧ rest = after ++ later := by
  rcases List.append_eq_append_iff.mp h with ⟨line', hWhole, hLater⟩ | ⟨tail, hPiece, hTail⟩
  · refine .inl ⟨fun hMember => ?_, line', hWhole, hLater⟩
    exact hLine (hWhole ▸ List.mem_append_left line' hMember)
  · cases tail with
    | nil =>
        rw [List.append_nil] at hPiece
        refine .inl ⟨hPiece ▸ hLine, [], ?_, ?_⟩
        · rw [hPiece, List.append_nil]
        · exact hTail.symm
    | cons item after =>
        rw [List.cons_append] at hTail
        obtain ⟨rfl, hRest⟩ := List.cons.inj hTail
        exact .inr ⟨after, hPiece, hRest⟩

end Stream
