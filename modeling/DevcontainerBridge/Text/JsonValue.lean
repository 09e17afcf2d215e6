import DevcontainerBridge.Text.Unambiguous
import Mathlib.Data.Nat.Digits.Defs

/-! JSON values and their compact text. How a character of a string is escaped
is a parameter. -/
namespace Text

/-- A JSON value. Numbers are natural numbers. -/
inductive Json where
  | null
  | bool (b : Bool)
  | number (n : Nat)
  | string (text : String)
  | array (items : List Json)
  | object (fields : List (String × Json))

/-- What holds of a value where it holds of the values in it holds of all. -/
theorem Json.induct {motive : Json → Prop} (null : motive .null) (bool : ∀ b, motive (.bool b))
    (number : ∀ n, motive (.number n)) (string : ∀ text, motive (.string text))
    (array : ∀ items, (∀ item ∈ items, motive item) → motive (.array items))
    (object : ∀ fields, (∀ field ∈ fields, motive field.2) → motive (.object fields)) :
    ∀ json, motive json
  | .null => null
  | .bool b => bool b
  | .number n => number n
  | .string text => string text
  | .array items => array items fun item hItem =>
      have := List.sizeOf_lt_of_mem hItem
      Json.induct null bool number string array object item
  | .object fields => object fields fun field hField =>
      have := List.sizeOf_lt_of_mem hField
      Json.induct null bool number string array object field.2
termination_by json => sizeOf json
decreasing_by
  · simp only [Json.array.sizeOf_spec]
    omega
  · obtain ⟨name, value⟩ := field
    simp only [Json.object.sizeOf_spec, Prod.mk.sizeOf_spec] at *
    omega

/-- How the characters of a string are written, so that they are told apart
and none begins with the quote that ends the string. -/
structure Escaping where
  escape : Char → List Char
  unambiguous : Unambiguous anyLetter escape
  begins : ∀ c, ∃ first rest, escape c = first :: rest ∧ first ≠ '"'

namespace Escaping

variable (e : Escaping)

def quoted (text : String) : List Char := '"' :: (text.toList.flatMap e.escape ++ ['"'])

def field (text : String × List Char) : List Char := e.quoted text.1 ++ ':' :: text.2

def bracketed (items : List (List Char)) : List Char := '[' :: ([','].intercalate items ++ [']'])

def braced (fields : List (String × List Char)) : List Char :=
  '\x7b' :: ([','].intercalate (fields.map e.field) ++ ['\x7d'])

mutual

/-- The compact text of a value. -/
def render : Json → List Char
  | .null => "null".toList
  | .bool b => if b then "true".toList else "false".toList
  | .number n => Nat.toDigits 10 n
  | .string text => e.quoted text
  | .array items => bracketed (renderItems items)
  | .object fields => e.braced (renderFields fields)

def renderItems : List Json → List (List Char)
  | [] => []
  | item :: items => render item :: renderItems items

def renderFields : List (String × Json) → List (String × List Char)
  | [] => []
  | (name, value) :: fields => (name, render value) :: renderFields fields

end

theorem renderItems_eq (items : List Json) : e.renderItems items = items.map e.render := by
  induction items with
  | nil => rfl
  | cons item items ih => rw [renderItems, ih, List.map_cons]

theorem renderFields_eq (fields : List (String × Json)) :
    e.renderFields fields = fields.map fun field => (field.1, e.render field.2) := by
  induction fields with
  | nil => rfl
  | cons field fields ih => rw [renderFields, ih, List.map_cons]

/-- The characters that end a number. -/
def ends (c : Char) : Prop := c = ',' ∨ c = ']' ∨ c = '\x7d'

instance : DecidablePred ends := fun c => inferInstanceAs (Decidable (c = ',' ∨ c = ']' ∨ c = '\x7d'))

theorem ends_comma : ends ',' := .inl rfl

theorem ends_bracket : ends ']' := .inr (.inl rfl)

theorem ends_brace : ends '\x7d' := .inr (.inr rfl)

theorem quoted_apart (text : String) : Apart anyLetter e.quoted text := by
  have hText := (apart_flatMap text.toList (fun c _ => e.unambiguous c) e.begins).behind ['"']
  intro other rest more hRest hMore hSame
  obtain ⟨hList, hRests⟩ := hText other.toList rest more hRest hMore hSame
  exact ⟨String.toList_injective hList, hRests⟩

theorem toDigits_apart (n : Nat) : Apart ends (Nat.toDigits 10) n := by
  refine unambiguous_of_free (fun n m hSame => ?_) (fun n c hMem hEnds => ?_) n
  · rw [← Nat.ofDigitChars_ten_toDigits (n := n), hSame, Nat.ofDigitChars_ten_toDigits]
  · have hDigit := Nat.isDigit_of_mem_toDigits (by decide) (by decide) hMem
    rcases hEnds with rfl | rfl | rfl <;> cases hDigit

/-- The kinds of values, which the first character of their text tells. -/
inductive Kind where
  | word
  | number
  | string
  | array
  | object
  deriving DecidableEq

def kind : Json → Kind
  | .null | .bool _ => .word
  | .number _ => .number
  | .string _ => .string
  | .array _ => .array
  | .object _ => .object

def kindOf (c : Char) : Option Kind :=
  if c = '"' then some .string
  else if c = '[' then some .array
  else if c = '\x7b' then some .object
  else if c.isDigit then some .number
  else if c = 'n' ∨ c = 't' ∨ c = 'f' then some .word
  else none

theorem render_begins (json : Json) :
    ∃ first rest, e.render json = first :: rest ∧ kindOf first = some (kind json) := by
  cases json with
  | null => exact ⟨'n', _, rfl, rfl⟩
  | bool b => cases b with
    | true => exact ⟨'t', _, rfl, rfl⟩
    | false => exact ⟨'f', _, rfl, rfl⟩
  | number n =>
      obtain ⟨first, rest, hDigits⟩ := List.exists_cons_of_ne_nil (Nat.toDigits_ne_nil (n := n) (b := 10))
      have hDigit : first.isDigit = true :=
        Nat.isDigit_of_mem_toDigits (by decide) (by decide) (hDigits ▸ List.mem_cons_self)
      refine ⟨first, rest, hDigits, ?_⟩
      have hOthers : first ≠ '"' ∧ first ≠ '[' ∧ first ≠ '\x7b' := by
        refine ⟨?_, ?_, ?_⟩ <;> rintro rfl <;> cases hDigit
      rw [kindOf, if_neg hOthers.1, if_neg hOthers.2.1, if_neg hOthers.2.2, if_pos hDigit, kind]
  | string text => exact ⟨'"', _, rfl, rfl⟩
  | array items => exact ⟨'[', _, rfl, rfl⟩
  | object fields => exact ⟨'\x7b', _, rfl, rfl⟩

/-- Values of different kinds begin differently. -/
theorem kind_eq_of_append {json other : Json} {rest more : List Char}
    (h : e.render json ++ rest = e.render other ++ more) : kind json = kind other := by
  obtain ⟨first, word, hWord, hKind⟩ := e.render_begins json
  obtain ⟨otherFirst, otherWord, hOther, hOtherKind⟩ := e.render_begins other
  rw [hWord, hOther] at h
  obtain rfl : first = otherFirst := (List.cons.inj h).1
  exact Option.some.inj (hKind.symm.trans hOtherKind)

theorem render_ne_close {close : Char} (hClose : kindOf close = none) (json : Json) :
    ∃ first rest, e.render json = first :: rest ∧ first ≠ close := by
  obtain ⟨first, rest, hWord, hKind⟩ := e.render_begins json
  refine ⟨first, rest, hWord, ?_⟩
  rintro rfl
  rw [hClose] at hKind
  cases hKind

/-- A field is told apart where its value is. -/
theorem field_apart {field : String × Json} (h : Apart ends e.render field.2) :
    Apart ends (fun field : String × Json => e.field (field.1, e.render field.2)) field := by
  intro other rest more hRest hMore hSame
  simp only [Escaping.field, List.append_assoc] at hSame
  obtain ⟨hName, hValue⟩ := e.quoted_apart field.1 other.1 _ _ (stops_any _) (stops_any _) hSame
  obtain ⟨hJson, hRests⟩ := h other.2 rest more hRest hMore (List.cons.inj hValue).2
  exact ⟨Prod.ext hName hJson, hRests⟩

/-- No two values have the same text, whatever follows it. -/
theorem render_apart (json : Json) : Apart ends e.render json := by
  induction json using Json.induct with
  | null =>
      intro other rest more hRest hMore hSame
      have hKind := e.kind_eq_of_append hSame
      cases other with
      | null => exact ⟨rfl, List.append_cancel_left hSame⟩
      | bool b => cases b <;> exact absurd (List.cons.inj hSame).1 (by decide)
      | _ => cases hKind
  | bool b =>
      intro other rest more hRest hMore hSame
      have hKind := e.kind_eq_of_append hSame
      cases other with
      | null => cases b <;> exact absurd (List.cons.inj hSame).1 (by decide)
      | bool c =>
          cases b <;> cases c
          · exact ⟨rfl, List.append_cancel_left hSame⟩
          · exact absurd (List.cons.inj hSame).1 (by decide)
          · exact absurd (List.cons.inj hSame).1 (by decide)
          · exact ⟨rfl, List.append_cancel_left hSame⟩
      | _ => cases hKind
  | number n =>
      intro other rest more hRest hMore hSame
      have hKind := e.kind_eq_of_append hSame
      cases other with
      | number m =>
          obtain ⟨rfl, rfl⟩ := toDigits_apart n m rest more hRest hMore hSame
          exact ⟨rfl, rfl⟩
      | _ => cases hKind
  | string text =>
      intro other rest more hRest hMore hSame
      have hKind := e.kind_eq_of_append hSame
      cases other with
      | string other =>
          obtain ⟨rfl, rfl⟩ := e.quoted_apart text other rest more (stops_any _) (stops_any _) hSame
          exact ⟨rfl, rfl⟩
      | _ => cases hKind
  | array items ih =>
      intro other rest more hRest hMore hSame
      have hKind := e.kind_eq_of_append hSame
      cases other with
      | array others =>
          have hItems := (apart_separated ends_comma ends_bracket (by decide) ih
            (e.render_ne_close rfl)).behind ['[']
          simp only [render, renderItems_eq, bracketed] at hSame
          obtain ⟨rfl, rfl⟩ := hItems others rest more (stops_any _) (stops_any _) hSame
          exact ⟨rfl, rfl⟩
      | _ => cases hKind
  | object fields ih =>
      intro other rest more hRest hMore hSame
      have hKind := e.kind_eq_of_append hSame
      cases other with
      | object others =>
          have hFields := (apart_separated ends_comma ends_brace (by decide)
            (fun field hField => e.field_apart (ih field hField))
            (fun field => ⟨'"', _, rfl, by decide⟩)).behind ['\x7b']
          simp only [render, renderFields_eq, braced, List.map_map] at hSame
          obtain ⟨rfl, rfl⟩ := hFields others rest more (stops_any _) (stops_any _) hSame
          exact ⟨rfl, rfl⟩
      | _ => cases hKind

theorem render_injective : Function.Injective e.render :=
  Unambiguous.injective e.render_apart

end Escaping

end Text
