import Mathlib.Data.List.Nodup
import Mathlib.Logic.Function.Basic

/-! Tokens that wait in queues. Every token is at one place at a time, so that
what is in a queue is in no other one, and is in it once. -/
namespace Ledger

variable {Token Place Index : Type*}

/-- Each queue holds tokens whose place is that queue, none of them twice. -/
structure Placed (place : Token → Place) (spot : Index → Place) (queues : Index → List Token) : Prop where
  nodup : ∀ i, (queues i).Nodup
  place : ∀ i, ∀ token ∈ queues i, place token = spot i

variable {place : Token → Place} {spot : Index → Place} {queues : Index → List Token} {token : Token}
  {rest : List Token} {i : Index} {elsewhere : Place}

theorem Placed.empty (place : Token → Place) (spot : Index → Place) : Placed place spot fun _ => [] :=
  ⟨fun _ => List.nodup_nil, fun _ _ h => (nomatch h)⟩

/-- A token that is placed elsewhere is in no queue. -/
theorem Placed.absent (h : Placed place spot queues) (hPlace : ∀ i, place token ≠ spot i) (i : Index) :
    token ∉ queues i :=
  fun hToken => hPlace i (h.place i token hToken)

section

variable [DecidableEq Token]

/-- A token that is in no queue may go to another place. -/
theorem Placed.moved (h : Placed place spot queues) (hAbsent : ∀ i, token ∉ queues i) (elsewhere : Place) :
    Placed (Function.update place token elsewhere) spot queues where
  nodup := h.nodup
  place := by
    intro j other hOther
    have hDifferent : other ≠ token := by
      rintro rfl
      exact hAbsent j hOther
    rw [Function.update_of_ne hDifferent]
    exact h.place j other hOther

end

variable [DecidableEq Index]

/-- A queue may be cut down. -/
theorem Placed.sublist (h : Placed place spot queues) (hRest : List.Sublist rest (queues i)) :
    Placed place spot (Function.update queues i rest) where
  nodup := by
    intro j
    by_cases hHere : j = i
    · rw [hHere, Function.update_self]
      exact hRest.nodup (h.nodup i)
    · rw [Function.update_of_ne hHere]
      exact h.nodup j
  place := by
    intro j other hOther
    by_cases hHere : j = i
    · rw [hHere, Function.update_self] at hOther
      rw [hHere]
      exact h.place i other (hRest.subset hOther)
    · rw [Function.update_of_ne hHere] at hOther
      exact h.place j other hOther

variable [DecidableEq Token]

/-- The first token of a queue leaves it. -/
theorem Placed.pop (hSpot : Function.Injective spot) (h : Placed place spot queues)
    (hQueue : queues i = token :: rest) (elsewhere : Place) :
    Placed (Function.update place token elsewhere) spot (Function.update queues i rest) := by
  refine (h.sublist (hQueue ▸ List.sublist_cons_self token rest)).moved (fun j hToken => ?_) elsewhere
  by_cases hHere : j = i
  · rw [hHere, Function.update_self] at hToken
    have hNodup := h.nodup i
    rw [hQueue] at hNodup
    exact (List.nodup_cons.mp hNodup).1 hToken
  · rw [Function.update_of_ne hHere] at hToken
    apply hHere
    apply hSpot
    rw [← h.place j token hToken, h.place i token (hQueue ▸ List.mem_cons_self)]

/-- A token that is in no queue joins one at its end. -/
theorem Placed.push (h : Placed place spot queues) (hAbsent : ∀ i, token ∉ queues i) (i : Index) :
    Placed (Function.update place token (spot i)) spot (Function.update queues i (queues i ++ [token])) := by
  have hMoved := h.moved hAbsent (spot i)
  constructor
  · intro j
    by_cases hHere : j = i
    · rw [hHere, Function.update_self]
      refine List.nodup_append.mpr ⟨h.nodup i, List.nodup_singleton token, fun other hOther last hLast => ?_⟩
      rw [List.mem_singleton.mp hLast]
      rintro rfl
      exact hAbsent i hOther
    · rw [Function.update_of_ne hHere]
      exact h.nodup j
  · intro j other hOther
    by_cases hHere : j = i
    · rw [hHere, Function.update_self] at hOther
      rw [hHere]
      rcases List.mem_append.mp hOther with hOld | hNew
      · exact hMoved.place i other hOld
      · rw [List.mem_singleton.mp hNew, Function.update_self]
    · rw [Function.update_of_ne hHere] at hOther
      exact hMoved.place j other hOther

end Ledger
