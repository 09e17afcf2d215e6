import Mathlib.Logic.Function.Basic
import Mathlib.Data.Set.Basic

/-! Exclusive resources and the table that records them. Holders obtain,
hand over and give back resources; the table is updated separately. A book is
sound when every holding is recorded and no resource has two holders, and
balanced when every record belongs to a holder. -/
namespace Ledger

open scoped Classical

variable {Holder Owner Resource : Type*}

/-- Who holds which resource in whose name, and what the table records. -/
structure Book (Holder Owner Resource : Type*) where
  holds : Holder → Option (Owner × Resource)
  used : Resource → Option Owner

namespace Book

/-- Every holding is recorded and no two holders share a resource. -/
structure Sound (b : Book Holder Owner Resource) : Prop where
  recorded : ∀ x o r, b.holds x = some (o, r) → b.used r = some o
  exclusive : ∀ x y o o' r, b.holds x = some (o, r) → b.holds y = some (o', r) → x = y

/-- Every record belongs to a holder. -/
def Balanced (b : Book Holder Owner Resource) : Prop :=
  ∀ r o, b.used r = some o → ∃ x, b.holds x = some (o, r)

/-- An unrecorded resource is recorded and handed to an empty holder. -/
noncomputable def acquire (b : Book Holder Owner Resource) (x : Holder) (o : Owner) (r : Resource) :
    Book Holder Owner Resource where
  holds := Function.update b.holds x (some (o, r))
  used := Function.update b.used r (some o)

/-- The holders of a set give back what they hold and the records go. -/
noncomputable def release (b : Book Holder Owner Resource) (givers : Set Holder) :
    Book Holder Owner Resource where
  holds := fun x => if x ∈ givers then none else b.holds x
  used := fun r => if ∃ x ∈ givers, ∃ o, b.holds x = some (o, r) then none else b.used r

/-- The holders of a set lose what they hold and the records stay. -/
noncomputable def forget (b : Book Holder Owner Resource) (losers : Set Holder) :
    Book Holder Owner Resource where
  holds := fun x => if x ∈ losers then none else b.holds x
  used := b.used

/-- One holder hands over to another, who loses what it held before. -/
noncomputable def transfer (b : Book Holder Owner Resource) (giver taker : Holder) :
    Book Holder Owner Resource where
  holds := Function.update (Function.update b.holds giver none) taker (b.holds giver)
  used := b.used

/-- The changes of a book that keep it sound, indexed by the holders that
may lose what they hold while its record stays. -/
inductive Move (b : Book Holder Owner Resource) : Set Holder → Book Holder Owner Resource → Prop where
  | stay : Move b ∅ b
  | acquire {x : Holder} {o : Owner} {r : Resource} (hFree : b.used r = none)
      (hEmpty : b.holds x = none) : Move b ∅ (b.acquire x o r)
  | release (givers : Set Holder) : Move b ∅ (b.release givers)
  | forget (losers : Set Holder) : Move b losers (b.forget losers)
  | transfer {giver taker : Holder} (hDiffer : giver ≠ taker) :
      Move b {taker} (b.transfer giver taker)

variable {b b' : Book Holder Owner Resource} {lost : Set Holder}

theorem Sound.acquire (h : b.Sound) {x : Holder} {o : Owner} {r : Resource} (hFree : b.used r = none) :
    (b.acquire x o r).Sound := by
  have hOld : ∀ y o' r', b.holds y = some (o', r') → r' ≠ r := by
    rintro y o' r' hHolds rfl
    rw [h.recorded y o' r' hHolds] at hFree
    cases hFree
  constructor
  · intro y o' r' hHolds
    by_cases hy : y = x
    · subst hy
      simp only [Book.acquire, Function.update_self, Option.some.injEq, Prod.mk.injEq] at hHolds ⊢
      obtain ⟨rfl, rfl⟩ := hHolds
      simp
    · simp only [Book.acquire, Function.update_of_ne hy] at hHolds ⊢
      rw [Function.update_of_ne (hOld y o' r' hHolds)]
      exact h.recorded y o' r' hHolds
  · intro y z o' o'' r' hy hz
    by_cases hyx : y = x <;> by_cases hzx : z = x
    · rw [hyx, hzx]
    · subst hyx
      simp only [Book.acquire, Function.update_self, Function.update_of_ne hzx, Option.some.injEq,
        Prod.mk.injEq] at hy hz
      exact absurd hy.2.symm (hOld z o'' r' hz)
    · subst hzx
      simp only [Book.acquire, Function.update_self, Function.update_of_ne hyx, Option.some.injEq,
        Prod.mk.injEq] at hy hz
      exact absurd hz.2.symm (hOld y o' r' hy)
    · simp only [Book.acquire, Function.update_of_ne hyx, Function.update_of_ne hzx] at hy hz
      exact h.exclusive y z o' o'' r' hy hz

/-- What is still held after a release was held before by someone else. -/
theorem holds_release {givers : Set Holder} {x : Holder} {o : Owner} {r : Resource} :
    (b.release givers).holds x = some (o, r) ↔ x ∉ givers ∧ b.holds x = some (o, r) := by
  by_cases hx : x ∈ givers <;> simp [Book.release, hx]

theorem used_release {givers : Set Holder} {o : Owner} {r : Resource} :
    (b.release givers).used r = some o ↔
      b.used r = some o ∧ ∀ x ∈ givers, ∀ o', b.holds x ≠ some (o', r) := by
  by_cases hr : ∃ x ∈ givers, ∃ o, b.holds x = some (o, r)
  · have hNot : ¬∀ x ∈ givers, ∀ o', b.holds x ≠ some (o', r) := by
      obtain ⟨x, hx, o', hHolds⟩ := hr
      exact fun hAll => hAll x hx o' hHolds
    simp [Book.release, hr, hNot]
  · have hAll : ∀ x ∈ givers, ∀ o', b.holds x ≠ some (o', r) :=
      fun x hx o' hHolds => hr ⟨x, hx, o', hHolds⟩
    simp only [Book.release, if_neg hr]
    exact ⟨fun hUsed => ⟨hUsed, hAll⟩, And.left⟩

theorem Sound.release (h : b.Sound) (givers : Set Holder) : (b.release givers).Sound := by
  constructor
  · intro x o r hHolds
    obtain ⟨hx, hHolds⟩ := holds_release.mp hHolds
    refine used_release.mpr ⟨h.recorded x o r hHolds, ?_⟩
    intro y hy o' hOther
    rw [h.exclusive y x o' o r hOther hHolds] at hy
    exact hx hy
  · intro x y o o' r hx hy
    exact h.exclusive x y o o' r (holds_release.mp hx).2 (holds_release.mp hy).2

theorem holds_forget {losers : Set Holder} {x : Holder} {o : Owner} {r : Resource} :
    (b.forget losers).holds x = some (o, r) ↔ x ∉ losers ∧ b.holds x = some (o, r) := by
  by_cases hx : x ∈ losers <;> simp [Book.forget, hx]

theorem Sound.forget (h : b.Sound) (losers : Set Holder) : (b.forget losers).Sound := by
  constructor
  · intro x o r hHolds
    exact h.recorded x o r (holds_forget.mp hHolds).2
  · intro x y o o' r hx hy
    exact h.exclusive x y o o' r (holds_forget.mp hx).2 (holds_forget.mp hy).2

/-- After a handover only the taker has what the giver had. -/
theorem holds_transfer {giver taker x : Holder} {held : Option (Owner × Resource)}
    (hDiffer : giver ≠ taker) :
    (b.transfer giver taker).holds x = held ↔
      (x = taker ∧ b.holds giver = held) ∨ (x = giver ∧ held = none) ∨
        (x ≠ taker ∧ x ≠ giver ∧ b.holds x = held) := by
  by_cases hTaker : x = taker
  · subst hTaker
    simp [Book.transfer, hDiffer.symm]
  · by_cases hGiver : x = giver
    · subst hGiver
      simp [Book.transfer, hTaker, eq_comm]
    · simp [Book.transfer, hTaker, hGiver]

theorem Sound.transfer (h : b.Sound) {giver taker : Holder} (hDiffer : giver ≠ taker) :
    (b.transfer giver taker).Sound := by
  constructor
  · intro x o r hHolds
    rcases (holds_transfer hDiffer).mp hHolds with ⟨_, hx⟩ | ⟨_, hNone⟩ | ⟨_, _, hx⟩
    · exact h.recorded giver o r hx
    · cases hNone
    · exact h.recorded x o r hx
  · intro x y o o' r hx hy
    rcases (holds_transfer hDiffer).mp hx with ⟨hxTaker, hxGave⟩ | ⟨_, hNone⟩ | ⟨_, hxGiver, hxHeld⟩
    · rcases (holds_transfer hDiffer).mp hy with ⟨hyTaker, _⟩ | ⟨_, hNone⟩ | ⟨_, hyGiver, hyHeld⟩
      · rw [hxTaker, hyTaker]
      · cases hNone
      · exact absurd (h.exclusive y giver o' o r hyHeld hxGave) hyGiver
    · cases hNone
    · rcases (holds_transfer hDiffer).mp hy with ⟨_, hyGave⟩ | ⟨_, hNone⟩ | ⟨_, _, hyHeld⟩
      · exact absurd (h.exclusive x giver o o' r hxHeld hyGave) hxGiver
      · cases hNone
      · exact h.exclusive x y o o' r hxHeld hyHeld

/-- Soundness is kept by every move. -/
theorem Sound.move (h : b.Sound) (hMove : Move b lost b') : b'.Sound := by
  cases hMove with
  | stay => exact h
  | acquire hFree _ => exact h.acquire hFree
  | release givers => exact h.release givers
  | forget => exact h.forget lost
  | transfer hDiffer => exact h.transfer hDiffer

/-- A move keeps every record but those of holders that it empties. -/
theorem Move.removed (hMove : Move b lost b') {o : Owner} {r : Resource} (hUsed : b.used r = some o)
    (hRemoved : b'.used r ≠ some o) : ∃ x o', b.holds x = some (o', r) ∧ b'.holds x = none := by
  cases hMove with
  | stay => exact absurd hUsed hRemoved
  | @acquire x o' r' hFree _ =>
      have hOther : r ≠ r' := by
        rintro rfl
        rw [hFree] at hUsed
        cases hUsed
      exact absurd (by simpa [Book.acquire, Function.update_of_ne hOther] using hUsed) hRemoved
  | release givers =>
      by_cases hGiven : ∃ x ∈ givers, ∃ o, b.holds x = some (o, r)
      · obtain ⟨x, hx, o', hHolds⟩ := hGiven
        exact ⟨x, o', hHolds, by simp [Book.release, hx]⟩
      · exact absurd (by simpa [Book.release, hGiven] using hUsed) hRemoved
  | forget => exact absurd hUsed hRemoved
  | transfer hDiffer => exact absurd hUsed hRemoved

theorem Balanced.acquire (h : b.Balanced) {x : Holder} {o : Owner} {r : Resource}
    (hEmpty : b.holds x = none) : (b.acquire x o r).Balanced := by
  intro r' o' hUsed
  by_cases hr : r' = r
  · subst hr
    simp only [Book.acquire, Function.update_self, Option.some.injEq] at hUsed
    subst hUsed
    exact ⟨x, by simp [Book.acquire]⟩
  · simp only [Book.acquire, Function.update_of_ne hr] at hUsed
    obtain ⟨y, hy⟩ := h r' o' hUsed
    have hyx : y ≠ x := by
      rintro rfl
      rw [hEmpty] at hy
      cases hy
    exact ⟨y, by simp [Book.acquire, Function.update_of_ne hyx, hy]⟩

theorem Balanced.release (h : b.Balanced) (givers : Set Holder) : (b.release givers).Balanced := by
  intro r o hUsed
  obtain ⟨hUsed, hNone⟩ := used_release.mp hUsed
  obtain ⟨x, hx⟩ := h r o hUsed
  exact ⟨x, holds_release.mpr ⟨fun hMem => hNone x hMem o hx, hx⟩⟩

/-- Forgetting keeps a sound book balanced exactly when nothing is lost. -/
theorem balanced_forget_iff (hSound : b.Sound) (h : b.Balanced) (losers : Set Holder) :
    (b.forget losers).Balanced ↔ ∀ x ∈ losers, b.holds x = none := by
  constructor
  · intro hAfter x hx
    cases hHolds : b.holds x with
    | none => rfl
    | some held =>
        obtain ⟨o, r⟩ := held
        obtain ⟨y, hy⟩ := hAfter r o (hSound.recorded x o r hHolds)
        obtain ⟨hyOut, hy⟩ := holds_forget.mp hy
        rw [hSound.exclusive y x o o r hy hHolds] at hyOut
        exact absurd hx hyOut
  · intro hEmpty r o hUsed
    obtain ⟨x, hx⟩ := h r o hUsed
    refine ⟨x, holds_forget.mpr ⟨fun hMem => ?_, hx⟩⟩
    rw [hEmpty x hMem] at hx
    cases hx

/-- A handover keeps a sound book balanced exactly when the taker held
nothing before. -/
theorem balanced_transfer_iff (hSound : b.Sound) (h : b.Balanced) {giver taker : Holder}
    (hDiffer : giver ≠ taker) :
    (b.transfer giver taker).Balanced ↔ b.holds taker = none := by
  constructor
  · intro hAfter
    cases hHolds : b.holds taker with
    | none => rfl
    | some held =>
        obtain ⟨o, r⟩ := held
        obtain ⟨y, hy⟩ := hAfter r o (hSound.recorded taker o r hHolds)
        rcases (holds_transfer hDiffer).mp hy with ⟨_, hy⟩ | ⟨_, hNone⟩ | ⟨hyTaker, _, hy⟩
        · exact absurd (hSound.exclusive giver taker o o r hy hHolds) hDiffer
        · cases hNone
        · exact absurd (hSound.exclusive y taker o o r hy hHolds) hyTaker
  · intro hEmpty r o hUsed
    obtain ⟨x, hx⟩ := h r o hUsed
    by_cases hGiver : x = giver
    · subst hGiver
      exact ⟨taker, (holds_transfer hDiffer).mpr (.inl ⟨rfl, hx⟩)⟩
    · have hTaker : x ≠ taker := by
        rintro rfl
        rw [hEmpty] at hx
        cases hx
      exact ⟨x, (holds_transfer hDiffer).mpr (.inr (.inr ⟨hTaker, hGiver, hx⟩))⟩

/-- A move keeps a sound book balanced exactly when no holder loses anything. -/
theorem Move.balanced_iff (hMove : Move b lost b') (hSound : b.Sound) (h : b.Balanced) :
    b'.Balanced ↔ ∀ x ∈ lost, b.holds x = none := by
  cases hMove with
  | stay => exact ⟨fun _ _ hx => absurd hx (by simp), fun _ => h⟩
  | acquire _ hEmpty => exact ⟨fun _ _ hx => absurd hx (by simp), fun _ => h.acquire hEmpty⟩
  | release givers => exact ⟨fun _ _ hx => absurd hx (by simp), fun _ => h.release givers⟩
  | forget => exact balanced_forget_iff hSound h lost
  | @transfer giver taker hDiffer =>
      refine (balanced_transfer_iff hSound h hDiffer).trans ⟨?_, fun hAll => hAll taker rfl⟩
      rintro hEmpty x rfl
      exact hEmpty

end Book
end Ledger
