import Mathlib

/-!
# Periodic tasks polled at clock readings

A periodic task is polled at a sequence of clock readings.  It fires at a
reading when more than its period has passed since it last fired, and firing
restarts the period.  {lit}`fire d last rs` lists the readings of
{lit}`rs` at which a task of period {lit}`d` fires, from {lit}`last`, the
time it last fired or was started.

Nothing is assumed of the readings: a clock that goes back only delays the
next firing, and two firings are always more than a period apart.
-/

namespace Periodic

variable {α : Type} [Add α] [LinearOrder α]

/-- The readings at which a task of period {lit}`d` that last fired at {lit}`last` fires. -/
def fire (d : α) : α → List α → List α
  | _, [] => []
  | last, r :: rs => if last + d < r then r :: fire d r rs else fire d last rs

/-- Consecutive firings, and the start and the first firing, are more than a period apart. -/
theorem fire_isChain (d : α) :
    ∀ (last : α) (rs : List α), List.IsChain (fun a b => a + d < b) (last :: fire d last rs)
  | last, [] => List.isChain_singleton last
  | last, r :: rs => by
      unfold fire
      split_ifs with hdue
      · exact List.isChain_cons_cons.mpr ⟨hdue, fire_isChain d r rs⟩
      · exact fire_isChain d last rs

/-- A task fires only at readings it was polled at. -/
theorem fire_sublist (d : α) : ∀ (last : α) (rs : List α), List.Sublist (fire d last rs) rs
  | _, [] => List.Sublist.slnil
  | last, r :: rs => by
      unfold fire
      split_ifs
      · exact (fire_sublist d r rs).cons_cons r
      · exact (fire_sublist d last rs).cons r

end Periodic
