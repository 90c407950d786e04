import Mathlib.Algebra.Group.Basic
import Mathlib.Data.List.Basic

/-!
Check sums that weigh every symbol by its position. Which errors such a sum finds is
a matter of the weights alone.
-/

namespace WeightedSum

variable {α G : Type*} [AddCommGroup G] (weight : Nat → α → G)

/-- The sum over symbols of which the first stands at position `start`. -/
def total : Nat → List α → G
  | _, [] => 0
  | start, symbol :: rest => weight start symbol + total (start + 1) rest

theorem total_append (start : Nat) (left right : List α) :
    total weight start (left ++ right) =
      total weight start left + total weight (start + left.length) right := by
  induction left generalizing start with
  | nil => simp [total]
  | cons symbol left ih =>
      have place : start + 1 + left.length = start + (left.length + 1) := by omega
      rw [List.cons_append, total, total, ih, List.length_cons, place, add_assoc]

/-- Replacing one symbol goes unnoticed exactly if both weigh the same there. -/
theorem total_replaced_iff (start : Nat) (left right : List α) (old new : α) :
    total weight start (left ++ new :: right) = total weight start (left ++ old :: right) ↔
      weight (start + left.length) new = weight (start + left.length) old := by
  rw [total_append, total_append, add_right_inj, total, total, add_left_inj]

end WeightedSum
