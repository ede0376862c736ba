/- Windows of a sequence given by two integer bounds. A bound below zero
   counts back from the end; both bounds are then clamped to the sequence,
   and a window whose end lies before its start is empty. The lemmas give
   the length of a window and its behaviour on in-range bounds. -/
namespace ByteMachine.Text

/-- The position that the bound `i` names in a sequence of length `n`. -/
def clampIndex (n : Nat) (i : Int) : Nat :=
  if i < 0 then (n + i).toNat else min i.toNat n

/-- The elements of `xs` from position `start` up to, not including, `stop`. -/
def window {α : Type} (xs : List α) (start stop : Int) : List α :=
  let a := clampIndex xs.length start
  let b := clampIndex xs.length stop
  (xs.drop a).take (b - a)

theorem clampIndex_le (n : Nat) (i : Int) : clampIndex n i ≤ n := by
  unfold clampIndex; split <;> omega

theorem length_window {α : Type} (xs : List α) (start stop : Int) :
    (window xs start stop).length =
      clampIndex xs.length stop - clampIndex xs.length start := by
  have := clampIndex_le xs.length stop
  simp only [window, List.length_take, List.length_drop]
  omega

theorem clampIndex_natCast (n a : Nat) : clampIndex n a = min a n := by
  unfold clampIndex
  rw [if_neg (by omega)]
  simp

end ByteMachine.Text
