import TwinBall.Saturation

/-!
# Motion

A movement of a ball in raw sensor counts, one 16-bit count per axis.
-/

namespace TwinBall

/-- A movement in sensor counts, or a number of scroll ticks on each axis. -/
structure Motion where
  /-- To the right. -/
  x : Int16
  /-- Downward. -/
  y : Int16
  deriving DecidableEq, Repr, Inhabited

namespace Motion

/-- No movement. -/
def zero : Motion := ⟨0, 0⟩

/-- Whether nothing moved. -/
def isZero (m : Motion) : Bool := m.x == 0 && m.y == 0

/-- The movement `m` followed by the movement `d`, each axis held within the 16-bit range. -/
def add (m d : Motion) : Motion := ⟨addCounts m.x d.x, addCounts m.y d.y⟩

theorem isZero_iff {m : Motion} : m.isZero = true ↔ m = zero := by
  obtain ⟨x, y⟩ := m
  simp [isZero, zero]

end Motion

/-- The ball of a half's own, or the ball of the half across the link. -/
inductive Ball
  /-- On the half that this state belongs to. -/
  | own
  /-- On the other half. -/
  | peer
  deriving DecidableEq, Repr

end TwinBall
