/-!
# The auto mouse layer

While the ball moves, a layer with mouse keys may turn itself on and off again after a timeout.
This module keeps its two settings.  A timeout is set in milliseconds between 100 and 1000 and
stored in steps of 50; step `0` stands for the default of the build, which is used as it is.
-/

namespace TwinBall

/-- The settings of the auto mouse layer. -/
structure AutoMouse where
  /-- Whether the layer turns itself on. -/
  enabled : Bool
  /-- How long it stays on, in milliseconds. -/
  timeout : UInt16
  /-- The timeout of the build. -/
  defaultTimeout : UInt16
  deriving DecidableEq, Repr

namespace AutoMouse

/-- The shortest timeout that can be set. -/
def minTimeout : UInt16 := 100

/-- The longest timeout that can be set. -/
def maxTimeout : UInt16 := 1000

/-- The step of timeouts. -/
def quantum : UInt16 := 50

/-- The layer is off and has the timeout of the build. -/
def new (defaultTimeout : UInt16) : AutoMouse := ⟨false, defaultTimeout, defaultTimeout⟩

/-- The timeout closest to `ms` that can be set. -/
def clampTimeout (ms : UInt16) : UInt16 := max minTimeout (min maxTimeout ms)

/-- Turns the layer on or off. -/
def setEnabled (a : AutoMouse) (on : Bool) : AutoMouse := { a with enabled := on }

/-- Sets the timeout, as near to `ms` as allowed. -/
def setTimeout (a : AutoMouse) (ms : UInt16) : AutoMouse := { a with timeout := clampTimeout ms }

/-- The timeout one step above or below, held within 16 bits. -/
def steppedTimeout (a : AutoMouse) (up : Bool) : UInt16 :=
  if up then (if a.timeout ≤ 65535 - quantum then a.timeout + quantum else 65535)
  else (if quantum ≤ a.timeout then a.timeout - quantum else 0)

/-- Moves the timeout one step up or down. -/
def step (a : AutoMouse) (up : Bool) : AutoMouse := a.setTimeout (a.steppedTimeout up)

/-- Turns the layer off and goes back to the timeout of the build. -/
def reset (a : AutoMouse) : AutoMouse := { a with enabled := false, timeout := a.defaultTimeout }

/-- The stored step of the timeout: its number of whole quanta, less one. -/
def timeoutStep (a : AutoMouse) : UInt8 :=
  let quanta := a.timeout / quantum
  (if quanta = 0 then 0 else quanta - 1).toUInt8

/-- Sets the timeout from a stored step; step `0` selects the timeout of the build. -/
def setTimeoutStep (a : AutoMouse) (q : UInt8) : AutoMouse :=
  if q = 0 then { a with timeout := a.defaultTimeout }
  else a.setTimeout ((q.toUInt16 + 1) * quantum)

/-- A clamped timeout lies between the two limits. -/
theorem clampTimeout_mem (ms : UInt16) :
    minTimeout ≤ clampTimeout ms ∧ clampTimeout ms ≤ maxTimeout := by
  have hmin : min maxTimeout ms = if maxTimeout ≤ ms then maxTimeout else ms := rfl
  have hmax (m : UInt16) : max minTimeout m = if minTimeout ≤ m then m else minTimeout := rfl
  rw [clampTimeout, hmin]
  split
  · decide
  · next hbelow =>
    rw [hmax]
    split
    · next habove => exact ⟨habove, UInt16.le_of_lt (UInt16.not_le.mp hbelow)⟩
    · decide

end AutoMouse

end TwinBall
