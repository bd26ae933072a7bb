import TwinBall.Key
import TwinBall.Report

/-!
# Policies and notices

A keyboard may decide for itself how motion and scroll ticks become report axes, which key events
it keeps for itself, and which further keys keep the auto mouse layer on.  A policy holds these
decisions as functions; every operation that needs one takes it as an argument, so that it may
differ from call to call.

What a keyboard is told or asked along the way is a list of notices, in order.
-/

namespace TwinBall

/-- The decisions of a keyboard. -/
structure Policy where
  /-- The report with a drained movement written into it.  The flag says whether the movement came
  from the left half. -/
  mapMove : Motion → Report → Bool → Report
  /-- The report with scroll ticks written into it, before scroll snapping. -/
  mapScroll : Motion → Report → Bool → Report
  /-- Whether a key event is processed any further. -/
  admits : KeyEvent → Bool
  /-- Whether a key code keeps the auto mouse layer on, beyond the codes that always do. -/
  isMouseCode : UInt16 → Bool

namespace Policy

/-- Writes a movement into a report, each axis clipped.  The sensor sits upside down, so `x`
points the other way. -/
def standardMove (m : Motion) (r : Report) (_left : Bool) : Report :=
  { r with x := negAxis (clipToAxis m.x), y := clipToAxis m.y }

/-- Writes scroll ticks into a report, each axis clipped and turned around. -/
def standardScroll (ticks : Motion) (r : Report) (_left : Bool) : Report :=
  { r with pan := negAxis (clipToAxis ticks.x), wheel := negAxis (clipToAxis ticks.y) }

/-- A keyboard without decisions of its own. -/
def standard : Policy where
  mapMove := standardMove
  mapScroll := standardScroll
  admits _ := true
  isMouseCode _ := false

end Policy

/-- On which occasion a keyboard may adjust its layout. -/
inductive LayoutStage
  /-- At boot, before the halves have talked. -/
  | pending
  /-- On the half on USB, once the handshake has settled. -/
  | primary
  /-- On the other half, whenever it says which balls it has. -/
  | secondary
  deriving DecidableEq, Repr

/-- What a keyboard is told or asked. -/
inductive Notice
  /-- The layout may be adjusted. -/
  | layout (stage : LayoutStage)
  /-- A movement is mapped; the flag says whether it came from the left half. -/
  | move (m : Motion) (left : Bool)
  /-- Scroll ticks are mapped; the flag says whether they came from the left half. -/
  | scroll (ticks : Motion) (left : Bool)
  deriving DecidableEq, Repr

end TwinBall
