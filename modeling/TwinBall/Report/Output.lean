import TwinBall.Report

/-!
# Reports on the wire to the host

The host reads a report as five bytes: buttons, pointer movement, wheel and pan, the signed axes
in two's complement.  An output hands them to the host's endpoint, which may refuse.
-/

namespace TwinBall

/-- The largest report, in bytes, that the mouse interface declares. -/
def maxReportSize : Nat := 8

/-- The bytes that the host reads. -/
def Report.bytes (r : Report) : List UInt8 :=
  [r.buttons, r.x.toUInt8, r.y.toUInt8, r.wheel.toUInt8, r.pan.toUInt8]

/-- Why a report did not reach the host. -/
inductive OutputError
  /-- The endpoint refused it, for instance because the host sleeps. -/
  | io
  deriving DecidableEq, Repr

/-- The mouse interface toward the host. -/
structure MouseOutput where
  /-- Whether the host has configured the interface. -/
  ready : Bool
  deriving DecidableEq, Repr

namespace MouseOutput

/-- An interface that the host has not configured yet. -/
def initial : MouseOutput := ⟨false⟩

/-- The interface once the host has configured it. -/
def awaitReady (_ : MouseOutput) : MouseOutput := ⟨true⟩

/-- Sends a report over an endpoint that takes it or refuses it.  Answers the bytes written. -/
def send (_ : MouseOutput) (r : Report) (accepted : Bool) : Except OutputError (List UInt8) :=
  if accepted then .ok r.bytes else .error .io

end MouseOutput

/-- A report fits into the size that the interface declares. -/
theorem Report.length_bytes_le (r : Report) : r.bytes.length ≤ maxReportSize := by
  simp [Report.bytes, maxReportSize]

end TwinBall
