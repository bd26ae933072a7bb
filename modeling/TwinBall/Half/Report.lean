import TwinBall.Half.Settings
import TwinBall.Policy
import TwinBall.Sensor

/-!
# Reading the sensor and making reports

The sensor of a half adds to its own accumulator.  The half on USB turns both accumulators into
reports: a movement of the main ball moves the pointer, or scrolls while scrolling is on, and with
two balls the other one does the opposite.

Ticks are drained with `Accumulator.drainTicks`, which is right here because `scrollDivisor` is
never `0` or `-1`; `drainTicks?_scrollDivisor` states it.
-/

namespace TwinBall.Half

/-! ## The sensor -/

/-- Tells the sensor the resolution, if it has yet to be told.  A refusal leaves it to the next
time. -/
def applyCpi {σ : Type} [MotionSensor σ] (h : Half) (sensor : σ) :
    Except SensorError Unit × Half × σ :=
  if h.cpiUnapplied then
    match MotionSensor.setCpi sensor h.cpiRegister with
    | (.ok (), sensor) => (.ok (), { h with cpiUnapplied := false }, sensor)
    | (.error e, sensor) => (.error e, h, sensor)
  else (.ok (), h, sensor)

/-- Reads the sensor into this half's accumulator, after telling it the resolution.  A half
without a ball does nothing. -/
def poll {σ : Type} [MotionSensor σ] (h : Half) (sensor : σ) :
    Except SensorError Unit × Half × σ :=
  if h.ownBall then
    match h.applyCpi sensor with
    | (.error e, h, sensor) => (.error e, h, sensor)
    | (.ok (), h, sensor) =>
      match MotionSensor.readMotion sensor with
      | (.error e, sensor) => (.error e, h, sensor)
      | (.ok none, sensor) => (.ok (), h, sensor)
      | (.ok (some m), sensor) => (.ok (), h.accumulate .own m, sensor)
  else (.ok (), h, sensor)

/-! ## Reports -/

/-- What asking for a report came to. -/
structure Reported where
  /-- Whether there is a report. -/
  emitted : Bool
  /-- The report, or the one passed in if there is none. -/
  report : Report
  /-- What the keyboard was asked. -/
  notices : List Notice
  /-- The half afterwards. -/
  half : Half
  deriving DecidableEq, Repr

/-- Whether enough time has passed since the last report.  Times count modulo `2 ^ 32`. -/
def isReportDue (h : Half) (now : UInt32) : Bool :=
  h.config.reportInterval = 0 || now - h.lastReport ≥ h.config.reportInterval

/-- Notes the time of a report, unless reports are not throttled. -/
def noteReport (h : Half) (now : UInt32) : Half :=
  if h.config.reportInterval = 0 then h else { h with lastReport := now }

/-- Whether scrolling was switched so recently that motion is discarded. -/
def isInhibited (h : Half) (now : UInt32) : Bool :=
  h.config.scrollInhibit > 0 && now - h.scrollSwitched < h.config.scrollInhibit

/-- Discards the motion of both balls shortly after a switch of scrolling. -/
def inhibit (h : Half) (now : UInt32) : Half := if h.isInhibited now then h.clearMotion else h

/-- Whether a ball scrolls.  With a ball on this half, the other ball does the opposite job. -/
def isScrolling (h : Half) : Ball → Bool
  | .own => h.scrolling
  | .peer => h.scrolling ^^ h.ownBall

/-- Whether the motion of a ball comes from the left half. -/
def isLeftBall (h : Half) : Ball → Bool
  | .own => h.isLeft
  | .peer => !h.isLeft

/-- Drains the motion of a ball into a report, as scroll ticks or as a movement. -/
def drainInto (h : Half) (policy : Policy) (ball : Ball) (r : Report) (now : UInt32) :
    Half × Report × Notice :=
  if h.isScrolling ball then
    let (ticks, rest) := (h.motion ball).drainTicks h.scrollDivisor
    let (snap, r) := h.snap.apply (policy.mapScroll ticks r (h.isLeftBall ball)) now
    ({ h.setMotion ball rest with snap := snap }, r, .scroll ticks (h.isLeftBall ball))
  else
    let (m, rest) := (h.motion ball).drain
    (h.setMotion ball rest, policy.mapMove m r (h.isLeftBall ball), .move m (h.isLeftBall ball))

/-- Drains the motion of both balls into a report, this half's ball first. -/
def drainBoth (h : Half) (policy : Policy) (r : Report) (now : UInt32) : Reported :=
  let (h, r, first) := h.drainInto policy .own r now
  let (h, r, second) := h.drainInto policy .peer r now
  ⟨true, r, [first, second], { h with lastMouse := r }⟩

/-- Completes the report `r` at time `now`.  There is none on the half that is not on USB, and
none while the report interval has not passed; then nothing changes. -/
def makeReport (h : Half) (policy : Policy) (r : Report) (now : UInt32) : Reported :=
  if h.role = .primary ∧ h.isReportDue now then
    ((h.noteReport now).inhibit now).drainBoth policy r now
  else ⟨false, r, [], h⟩

/-- Draining scroll ticks never fails. -/
theorem drainTicks?_scrollDivisor (h : Half) (a : Accumulator) :
    a.drainTicks? h.scrollDivisor = .ok (a.drainTicks h.scrollDivisor) :=
  a.drainTicks?_eq_ok h.scrollDivisor_ne.1 h.scrollDivisor_ne.2

end TwinBall.Half
