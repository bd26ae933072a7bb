import TwinBall.AutoMouse
import TwinBall.Config
import TwinBall.Handshake
import TwinBall.Key.Held
import TwinBall.Motion.Accumulator

/-!
# One half of the keyboard

The state of one half: its fixed configuration, what it knows of the two balls, the motion added
up so far, the settings, and what it remembers for the status display.
-/

namespace TwinBall

/-- Which half drives USB. -/
inductive Role
  /-- Connected to the host; it sends reports and starts transactions. -/
  | primary
  /-- Answers the transactions of the primary. -/
  | secondary
  deriving DecidableEq, Repr

/-- The side of a half. -/
inductive Side
  | left
  | right
  deriving DecidableEq, Repr

/-- The state of one half. -/
structure Half where
  /-- The configuration of its build. -/
  config : Config
  /-- Whether it drives USB. -/
  role : Role
  /-- Its side. -/
  side : Side
  /-- Whether its own sensor answered at boot. -/
  ownBall : Bool
  /-- Whether the other half has a ball; known once the handshake has settled. -/
  peerBall : Bool
  /-- The handshake with the other half. -/
  handshake : Handshake
  /-- Motion of the ball on this half. -/
  ownMotion : Accumulator
  /-- Motion of the ball on the other half. -/
  peerMotion : Accumulator
  /-- The stored resolution, `0` for the default. -/
  cpiStored : UInt8
  /-- Whether the other half has yet to be told the resolution. -/
  cpiUnsent : Bool
  /-- Whether the sensor has yet to be told the resolution. -/
  cpiUnapplied : Bool
  /-- Whether the main ball scrolls instead of moving the pointer. -/
  scrolling : Bool
  /-- When scrolling was last switched. -/
  scrollSwitched : UInt32
  /-- The stored scroll divider exponent, `0` for the default. -/
  scrollDivStored : UInt8
  /-- The scroll snap filter. -/
  snap : SnapFilter
  /-- The settings of the auto mouse layer. -/
  autoMouse : AutoMouse
  /-- When the last report was made. -/
  lastReport : UInt32
  /-- When motion was last pulled from the other half. -/
  lastPull : UInt32
  /-- The code of the last key event. -/
  lastCode : UInt16
  /-- The row of the last key event. -/
  lastRow : UInt8
  /-- The column of the last key event. -/
  lastCol : UInt8
  /-- The last report made. -/
  lastMouse : Report
  /-- The keys shown as held. -/
  held : HeldKeys
  deriving DecidableEq, Repr

namespace Half

/-- A half before it boots. -/
def new (config : Config) (role : Role) (side : Side) : Half where
  config := config
  role := role
  side := side
  ownBall := false
  peerBall := false
  handshake := .new config.infoInterval config.infoAttempts
  ownMotion := .empty
  peerMotion := .empty
  cpiStored := 0
  cpiUnsent := false
  cpiUnapplied := false
  scrolling := false
  scrollSwitched := 0
  scrollDivStored := 0
  snap := .new config.scrollSnap
  autoMouse := .new config.autoMouseTimeout
  lastReport := 0
  lastPull := 0
  lastCode := 0
  lastRow := 0
  lastCol := 0
  lastMouse := .empty
  held := .empty

/-- Whether this is the left half. -/
def isLeft (h : Half) : Bool := h.side == .left

/-- The accumulator of a ball. -/
def motion (h : Half) : Ball → Accumulator
  | .own => h.ownMotion
  | .peer => h.peerMotion

/-- The half with another accumulator for a ball. -/
def setMotion (h : Half) (ball : Ball) (a : Accumulator) : Half :=
  match ball with
  | .own => { h with ownMotion := a }
  | .peer => { h with peerMotion := a }

/-- Adds a movement of a ball. -/
def accumulate (h : Half) (ball : Ball) (m : Motion) : Half :=
  h.setMotion ball ((h.motion ball).add m)

/-- Forgets the motion of both balls. -/
def clearMotion (h : Half) : Half :=
  { h with ownMotion := h.ownMotion.clear, peerMotion := h.peerMotion.clear }

@[simp] theorem motion_setMotion (h : Half) (ball : Ball) (a : Accumulator) :
    (h.setMotion ball a).motion ball = a := by
  cases ball <;> rfl

end Half

end TwinBall
