import TwinBall.Snap

/-!
# Build configuration

What is fixed when the firmware of a half is built: limits and defaults of the settings, the
intervals of its periodic work, and which features it has.  All times are in milliseconds.
-/

namespace TwinBall

/-- The largest scroll divider exponent that can be set. -/
def scrollDivMax : UInt8 := 7

/-- The configuration of a build. -/
structure Config where
  /-- The resolution, in hundreds of counts per inch, when none is stored. -/
  cpiDefault : UInt8
  /-- The largest resolution that can be set. -/
  cpiMax : UInt8
  /-- The scroll divider exponent when none is stored. -/
  scrollDivDefault : UInt8
  /-- The shortest time between two reports; `0` does not throttle. -/
  reportInterval : UInt32
  /-- How long motion is discarded after a switch of scroll mode; `0` never discards. -/
  scrollInhibit : UInt32
  /-- How unintended horizontal scroll is suppressed. -/
  scrollSnap : SnapStrategy
  /-- Whether the build has an auto mouse layer. -/
  autoMouse : Bool
  /-- How long the auto mouse layer stays on by default. -/
  autoMouseTimeout : UInt16
  /-- The time between two attempts of the handshake. -/
  infoInterval : UInt32
  /-- The number of handshake attempts. -/
  infoAttempts : UInt8
  /-- The time between two pulls of the other half's motion. -/
  motionInterval : UInt32
  /-- The number of layers that keep a lighting word. -/
  layerCount : UInt8
  deriving DecidableEq, Repr

namespace Config

/-- The configuration that a build changes where it differs. -/
def default : Config where
  cpiDefault := 5
  cpiMax := 120
  scrollDivDefault := 4
  reportInterval := 8
  scrollInhibit := 50
  scrollSnap := .tension 12 100
  autoMouse := false
  autoMouseTimeout := 650
  infoInterval := 500
  infoAttempts := 10
  motionInterval := 4
  layerCount := 4

/-- The configuration of the board's standard image: scroll axes are locked by the user and
there is no auto mouse layer. -/
def board : Config := { default with scrollSnap := .lock, autoMouse := false }

/-- Whether the user selects the scroll axes. -/
def hasSnapLock (c : Config) : Bool := c.scrollSnap.isLock

end Config

end TwinBall
