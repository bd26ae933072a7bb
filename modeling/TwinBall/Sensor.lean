import TwinBall.Motion

/-!
# Motion sensors

A sensor counts the movement of a ball since it was last read, and its resolution can be set.
-/

namespace TwinBall

/-- Why a sensor could not be used. -/
inductive SensorError
  /-- The bus failed. -/
  | io
  /-- Something else answered, or nothing did. -/
  | notDetected
  deriving DecidableEq, Repr

/-- States of a sensor. -/
class MotionSensor (σ : Type) where
  /-- Sets the resolution register. -/
  setCpi : σ → UInt8 → Except SensorError Unit × σ
  /-- The movement since the last reading, `none` if the ball rested. -/
  readMotion : σ → Except SensorError (Option Motion) × σ

/-- What is asked of a sensor. -/
inductive SensorCall
  /-- The resolution register should be set to a value. -/
  | setCpi (register : UInt8)
  /-- The movement should be read. -/
  | readMotion
  deriving DecidableEq, Repr

/-- A sensor whose answers are given in advance, and which keeps what was asked of it. -/
structure ScriptedSensor where
  /-- What setting the resolution answers. -/
  cpi : Except SensorError Unit
  /-- What a reading answers. -/
  motion : Except SensorError (Option Motion)
  /-- What was asked so far, in order. -/
  calls : List SensorCall

namespace ScriptedSensor

instance : MotionSensor ScriptedSensor where
  setCpi s register := (s.cpi, { s with calls := s.calls ++ [.setCpi register] })
  readMotion s := (s.motion, { s with calls := s.calls ++ [.readMotion] })

end ScriptedSensor

end TwinBall
