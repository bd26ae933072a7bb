import TwinBall.Bytes
import TwinBall.Sensor
import TwinBall.Sensor.Bus

/-!
# The PMW3360 optical sensor

The sensor is driven by reading and writing registers, each access with its own timing.  Motion is
read in bursts: writing the burst register arms them, and any other register access ends them.
The driver remembers whether bursts are armed, so that consecutive readings arm only once.
-/

namespace TwinBall

namespace Pmw3360

/-! ## Registers -/

/-- Identifies the sensor. -/
def productIdRegister : UInt8 := 0x00

/-- The motion registers: status and the two counts. -/
def motionRegisters : List UInt8 := [0x02, 0x03, 0x04, 0x05, 0x06]

/-- Identifies the loaded firmware. -/
def firmwareIdRegister : UInt8 := 0x2A

/-- Holds the resolution. -/
def resolutionRegister : UInt8 := 0x0F

/-- Holds the rest modes. -/
def restModeRegister : UInt8 := 0x10

/-- Controls the loading of firmware. -/
def firmwareEnableRegister : UInt8 := 0x13

/-- Resets the sensor. -/
def resetRegister : UInt8 := 0x3A

/-- Arms and addresses motion bursts. -/
def burstRegister : UInt8 := 0x50

/-- Addresses the loading of firmware. -/
def firmwareLoadRegister : UInt8 := 0x62

/-- The bit of an address byte that makes the access a write. -/
def writeBit : UInt8 := 0x80

/-- What the product id register of this sensor holds. -/
def productId : UInt8 := 0x42

/-- The largest value of the resolution register. -/
def maxResolution : UInt8 := 0x77

/-- The number of bytes in a motion burst. -/
def burstSize : Nat := 6

/-! ## Scripts -/

/-- Reads a register. -/
def readRegister (address : UInt8) : List BusAction :=
  [.select false, .wait 1, .write [address &&& ~~~writeBit], .wait 160, .read 1, .select true,
    .wait 20]

/-- Writes a register. -/
def writeRegister (address value : UInt8) : List BusAction :=
  [.select false, .wait 1, .write [address ||| writeBit, value], .wait 35, .select true, .wait 180]

/-- Resets the sensor and reads its product id. -/
def wakeUp : List BusAction :=
  [.select true, .wait 1000] ++ writeRegister resetRegister 0x5A ++ [.wait 50000] ++
    readRegister productIdRegister

/-- Loads a firmware image, byte by byte, and reads its id. -/
def loadFirmware (image : List UInt8) : List BusAction :=
  writeRegister restModeRegister 0x00 ++ writeRegister firmwareEnableRegister 0x1D ++
    [.wait 10000] ++ writeRegister firmwareEnableRegister 0x18 ++
    [.select false, .wait 1, .write [firmwareLoadRegister ||| writeBit], .wait 15] ++
    image.flatMap (fun b => [.write [b], .wait 15]) ++ [.select true, .wait 1] ++
    readRegister firmwareIdRegister

/-- Clears motion counted before, loads the firmware image if there is one, and turns rest modes
on. -/
def setUp (image : Option (List UInt8)) : List BusAction :=
  motionRegisters.flatMap readRegister ++ (image.elim [] loadFirmware) ++
    writeRegister restModeRegister 0x00

/-- Reads a motion burst. -/
def readBurst : List BusAction :=
  [.select false, .wait 1, .write [burstRegister], .wait 35, .read burstSize, .select true,
    .wait 1]

/-- Arms motion bursts. -/
def armBurst : List BusAction := writeRegister burstRegister 0x00

/-- The movement in a burst: none without the motion bit, none with the lift bit, and none if
both counts are zero. -/
def motionOfBurst (burst : List UInt8) : Option Motion :=
  match burst with
  | [status, _, xl, xh, yl, yh] =>
    if status &&& 0x80 = 0 ∨ status &&& 0x08 ≠ 0 then none
    else
      let m : Motion := ⟨(word16 xl xh).toInt16, (word16 yl yh).toInt16⟩
      if m.isZero then none else some m
  | _ => none

end Pmw3360

/-- A PMW3360 and its driver. -/
structure Pmw3360 where
  /-- The firmware image to load at power-up, if the board ships one. -/
  firmware : Option (List UInt8)
  /-- Whether motion bursts are armed. -/
  armed : Bool
  /-- The bus to the sensor. -/
  bus : Bus
  /-- What happened on the bus, in order. -/
  events : List BusEvent
  deriving DecidableEq, Repr

namespace Pmw3360

/-- A driver that has sent nothing. -/
def new (firmware : Option (List UInt8)) : Pmw3360 := ⟨firmware, false, ⟨[], .none⟩, []⟩

/-- Runs a script.  Answers the received bytes, or `none` if a transfer failed. -/
def run (d : Pmw3360) (script : List BusAction) : Option (List UInt8) × Pmw3360 :=
  let r := d.bus.run script
  (if r.ok then some r.received else none,
    { d with bus := r.bus, events := d.events ++ r.events })

/-- Runs a script of register accesses, which ends bursts. -/
def access (d : Pmw3360) (script : List BusAction) : Option (List UInt8) × Pmw3360 :=
  { d with armed := false }.run script

/-- Resets the sensor and makes it ready, if it is there. -/
def init (d : Pmw3360) : Except SensorError Unit × Pmw3360 :=
  match d.access wakeUp with
  | (none, d) => (.error .io, d)
  | (some received, d) =>
    if received = [productId] then
      match d.access (setUp d.firmware) with
      | (none, d) => (.error .io, d)
      | (some _, d) => (.ok (), d)
    else (.error .notDetected, d)

/-- Sets the resolution register, at most to its largest value. -/
def setCpi (d : Pmw3360) (register : UInt8) : Except SensorError Unit × Pmw3360 :=
  match d.access (writeRegister resolutionRegister (min register maxResolution)) with
  | (none, d) => (.error .io, d)
  | (some _, d) => (.ok (), d)

/-- Arms motion bursts, unless they are armed. -/
def arm (d : Pmw3360) : Option Unit × Pmw3360 :=
  if d.armed then (some (), d)
  else
    match d.access armBurst with
    | (none, d) => (none, d)
    | (some _, d) => (some (), { d with armed := true })

/-- Reads the movement since the last reading. -/
def readMotion (d : Pmw3360) : Except SensorError (Option Motion) × Pmw3360 :=
  match d.arm with
  | (none, d) => (.error .io, d)
  | (some (), d) =>
    match d.run readBurst with
    | (none, d) => (.error .io, d)
    | (some burst, d) => (.ok (motionOfBurst burst), d)

instance : MotionSensor Pmw3360 where
  setCpi := setCpi
  readMotion := readMotion

end Pmw3360

end TwinBall
