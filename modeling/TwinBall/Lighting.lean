import TwinBall.Settings.Store

/-!
# Lighting from the host tool

The host tool changes the lighting with small packets: a command, a value id and value bytes.
Brightness, effect, speed and color can be set and read; a save keeps the current lighting as one
word for the highest active layer, and the lighting of a layer comes back when the layer does.

Packets that are too short for their command, or that name no known command or value, are ignored.
-/

namespace TwinBall

/-- States of a lighting driver.  Setters do not persist anything. -/
class Lighting (L : Type) where
  /-- Brightness. -/
  val : L → UInt8
  /-- The effect. -/
  mode : L → UInt8
  /-- The speed of the effect. -/
  speed : L → UInt8
  /-- The hue of the color. -/
  hue : L → UInt8
  /-- The saturation of the color. -/
  sat : L → UInt8
  /-- Sets hue, saturation and brightness. -/
  setHsv : L → UInt8 → UInt8 → UInt8 → L
  /-- Sets the effect. -/
  setMode : L → UInt8 → L
  /-- Turns the lighting on or off. -/
  setEnabled : L → Bool → L
  /-- Sets the speed of the effect. -/
  setSpeed : L → UInt8 → L
  /-- The current lighting as one word. -/
  configWord : L → UInt32
  /-- Replaces the current lighting by that of a word. -/
  applyConfigWord : L → UInt32 → L
  /-- Makes the current lighting the one at power-on. -/
  persist : L → L

/-- What a packet asks for. -/
inductive LightingCommand
  /-- Set a value. -/
  | setValue
  /-- Read a value into the packet. -/
  | getValue
  /-- Keep the current lighting for the highest active layer. -/
  | save
  deriving DecidableEq, Repr

/-- The command of a byte. -/
def LightingCommand.ofCode? (c : UInt8) : Option LightingCommand :=
  if c = 0x07 then some setValue else if c = 0x08 then some getValue
  else if c = 0x09 then some save else none

/-- What a packet can set and read. -/
inductive LightingValue
  | brightness
  | effect
  | effectSpeed
  | color
  deriving DecidableEq, Repr

/-- The value of a byte. -/
def LightingValue.ofCode? (c : UInt8) : Option LightingValue :=
  if c = 0x80 then some brightness else if c = 0x81 then some effect
  else if c = 0x82 then some effectSpeed else if c = 0x83 then some color else none

namespace Lighting

variable {L : Type} [Lighting L]

/-- The highest active layer of a layer state, one bit per layer; `0` if no layer is active. -/
def highestLayer (layers : UInt32) : UInt8 := layers.log2.toUInt8

/-- Sets the value that the bytes after the command name: a value id, then one value byte, or two
for a color.  An effect also turns the lighting on, and effect `0` turns it off. -/
def setValue (l : L) (data : List UInt8) : L :=
  match data with
  | code :: v :: rest =>
    match LightingValue.ofCode? code, rest with
    | some .brightness, _ => setHsv l (hue l) (sat l) v
    | some .effect, _ => setEnabled (setMode l v) (v != 0)
    | some .effectSpeed, _ => setSpeed l v
    | some .color, s :: _ => setHsv l v s (val l)
    | _, _ => l
  | _ => l

/-- Writes the value that the bytes after the command name over the value bytes. -/
def getValue (l : L) (data : List UInt8) : List UInt8 :=
  match data with
  | code :: v :: rest =>
    match LightingValue.ofCode? code, rest with
    | some .brightness, _ => code :: val l :: rest
    | some .effect, _ => code :: mode l :: rest
    | some .effectSpeed, _ => code :: speed l :: rest
    | some .color, _ :: rest => code :: hue l :: sat l :: rest
    | _, _ => code :: v :: rest
  | _ => data

variable {σ : Type} [SettingsStore σ]

/-- Keeps the current lighting as the word of a layer and as the one at power-on.  Nothing changes
if there is no such layer or the store refuses. -/
def save (layerCount : UInt8) (l : L) (store : σ) (layer : UInt8) : Except StorageError (L × σ) :=
  if layer ≥ layerCount then .error .outOfRange
  else (SettingsStore.putLayerWord store layer (configWord l)).map fun store => (persist l, store)

/-- What handling a packet came to. -/
structure Received (L σ : Type) where
  /-- Whether a save was refused. -/
  result : Except StorageError Unit
  /-- The packet, which holds the answer to a read. -/
  packet : List UInt8
  /-- The lighting afterwards. -/
  light : L
  /-- The store afterwards. -/
  store : σ

/-- Handles a packet of the host tool under a layer state. -/
def receive (layerCount : UInt8) (l : L) (store : σ) (packet : List UInt8) (layers : UInt32) :
    Received L σ :=
  match packet with
  | [] => ⟨.ok (), [], l, store⟩
  | command :: data =>
    match LightingCommand.ofCode? command with
    | none => ⟨.ok (), packet, l, store⟩
    | some .setValue => ⟨.ok (), packet, setValue l data, store⟩
    | some .getValue => ⟨.ok (), command :: getValue l data, l, store⟩
    | some .save =>
      match save layerCount l store (highestLayer layers) with
      | .ok (l, store) => ⟨.ok (), packet, l, store⟩
      | .error e => ⟨.error e, packet, l, store⟩

/-- Brings back the lighting of the highest active layer, if that layer has one. -/
def changeLayer (layerCount : UInt8) (l : L) (store : σ) (layers : UInt32) : L :=
  let layer := highestLayer layers
  if layer ≥ layerCount then l
  else
    match SettingsStore.layerWord? store layer with
    | some word => applyConfigWord l word
    | none => l

end Lighting

/-- What is asked of a lighting driver. -/
inductive LampCall
  /-- Set hue, saturation and brightness. -/
  | setHsv (hue sat val : UInt8)
  /-- Set the effect. -/
  | setMode (mode : UInt8)
  /-- Turn on or off. -/
  | setEnabled (on : Bool)
  /-- Set the speed of the effect. -/
  | setSpeed (speed : UInt8)
  /-- Replace the lighting by that of a word. -/
  | apply (word : UInt32)
  /-- Make the lighting the one at power-on. -/
  | persist
  deriving DecidableEq, Repr

/-- A lighting driver that keeps its values in memory, and what was asked of it.  Its word holds
effect, hue, saturation and brightness, the effect in the low byte. -/
structure Lamp where
  /-- The hue of the color. -/
  hue : UInt8
  /-- The saturation of the color. -/
  sat : UInt8
  /-- Brightness. -/
  val : UInt8
  /-- The effect. -/
  mode : UInt8
  /-- The speed of the effect. -/
  speed : UInt8
  /-- Whether it is on. -/
  enabled : Bool
  /-- What was asked so far, in order. -/
  calls : List LampCall
  deriving DecidableEq, Repr

namespace Lamp

/-- A lamp that is off. -/
def initial : Lamp := ⟨0, 0, 0, 0, 0, false, []⟩

/-- The lamp after something was asked of it. -/
def note (l : Lamp) (call : LampCall) : Lamp := { l with calls := l.calls ++ [call] }

/-- The word of the current lighting. -/
def configWord (l : Lamp) : UInt32 :=
  l.mode.toUInt32 ||| (l.hue.toUInt32 <<< 8) ||| (l.sat.toUInt32 <<< 16) ||| (l.val.toUInt32 <<< 24)

/-- The lamp with the lighting of a word. -/
def applyConfigWord (l : Lamp) (word : UInt32) : Lamp :=
  { l with
    mode := word.toUInt8
    hue := (word >>> 8).toUInt8
    sat := (word >>> 16).toUInt8
    val := (word >>> 24).toUInt8 }

instance : Lighting Lamp where
  val := val
  mode := mode
  speed := speed
  hue := hue
  sat := sat
  setHsv l h s v := { l with hue := h, sat := s, val := v }.note (.setHsv h s v)
  setMode l m := { l with mode := m }.note (.setMode m)
  setEnabled l on := { l with enabled := on }.note (.setEnabled on)
  setSpeed l s := { l with speed := s }.note (.setSpeed s)
  configWord := configWord
  applyConfigWord l word := (l.applyConfigWord word).note (.apply word)
  persist l := l.note .persist

end Lamp

end TwinBall
