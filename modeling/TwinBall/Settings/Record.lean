/-!
# The settings word

The settings of a half are persisted as one 32-bit word:

| bits   | field                                             |
|--------|---------------------------------------------------|
| 0..7   | resolution, `0` for the default                   |
| 7..10  | scroll divider exponent, `0` for the default      |
| 10     | auto mouse layer on                               |
| 11..16 | auto mouse timeout step, `0` for the default      |
| 16..18 | scroll snap mode                                  |

A field holds as many low bits of its value as it is wide.  Limits are the business of the
setters that take a record in, not of the word.
-/

namespace TwinBall

/-- A range of bits in a word. -/
structure BitField where
  /-- The lowest bit. -/
  shift : UInt32
  /-- The number of bits. -/
  width : UInt32
  deriving DecidableEq, Repr

namespace BitField

/-- As many low bits as the field is wide. -/
def mask (f : BitField) : UInt32 := (1 <<< f.width) - 1

/-- The value of the field in a word. -/
def get (f : BitField) (word : UInt32) : UInt8 := ((word >>> f.shift) &&& f.mask).toUInt8

/-- The word with the low bits of `value` in the field. -/
def put (f : BitField) (word : UInt32) (value : UInt8) : UInt32 :=
  (word &&& ~~~(f.mask <<< f.shift)) ||| ((value.toUInt32 &&& f.mask) <<< f.shift)

end BitField

/-- The settings that are persisted, unpacked. -/
structure SettingsRecord where
  /-- The stored resolution. -/
  cpi : UInt8
  /-- The stored scroll divider exponent. -/
  scrollDiv : UInt8
  /-- Whether the auto mouse layer is on. -/
  autoMouse : Bool
  /-- The timeout step of the auto mouse layer. -/
  autoMouseTimeout : UInt8
  /-- The number of the scroll snap mode. -/
  scrollSnap : UInt8
  deriving DecidableEq, Repr

namespace SettingsRecord

/-- Where the resolution lies. -/
def cpiField : BitField := ⟨0, 7⟩

/-- Where the scroll divider exponent lies. -/
def scrollDivField : BitField := ⟨7, 3⟩

/-- Where the switch of the auto mouse layer lies. -/
def autoMouseField : BitField := ⟨10, 1⟩

/-- Where the timeout step of the auto mouse layer lies. -/
def autoMouseTimeoutField : BitField := ⟨11, 5⟩

/-- Where the scroll snap mode lies. -/
def scrollSnapField : BitField := ⟨16, 2⟩

/-- The record that a word holds. -/
def ofWord (word : UInt32) : SettingsRecord where
  cpi := cpiField.get word
  scrollDiv := scrollDivField.get word
  autoMouse := autoMouseField.get word != 0
  autoMouseTimeout := autoMouseTimeoutField.get word
  scrollSnap := scrollSnapField.get word

/-- The word that holds a record. -/
def toWord (r : SettingsRecord) : UInt32 :=
  let word := cpiField.put 0 r.cpi
  let word := scrollDivField.put word r.scrollDiv
  let word := autoMouseField.put word r.autoMouse.toUInt8
  let word := autoMouseTimeoutField.put word r.autoMouseTimeout
  scrollSnapField.put word r.scrollSnap

end SettingsRecord

end TwinBall
