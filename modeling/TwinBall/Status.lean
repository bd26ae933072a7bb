import TwinBall.Half.Settings

/-!
# Status lines

A small display shows the state of a half on lines of 21 font codes.  Codes from `0xB0` on are
icons.  A line is put together from columns of fixed width; whatever would reach past its end is
dropped.
-/

namespace TwinBall.Status

/-- The number of font codes on a line. -/
def lineWidth : Nat := 21

/-- The font codes of a text. -/
def text (s : String) : List UInt8 := s.toList.map Char.toUInt8

/-- The icon between a label and its values. -/
def labelMark : UInt8 := 0xB1

/-- The icons of a switch. -/
def switchIcons (on : Bool) : List UInt8 := if on then [0xB2, 0xB3] else [0xB4, 0xB5]

/-- The icons for axes that are not locked. -/
def freeIcons : List UInt8 := [0xBE, 0xBF]

/-- The font code of a decimal digit, the last one of `n`. -/
def digit (n : Nat) : UInt8 := 0x30 + UInt8.ofNat (n % 10)

/-- A line of columns, cut at its width. -/
def line (columns : List (List UInt8)) : List UInt8 := columns.flatten.take lineWidth

/-- A signed number in four columns, aligned to the right.  The sign stands directly before the
first digit, and only the last three digits are shown. -/
def decimal4 (value : Int16) : List UInt8 :=
  let n := value.toInt.natAbs
  let sign := if value < 0 then 0x2D else 0x20
  if n < 10 then [0x20, 0x20, sign, digit n]
  else if n < 100 then [0x20, sign, digit (n / 10), digit n]
  else [sign, digit (n / 100), digit (n / 10), digit n]

/-- The lowest four bits as a hexadecimal digit. -/
def hexDigit (x : UInt8) : UInt8 :=
  if x &&& 0x0F < 10 then 0x30 + (x &&& 0x0F) else 0x61 + (x &&& 0x0F) - 10

/-- The icons of the axes that may scroll. -/
def snapIcons (h : Half) : List UInt8 :=
  if h.config.hasSnapLock then
    match h.snap.mode with
    | .vertical => text "VT"
    | .horizontal => text "HO"
    | .free => freeIcons
  else freeIcons

/-- The axes of the last report. -/
def ballLine (h : Half) : List UInt8 :=
  let r := h.lastMouse
  line [text "Ball", [labelMark], decimal4 r.x.toInt16, decimal4 r.y.toInt16,
    decimal4 r.pan.toInt16, decimal4 r.wheel.toInt16]

/-- The settings of the ball: resolution, axes, scrolling, scroll divider. -/
def settingsLine (h : Half) : List UInt8 :=
  line [text "    ", [labelMark, 0xBC, 0xBD], (decimal4 h.cpi.toUInt16.toInt16).drop 1,
    text "00 ", snapIcons h, switchIcons h.scrolling, [0x20, 0xC0, 0xC1], [0x30 + h.scrollDiv]]

/-- The last key event and the held keys. -/
def keyLine (h : Half) : List UInt8 :=
  let code := h.lastCode.toUInt8
  line [text "Key ", [labelMark], [0xB8, hexDigit h.lastRow, 0xB9, hexDigit h.lastCol],
    [0xBA, 0xBB, hexDigit (code >>> 4), hexDigit code], text "  ", h.held.slots]

/-- The column of a layer. -/
def layerColumn (layers : UInt32) (layer : UInt8) : UInt8 :=
  if layers &&& (1 <<< layer.toUInt32) = 0 then blankGlyph else hexDigit layer

/-- The auto mouse layer: its switch and its timeout, rounded down to tens. -/
def autoMouseColumns (h : Half) : List UInt8 :=
  if h.config.autoMouse then
    [0xC2, 0xC3] ++ switchIcons h.autoMouse.enabled ++
      (decimal4 (h.autoMouse.timeout / 10).toInt16).drop 1 ++ [0x30]
  else [0xC2, 0xC3] ++ switchIcons false ++ text " ---"

/-- The active layers from 1 to 7 and the auto mouse layer. -/
def layerLine (h : Half) (layers : UInt32) : List UInt8 :=
  line [text "L", [0xB6, 0xB7], text "r", [labelMark],
    [1, 2, 3, 4, 5, 6, 7].map (layerColumn layers), [0x20], autoMouseColumns h]

/-- A signed number always takes four columns. -/
@[simp] theorem length_decimal4 (value : Int16) : (decimal4 value).length = 4 := by
  simp only [decimal4]
  split
  · rfl
  · split <;> rfl

end TwinBall.Status
