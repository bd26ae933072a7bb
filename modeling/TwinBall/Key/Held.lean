import TwinBall.Key

/-!
# Held keys

The status display shows up to six held keys, one font glyph each.  A press takes the first free
slot, a release frees the first slot with the glyph of its key.  Presses that find no free slot
are not shown.
-/

namespace TwinBall

/-- The glyph of a free slot. -/
def blankGlyph : UInt8 := 0xB0

/-- The glyphs of the key codes from `4` on: letters, digits, `R` for return, `E` for escape,
`B` for backspace, `T` for tab, `_` for the space bar, and punctuation. -/
def glyphs : List UInt8 :=
  "abcdefghijklmnopqrstuvwxyz1234567890REBT_-=[]\\#;'`,./".toList.map Char.toUInt8

/-- The glyph of a key code, if it has one. -/
def glyph? (code : UInt16) : Option UInt8 :=
  if code < 4 then none else glyphs[(code - 4).toNat]?

/-- The list `l` with the first `old` in it replaced by `new`. -/
def replaceFirst (old new : UInt8) : List UInt8 → List UInt8
  | [] => []
  | g :: l => if g = old then new :: l else g :: replaceFirst old new l

@[simp] theorem length_replaceFirst (old new : UInt8) (l : List UInt8) :
    (replaceFirst old new l).length = l.length := by
  induction l with
  | nil => rfl
  | cons g l ih =>
    unfold replaceFirst
    split
    · rfl
    · simp [ih]

/-- The six slots of the display. -/
structure HeldKeys where
  /-- The glyph shown in each slot. -/
  slots : List UInt8
  /-- There are six slots. -/
  length_slots : slots.length = 6
  deriving DecidableEq, Repr

namespace HeldKeys

/-- No key is held. -/
def empty : HeldKeys := ⟨List.replicate 6 blankGlyph, rfl⟩

/-- The slots with the first `old` replaced by `new`. -/
def replace (h : HeldKeys) (old new : UInt8) : HeldKeys :=
  ⟨replaceFirst old new h.slots, by rw [length_replaceFirst, h.length_slots]⟩

/-- The slots after a key went down or up.  Keys without a glyph change nothing. -/
def update (h : HeldKeys) (code : UInt16) (pressed : Bool) : HeldKeys :=
  match glyph? code with
  | none => h
  | some g => if pressed then h.replace blankGlyph g else h.replace g blankGlyph

end HeldKeys

end TwinBall
