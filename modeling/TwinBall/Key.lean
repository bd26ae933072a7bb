/-!
# Key codes and key events

A key press or release arrives as a 16-bit code.  Codes from `0x7E00` on are the keyboard's own;
sixteen of them change the settings of the ball.  Codes from `0x0100` to `0x1FFF` are basic codes
wrapped in modifiers.
-/

namespace TwinBall

/-- A key that went down or up. -/
structure KeyEvent where
  /-- What the keymap assigns to the key. -/
  code : UInt16
  /-- The row of the key in the matrix. -/
  row : UInt8
  /-- The column of the key in the matrix. -/
  col : UInt8
  /-- Whether it went down. -/
  pressed : Bool
  deriving DecidableEq, Repr

/-- What a key of the keyboard's own does. -/
inductive KeyAction
  /-- All settings back to their defaults. -/
  | resetSettings
  /-- Persist the settings. -/
  | saveSettings
  /-- Resolution 100 counts per inch up. -/
  | cpiUp
  /-- Resolution 100 counts per inch down. -/
  | cpiDown
  /-- Resolution 1000 counts per inch up. -/
  | cpiUpFar
  /-- Resolution 1000 counts per inch down. -/
  | cpiDownFar
  /-- Switch between scrolling and moving. -/
  | scrollToggle
  /-- Scroll while held. -/
  | scrollHold
  /-- Scroll divider one step up. -/
  | scrollDivUp
  /-- Scroll divider one step down. -/
  | scrollDivDown
  /-- Switch the auto mouse layer on or off. -/
  | autoMouseToggle
  /-- Auto mouse timeout one step up. -/
  | autoMouseLonger
  /-- Auto mouse timeout one step down. -/
  | autoMouseShorter
  /-- Scroll vertically only. -/
  | snapVertical
  /-- Scroll horizontally only. -/
  | snapHorizontal
  /-- Scroll on both axes. -/
  | snapFree
  deriving DecidableEq, Repr

/-- The first code of the keyboard's own keys. -/
def firstOwnKey : UInt16 := 0x7E00

/-- The basic code of a code wrapped in modifiers; any other code is left as it is. -/
def stripModifiers (code : UInt16) : UInt16 :=
  if 0x0100 ≤ code ∧ code ≤ 0x1FFF then code &&& 0xFF else code

namespace KeyAction

/-- All actions, in the order of their codes. -/
def all : List KeyAction :=
  [resetSettings, saveSettings, cpiUp, cpiDown, cpiUpFar, cpiDownFar, scrollToggle, scrollHold,
    scrollDivUp, scrollDivDown, autoMouseToggle, autoMouseLonger, autoMouseShorter, snapVertical,
    snapHorizontal, snapFree]

/-- The place of an action among all actions. -/
def index : KeyAction → Nat
  | resetSettings => 0
  | saveSettings => 1
  | cpiUp => 2
  | cpiDown => 3
  | cpiUpFar => 4
  | cpiDownFar => 5
  | scrollToggle => 6
  | scrollHold => 7
  | scrollDivUp => 8
  | scrollDivDown => 9
  | autoMouseToggle => 10
  | autoMouseLonger => 11
  | autoMouseShorter => 12
  | snapVertical => 13
  | snapHorizontal => 14
  | snapFree => 15

/-- The code of an action. -/
def code (a : KeyAction) : UInt16 := firstOwnKey + UInt16.ofNat a.index

/-- The action of a code, after its modifiers are stripped. -/
def ofCode? (code : UInt16) : Option KeyAction :=
  let code := stripModifiers code
  if code < firstOwnKey then none else all[(code - firstOwnKey).toNat]?

theorem all_index (a : KeyAction) : all[a.index]? = some a := by
  cases a <;> rfl

/-- Every action is found again under its code. -/
theorem ofCode?_code (a : KeyAction) : ofCode? a.code = some a := by
  cases a <;> rfl

end KeyAction

/-- Whether a code by itself keeps the auto mouse layer on: it is the key that scrolls while
held. -/
def isMouseCode (code : UInt16) : Bool := code == KeyAction.scrollHold.code

end TwinBall
