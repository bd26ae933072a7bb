import TwinBall.Half.Basic
import TwinBall.Settings.Record
import TwinBall.Settings.Store

/-!
# The settings of a half

Settings are kept as they are stored: `0` stands for the default of the build wherever a default
exists.  Every change goes through a setter that keeps the stored value within its limit, also
when a stored word is taken in.
-/

namespace TwinBall.Half

/-! ## Resolution -/

/-- The resolution in use, in hundreds of counts per inch. -/
def cpi (h : Half) : UInt8 := if h.cpiStored = 0 then h.config.cpiDefault else h.cpiStored

/-- The value that the resolution register of the sensor should have. -/
def cpiRegister (h : Half) : UInt8 := if h.cpi = 0 then 0 else h.cpi - 1

/-- Sets the stored resolution, at most to the limit.  The other half and the sensor, if there is
one, have to be told. -/
def setCpi (h : Half) (v : UInt8) : Half :=
  { h with
    cpiStored := min v h.config.cpiMax
    cpiUnsent := true
    cpiUnapplied := h.cpiUnapplied || h.ownBall }

/-- Changes the resolution in use by `delta`, within what a byte can hold and never to `0`. -/
def addCpi (h : Half) (delta : Int16) : Half :=
  h.setCpi (max 1 (min 255 (h.cpi.toUInt16.toInt16 + delta))).toUInt16.toUInt8

/-! ## Scrolling -/

/-- Switches scrolling on or off at time `now`.  Only a change counts as a switch. -/
def setScrolling (h : Half) (on : Bool) (now : UInt32) : Half :=
  { h with
    scrolling := on
    scrollSwitched := if on = h.scrolling then h.scrollSwitched else now }

/-- The scroll divider exponent in use. -/
def scrollDiv (h : Half) : UInt8 :=
  if h.scrollDivStored = 0 then h.config.scrollDivDefault else h.scrollDivStored

/-- Sets the stored scroll divider exponent, at most to the limit. -/
def setScrollDiv (h : Half) (v : UInt8) : Half := { h with scrollDivStored := min v scrollDivMax }

/-- Changes the scroll divider exponent in use by `delta`, never to less than `1`. -/
def addScrollDiv (h : Half) (delta : Int8) : Half :=
  h.setScrollDiv (max 1 (h.scrollDiv.toInt8 + delta)).toUInt8

/-- The number of counts per scroll tick: the power of two that the exponent names, exponents
counting from `1`.  The shift is taken modulo the width of a count. -/
def scrollDivisor (h : Half) : Int16 :=
  ((1 : UInt16) <<< (if h.scrollDiv = 0 then 0 else h.scrollDiv - 1).toUInt16).toInt16

/-- Selects the axes that may scroll. -/
def setSnapMode (h : Half) (m : SnapMode) : Half := { h with snap := h.snap.setMode m }

/-! ## The settings word -/

/-- The settings as they are persisted.  Settings of features that the build lacks are `0`. -/
def record (h : Half) : SettingsRecord where
  cpi := h.cpiStored
  scrollDiv := h.scrollDivStored
  autoMouse := h.config.autoMouse && h.autoMouse.enabled
  autoMouseTimeout := if h.config.autoMouse then h.autoMouse.timeoutStep else 0
  scrollSnap := if h.config.hasSnapLock then h.snap.mode.code else 0

/-- Takes in a record through the setters.  Settings of features that the build lacks are
skipped. -/
def applyRecord (h : Half) (r : SettingsRecord) : Half :=
  let h := (h.setCpi r.cpi).setScrollDiv r.scrollDiv
  let h :=
    if h.config.autoMouse then
      { h with autoMouse := (h.autoMouse.setEnabled r.autoMouse).setTimeoutStep r.autoMouseTimeout }
    else h
  if h.config.hasSnapLock then h.setSnapMode (.ofCode r.scrollSnap) else h

/-- Takes in a settings word, if there is one. -/
def loadWord (h : Half) : Option UInt32 → Half
  | some word => h.applyRecord (.ofWord word)
  | none => h

variable {σ : Type} [SettingsStore σ]

/-- Takes in the settings word of a store.  Answers whether it has one. -/
def load (h : Half) (store : σ) : Bool × Half :=
  let word := SettingsStore.keyboardWord? store
  (word.isSome, h.loadWord word)

/-- Persists the settings. -/
def save (h : Half) (store : σ) : Except StorageError σ :=
  SettingsStore.putKeyboardWord store h.record.toWord

/-- Resolution, scroll divider and auto mouse layer back to their defaults. -/
def resetSettings (h : Half) : Half :=
  let h := (h.setCpi 0).setScrollDiv 0
  if h.config.autoMouse then { h with autoMouse := h.autoMouse.reset } else h

/-! ## Small facts -/

omit [SettingsStore σ]

@[simp] theorem config_setCpi (h : Half) (v : UInt8) : (h.setCpi v).config = h.config := rfl

@[simp] theorem config_setScrollDiv (h : Half) (v : UInt8) :
    (h.setScrollDiv v).config = h.config := rfl

@[simp] theorem autoMouse_setCpi (h : Half) (v : UInt8) :
    (h.setCpi v).autoMouse = h.autoMouse := rfl

@[simp] theorem autoMouse_setScrollDiv (h : Half) (v : UInt8) :
    (h.setScrollDiv v).autoMouse = h.autoMouse := rfl

@[simp] theorem snap_setCpi (h : Half) (v : UInt8) : (h.setCpi v).snap = h.snap := rfl

@[simp] theorem snap_setScrollDiv (h : Half) (v : UInt8) :
    (h.setScrollDiv v).snap = h.snap := rfl

/-- Taking in a record acts on each setting on its own. -/
theorem applyRecord_eq (h : Half) (r : SettingsRecord) :
    h.applyRecord r =
      { (h.setCpi r.cpi).setScrollDiv r.scrollDiv with
        autoMouse :=
          if h.config.autoMouse then
            (h.autoMouse.setEnabled r.autoMouse).setTimeoutStep r.autoMouseTimeout
          else h.autoMouse
        snap :=
          if h.config.hasSnapLock then h.snap.setMode (.ofCode r.scrollSnap) else h.snap } := by
  unfold applyRecord
  by_cases hauto : h.config.autoMouse = true
  · by_cases hlock : h.config.hasSnapLock = true
    · simp [hauto, hlock, setSnapMode]
    · simp [hauto, hlock]
  · by_cases hlock : h.config.hasSnapLock = true
    · simp [hauto, hlock, setSnapMode]
    · simp [hauto, hlock]
      rfl

theorem resetSettings_eq (h : Half) :
    h.resetSettings =
      { (h.setCpi 0).setScrollDiv 0 with
        autoMouse := if h.config.autoMouse then h.autoMouse.reset else h.autoMouse } := by
  unfold resetSettings
  by_cases hauto : h.config.autoMouse = true
  · simp [hauto]
  · simp [hauto]
    rfl

/-- The number of counts per tick is a power of two. -/
theorem scrollDivisor_eq (h : Half) :
    ∃ k, k < 16 ∧ h.scrollDivisor = ((1 : UInt16) <<< UInt16.ofNat k).toInt16 := by
  refine ⟨(if h.scrollDiv = 0 then 0 else h.scrollDiv - 1).toNat % 16, Nat.mod_lt _ (by decide), ?_⟩
  unfold scrollDivisor
  congr 1
  apply UInt16.toNat_inj.mp
  simp

/-- Nothing is ever divided by zero, and no quotient overflows: the number of counts per tick is
neither `0` nor `-1`. -/
theorem scrollDivisor_ne (h : Half) : h.scrollDivisor ≠ 0 ∧ h.scrollDivisor ≠ -1 := by
  obtain ⟨k, hk, e⟩ := h.scrollDivisor_eq
  rw [e]
  have all : ∀ k < 16, ((1 : UInt16) <<< UInt16.ofNat k).toInt16 ≠ 0 ∧
      ((1 : UInt16) <<< UInt16.ofNat k).toInt16 ≠ -1 := by decide
  exact all k hk

end TwinBall.Half
