import TwinBall.Proofs.Half.Persistence
import TwinBall.Proofs.Motion.Checked

/-!
# Checked settings

The operations ending in `?` are those on the settings of a half, with every resolution, scroll
divider and timeout computed in the integers.  One that its type does not hold leaves them without a
result.

In a build whose defaults are within the limits (`Config.Valid`) every setting in use is within the
limits too (`InRange.cpi_mem`, `InRange.scrollDiv_mem`), and this is what the computations need:
each has its result, which is that of the operation without the checks.
-/

namespace TwinBall

/-- A build whose defaults are within the limits. -/
structure Config.Valid (config : Config) : Prop where
  cpi_pos : 1 ≤ config.cpiDefault
  cpi_le : config.cpiDefault ≤ config.cpiMax
  scrollDiv_pos : 1 ≤ config.scrollDivDefault
  scrollDiv_le : config.scrollDivDefault ≤ 7
  timeout_min : 100 ≤ config.autoMouseTimeout
  timeout_max : config.autoMouseTimeout ≤ 1000

open MachineInt (ofInt? ofInt?_eq_some)

/-! ## The auto mouse layer -/

namespace AutoMouse

variable {a : AutoMouse}

/-- The stored step of the timeout. -/
def timeoutStep? (a : AutoMouse) : Option UInt8 :=
  ofInt? UInt8 (a.timeout.toNat / 50 - 1)

theorem timeoutStep?_eq_some (hmin : minTimeout ≤ a.timeout) (hmax : a.timeout ≤ maxTimeout) :
    a.timeoutStep? = some a.timeoutStep := by
  obtain ⟨hstep, -, -⟩ := toNat_timeoutStep hmin hmax
  refine ofInt?_eq_some ?_
  show (a.timeoutStep.toNat : Int) = a.timeout.toNat / 50 - 1
  omega

/-- Sets the timeout from a stored step. -/
def setTimeoutStep? (a : AutoMouse) (q : UInt8) : Option AutoMouse := do
  if q = 0 then return { a with timeout := a.defaultTimeout }
  let quanta ← ofInt? UInt16 (q.toNat + 1)
  let ms ← ofInt? UInt16 (quanta.toNat * 50)
  return a.setTimeout ms

/-- A byte of quanta is less than 16 bits of milliseconds. -/
theorem setTimeoutStep?_eq_some (a : AutoMouse) (q : UInt8) :
    a.setTimeoutStep? q = some (a.setTimeoutStep q) := by
  have hq := q.toNat_lt
  have hone : (q.toUInt16 + 1).toNat = q.toNat + 1 := by
    rw [UInt16.toNat_add, UInt8.toNat_toUInt16]
    exact Nat.mod_eq_of_lt (show q.toNat + 1 < 2 ^ 16 by omega)
  have hquanta : ofInt? UInt16 (q.toNat + 1) = some (q.toUInt16 + 1) :=
    ofInt?_eq_some (congrArg Nat.cast hone)
  have hms : ofInt? UInt16 ((q.toUInt16 + 1).toNat * 50) = some ((q.toUInt16 + 1) * quantum) := by
    refine ofInt?_eq_some (congrArg Nat.cast ?_)
    rw [UInt16.toNat_mul, hone]
    exact Nat.mod_eq_of_lt (show (q.toNat + 1) * 50 < 2 ^ 16 by omega)
  unfold setTimeoutStep? setTimeoutStep
  split
  · rfl
  · simp only [hquanta, hms, Option.bind_eq_bind, Option.bind_some, Option.pure_def]

/-- Moves the timeout one step up or down. -/
def step? (a : AutoMouse) (up : Bool) : Option AutoMouse := do
  let ms ← ofInt? UInt16 (if up then a.timeout.toNat + 50 else a.timeout.toNat - 50)
  return a.setTimeout ms

theorem step?_eq_some (hmin : minTimeout ≤ a.timeout) (hmax : a.timeout ≤ maxTimeout)
    (up : Bool) : a.step? up = some (a.step up) := by
  have hlow : 100 ≤ a.timeout.toNat := UInt16.le_iff_toNat_le.mp hmin
  have hhigh : a.timeout.toNat ≤ 1000 := UInt16.le_iff_toNat_le.mp hmax
  have hms : ofInt? UInt16 (if up then a.timeout.toNat + 50 else a.timeout.toNat - 50) =
      some (a.steppedTimeout up) := by
    refine ofInt?_eq_some ?_
    show ((a.steppedTimeout up).toNat : Int) = _
    cases up with
    | true =>
      have hroom : a.timeout ≤ 65535 - quantum := UInt16.le_trans hmax (by decide)
      have hsum : (a.timeout + quantum).toNat = a.timeout.toNat + 50 := by
        rw [UInt16.toNat_add]
        exact Nat.mod_eq_of_lt (show a.timeout.toNat + 50 < 2 ^ 16 by omega)
      rw [steppedTimeout, if_pos rfl, if_pos hroom, if_pos rfl, hsum]
      rfl
    | false =>
      have hroom : quantum ≤ a.timeout := UInt16.le_trans (by decide) hmin
      have hdiff : (a.timeout - quantum).toNat = a.timeout.toNat - 50 :=
        UInt16.toNat_sub_of_le _ _ hroom
      rw [steppedTimeout, if_neg nofun, if_pos hroom, if_neg nofun, hdiff]
      omega
  simp only [step?, hms, Option.bind_eq_bind, Option.bind_some, Option.pure_def, step]

end AutoMouse

/-! ## Settings -/

namespace Half

variable {config : Config} {h : Half}

theorem one_le_of_ne_zero {b : UInt8} (hne : b ≠ 0) : 1 ≤ b := by
  rw [UInt8.le_iff_toNat_le]
  exact Nat.pos_of_ne_zero fun hzero => hne (UInt8.toNat_inj.mp hzero)

theorem InRange.cpi_mem (hr : h.InRange config) (hvalid : config.Valid) :
    1 ≤ h.cpi ∧ h.cpi ≤ config.cpiMax := by
  unfold Half.cpi
  split
  · rw [hr.build]
    exact ⟨hvalid.cpi_pos, hvalid.cpi_le⟩
  · next hne => exact ⟨one_le_of_ne_zero hne, hr.cpi⟩

theorem InRange.scrollDiv_mem_of_default (hr : h.InRange config)
    (hpos : 1 ≤ config.scrollDivDefault) (hle : config.scrollDivDefault ≤ scrollDivMax) :
    1 ≤ h.scrollDiv ∧ h.scrollDiv ≤ 7 := by
  unfold Half.scrollDiv
  split
  · rw [hr.build]
    exact ⟨hpos, hle⟩
  · next hne => exact ⟨one_le_of_ne_zero hne, hr.scrollDiv⟩

theorem InRange.scrollDiv_mem (hr : h.InRange config) (hvalid : config.Valid) :
    1 ≤ h.scrollDiv ∧ h.scrollDiv ≤ 7 :=
  hr.scrollDiv_mem_of_default hvalid.scrollDiv_pos hvalid.scrollDiv_le

theorem toNat_cpiRegister (hpos : 1 ≤ h.cpi) : h.cpiRegister.toNat + 1 = h.cpi.toNat := by
  have hne : h.cpi ≠ 0 := by
    intro hzero
    rw [hzero] at hpos
    exact absurd hpos (by decide)
  have hone : 1 ≤ h.cpi.toNat := UInt8.le_iff_toNat_le.mp hpos
  have hminus : (h.cpi - 1).toNat = h.cpi.toNat - 1 := UInt8.toNat_sub_of_le _ _ hpos
  rw [cpiRegister, if_neg hne, hminus]
  omega

/-- The value that the resolution register of the sensor should have. -/
def cpiRegister? (h : Half) : Option UInt8 := ofInt? UInt8 (h.cpi.toNat - 1)

theorem cpiRegister?_eq_some (hpos : 1 ≤ h.cpi) : h.cpiRegister? = some h.cpiRegister := by
  have hregister := toNat_cpiRegister hpos
  refine ofInt?_eq_some ?_
  show (h.cpiRegister.toNat : Int) = _
  omega

/-- Changes the resolution in use. -/
def addCpi? (h : Half) (delta : Int16) : Option Half := do
  let sum ← ofInt? Int16 (h.cpi.toNat + delta.toInt)
  let next ← ofInt? UInt8 (max 1 (min 255 sum)).toInt
  return h.setCpi next

theorem addCpi?_eq_some (h : Half) {delta : Int16} (hdelta : delta.toInt ≤ 32512) :
    h.addCpi? delta = some (h.addCpi delta) := by
  have hcpi := h.cpi.toNat_lt
  have hlow := delta.le_toInt
  have hsum : ofInt? Int16 (h.cpi.toNat + delta.toInt) =
      some (h.cpi.toUInt16.toInt16 + delta) := by
    refine ofInt?_eq_some ?_
    show (h.cpi.toUInt16.toInt16 + delta).toInt = _
    rw [Int16.toInt_add, toInt_widen]
    exact Int.bmod_eq_of_le (by omega) (by omega)
  have hnext : ∀ sum : Int16, ofInt? UInt8 (max 1 (min 255 sum)).toInt =
      some (max 1 (min 255 sum)).toUInt16.toUInt8 := fun sum => by
    have hclamp := toInt_clamp16 sum
    exact ofInt?_eq_some (toNat_narrow (by omega) (by omega))
  simp only [addCpi?, hsum, hnext, Option.bind_eq_bind, Option.bind_some, Option.pure_def, addCpi]

/-- Changes the scroll divider exponent in use. -/
def addScrollDiv? (h : Half) (delta : Int8) : Option Half := do
  let exponent ← ofInt? Int8 h.scrollDiv.toNat
  let sum ← ofInt? Int8 (exponent.toInt + delta.toInt)
  let next ← ofInt? UInt8 (max 1 sum).toInt
  return h.setScrollDiv next

theorem addScrollDiv?_eq_some (hdiv : h.scrollDiv ≤ 7) {delta : Int8}
    (hdelta : delta.toInt ≤ 120) : h.addScrollDiv? delta = some (h.addScrollDiv delta) := by
  have hseven : h.scrollDiv.toNat ≤ 7 := UInt8.le_iff_toNat_le.mp hdiv
  have hlow := delta.le_toInt
  have hsigned : h.scrollDiv.toInt8.toInt = h.scrollDiv.toNat := toInt_toInt8 (by omega)
  have hsum : ofInt? Int8 (h.scrollDiv.toInt8.toInt + delta.toInt) =
      some (h.scrollDiv.toInt8 + delta) := by
    refine ofInt?_eq_some ?_
    show (h.scrollDiv.toInt8 + delta).toInt = _
    rw [Int8.toInt_add, hsigned]
    exact Int.bmod_eq_of_le (by omega) (by omega)
  have hnext : ∀ sum : Int8, ofInt? UInt8 (max 1 sum).toInt = some (max 1 sum).toUInt8 :=
    fun sum => by
      have hmax := toInt_max8 sum
      exact ofInt?_eq_some (toNat_toUInt8 (by omega))
  simp only [addScrollDiv?, ofInt?_eq_some (α := Int8) hsigned, hsum, hnext, Option.bind_eq_bind,
    Option.bind_some, Option.pure_def, addScrollDiv]

/-- The number of counts per scroll tick. -/
def scrollDivisor? (h : Half) : Option Int16 := do
  let shift ← ofInt? UInt8 (h.scrollDiv.toNat - 1)
  ofInt? Int16 (2 ^ shift.toNat)

theorem toInt_scrollDivisor (hpos : 1 ≤ h.scrollDiv) (hle : h.scrollDiv ≤ 7) :
    h.scrollDivisor.toInt = 2 ^ (h.scrollDiv.toNat - 1) := by
  have all : ∀ n < 8, 1 ≤ n → ((1 : UInt16) <<<
      (if UInt8.ofNat n = 0 then 0 else UInt8.ofNat n - 1).toUInt16).toInt16.toInt =
        2 ^ (n - 1) := by decide
  have hpower := all h.scrollDiv.toNat (Nat.lt_succ_of_le (UInt8.le_iff_toNat_le.mp hle))
    (UInt8.le_iff_toNat_le.mp hpos)
  rw [UInt8.ofNat_toNat] at hpower
  exact hpower

theorem scrollDivisor?_eq_some (hpos : 1 ≤ h.scrollDiv) (hle : h.scrollDiv ≤ 7) :
    h.scrollDivisor? = some h.scrollDivisor := by
  have hone : 1 ≤ h.scrollDiv.toNat := UInt8.le_iff_toNat_le.mp hpos
  have hminus : (h.scrollDiv - 1).toNat = h.scrollDiv.toNat - 1 := UInt8.toNat_sub_of_le _ _ hpos
  have hshift : ofInt? UInt8 (h.scrollDiv.toNat - 1) = some (h.scrollDiv - 1) := by
    refine ofInt?_eq_some ?_
    show ((h.scrollDiv - 1).toNat : Int) = _
    omega
  have hpower : ofInt? Int16 (2 ^ (h.scrollDiv - 1).toNat) = some h.scrollDivisor := by
    rw [hminus]
    exact ofInt?_eq_some (toInt_scrollDivisor hpos hle)
  simp only [scrollDivisor?, hshift, hpower, Option.bind_eq_bind, Option.bind_some]

/-! ## Records -/

/-- Takes in a record. -/
def applyRecord? (h : Half) (r : SettingsRecord) : Option Half := do
  let h := (h.setCpi r.cpi).setScrollDiv r.scrollDiv
  let h ←
    if h.config.autoMouse then do
      let a ← (h.autoMouse.setEnabled r.autoMouse).setTimeoutStep? r.autoMouseTimeout
      some { h with autoMouse := a }
    else some h
  return if h.config.hasSnapLock then h.setSnapMode (.ofCode r.scrollSnap) else h

theorem applyRecord?_eq_some (h : Half) (r : SettingsRecord) :
    h.applyRecord? r = some (h.applyRecord r) := by
  unfold applyRecord? applyRecord
  simp only [AutoMouse.setTimeoutStep?_eq_some, Option.bind_eq_bind, Option.bind_some,
    Option.pure_def]
  split
  · rfl
  · rfl

/-- Takes in a settings word, if there is one. -/
def loadWord? (h : Half) : Option UInt32 → Option Half
  | some word => h.applyRecord? (.ofWord word)
  | none => some h

theorem loadWord?_eq_some (h : Half) (word : Option UInt32) :
    h.loadWord? word = some (h.loadWord word) := by
  cases word with
  | none => rfl
  | some word => exact h.applyRecord?_eq_some _

/-- The settings as they are persisted. -/
def record? (h : Half) : Option SettingsRecord := do
  let step ← if h.config.autoMouse then h.autoMouse.timeoutStep? else some 0
  return { h.record with autoMouseTimeout := step }

theorem InRange.record?_eq_some (hr : h.InRange config) (hvalid : config.Valid) :
    h.record? = some h.record := by
  obtain ⟨hmin, hmax⟩ := hr.timeout_mem ⟨hvalid.timeout_min, hvalid.timeout_max⟩
  simp only [record?, record, AutoMouse.timeoutStep?_eq_some hmin hmax, Option.bind_eq_bind,
    Option.pure_def]
  split
  · rfl
  · rfl

variable {σ : Type} [SettingsStore σ]

/-- Persists the settings. -/
def save? (h : Half) (store : σ) : Option (Except StorageError σ) := do
  let r ← h.record?
  return SettingsStore.putKeyboardWord store r.toWord

theorem InRange.save?_eq_some (hr : h.InRange config) (hvalid : config.Valid) (store : σ) :
    h.save? store = some (h.save store) := by
  simp only [save?, hr.record?_eq_some hvalid, Option.bind_eq_bind, Option.bind_some,
    Option.pure_def, save]

end Half

end TwinBall
