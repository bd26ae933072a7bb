import TwinBall.Proofs.Half.CheckedSettings
import TwinBall.Status

/-!
# Settings in range and exact arithmetic

Keys, reports and all other operations of a half are checked like those on its settings: a
resolution, scroll divider, timeout or number of ticks that its type does not hold leaves them
without a result, and so does a division by zero.

In a half that came about by any calls, no check ever fails, and what an operation does is what it
does without the checks (`settings_stay_in_range`).
-/

namespace TwinBall

open MachineInt (ofInt? ofInt?_eq_some)

namespace Half

variable {config : Config} {h : Half}

variable {σ : Type} [SettingsStore σ]

/-! ## Keys -/

/-- The half after the press of an action's key.  An action that is not listed computes nothing. -/
def act? (h : Half) (a : KeyAction) (now : UInt32) : Option Half :=
  match a with
  | .cpiUp => h.addCpi? 1
  | .cpiDown => h.addCpi? (-1)
  | .cpiUpFar => h.addCpi? 10
  | .cpiDownFar => h.addCpi? (-10)
  | .scrollDivUp => h.addScrollDiv? 1
  | .scrollDivDown => h.addScrollDiv? (-1)
  | .autoMouseLonger => (h.autoMouse.step? true).map fun a => { h with autoMouse := a }
  | .autoMouseShorter => (h.autoMouse.step? false).map fun a => { h with autoMouse := a }
  | a => some (h.act a now)

/-- The store after the press of an action's key. -/
def actStore? (h : Half) (a : KeyAction) (store : σ) : Option σ :=
  match a with
  | .saveSettings => (h.save? store).map fun
    | .ok store => store
    | .error _ => store
  | _ => some store

/-- Acts on a key event that was noted and not kept by the keyboard. -/
def dispatch? (h : Half) (e : KeyEvent) (store : σ) (now : UInt32) : Option (Bool × Half × σ) :=
  match KeyAction.ofCode? e.code with
  | none => some (true, h, store)
  | some .scrollHold => some (true, h.setScrolling e.pressed now, store)
  | some a =>
    if e.pressed && h.hasFeature a then do
      let g ← h.act? a now
      let saved ← h.actStore? a store
      return (false, g, saved)
    else some (true, h, store)

/-- Takes in a key event. -/
def key? (h : Half) (policy : Policy) (e : KeyEvent) (store : σ) (now : UInt32) :
    Option (Bool × Half × σ) :=
  let h := h.noteKey e
  if policy.admits e then h.dispatch? e store now else some (false, h, store)

/-! ## The sensor and reports -/

/-- Tells the sensor the resolution, if it has yet to be told. -/
def applyCpi? {τ : Type} [MotionSensor τ] (h : Half) (sensor : τ) :
    Option (Except SensorError Unit × Half × τ) :=
  if h.cpiUnapplied then do
    let register ← h.cpiRegister?
    match MotionSensor.setCpi sensor register with
    | (.ok (), sensor) => return (.ok (), { h with cpiUnapplied := false }, sensor)
    | (.error e, sensor) => return (.error e, h, sensor)
  else some (.ok (), h, sensor)

/-- Reads the sensor into this half's accumulator, after telling it the resolution. -/
def poll? {τ : Type} [MotionSensor τ] (h : Half) (sensor : τ) :
    Option (Except SensorError Unit × Half × τ) :=
  if h.ownBall then do
    match ← h.applyCpi? sensor with
    | (.error e, h, sensor) => return (.error e, h, sensor)
    | (.ok (), h, sensor) =>
      match MotionSensor.readMotion sensor with
      | (.error e, sensor) => return (.error e, h, sensor)
      | (.ok none, sensor) => return (.ok (), h, sensor)
      | (.ok (some m), sensor) => return (.ok (), h.accumulate .own m, sensor)
  else some (.ok (), h, sensor)

/-- Drains the motion of a ball into a report. -/
def drainInto? (h : Half) (policy : Policy) (ball : Ball) (r : Report) (now : UInt32) :
    Option (Half × Report × Notice) :=
  if h.isScrolling ball then do
    let divisor ← h.scrollDivisor?
    let (ticks, rest) ← (h.motion ball).drainExactly? divisor
    let (snap, r) := h.snap.apply (policy.mapScroll ticks r (h.isLeftBall ball)) now
    return ({ h.setMotion ball rest with snap := snap }, r, .scroll ticks (h.isLeftBall ball))
  else some (h.drainInto policy ball r now)

/-- Drains the motion of both balls into a report. -/
def drainBoth? (h : Half) (policy : Policy) (r : Report) (now : UInt32) : Option Reported := do
  let (h, r, first) ← h.drainInto? policy .own r now
  let (h, r, second) ← h.drainInto? policy .peer r now
  return ⟨true, r, [first, second], { h with lastMouse := r }⟩

/-- Completes a report. -/
def makeReport? (h : Half) (policy : Policy) (r : Report) (now : UInt32) : Option Reported :=
  if h.role = .primary ∧ h.isReportDue now then
    ((h.noteReport now).inhibit now).drainBoth? policy r now
  else some ⟨false, r, [], h⟩

/-! ## Within the limits nothing is lost -/

section Exact

variable (hr : h.InRange config) (hvalid : config.Valid)

include hr hvalid

theorem InRange.act?_eq_some (a : KeyAction) (now : UInt32) :
    h.act? a now = some (h.act a now) := by
  obtain ⟨hmin, hmax⟩ := hr.timeout_mem ⟨hvalid.timeout_min, hvalid.timeout_max⟩
  have hdiv := (hr.scrollDiv_mem hvalid).2
  have hstep : ∀ up, (h.autoMouse.step? up).map (fun a => { h with autoMouse := a }) =
      some { h with autoMouse := h.autoMouse.step up } := fun up => by
    rw [AutoMouse.step?_eq_some hmin hmax, Option.map_some]
  cases a with
  | cpiUp | cpiDown | cpiUpFar | cpiDownFar => exact h.addCpi?_eq_some (by decide)
  | scrollDivUp | scrollDivDown => exact addScrollDiv?_eq_some hdiv (by decide)
  | autoMouseLonger => exact hstep true
  | autoMouseShorter => exact hstep false
  | _ => rfl

theorem InRange.actStore?_eq_some (a : KeyAction) (store : σ) :
    h.actStore? a store = some (h.actStore a store) := by
  cases a with
  | saveSettings => exact congrArg (Option.map _) (hr.save?_eq_some hvalid store)
  | _ => rfl

theorem InRange.dispatch?_eq_some (e : KeyEvent) (store : σ) (now : UInt32) :
    h.dispatch? e store now = some (h.dispatch e store now) := by
  unfold dispatch? dispatch
  generalize KeyAction.ofCode? e.code = action
  split
  · rfl
  · rfl
  · next a hne =>
    simp only [hr.act?_eq_some hvalid, hr.actStore?_eq_some hvalid, Option.bind_eq_bind,
      Option.bind_some, Option.pure_def]
    split
    · rfl
    · rfl

theorem InRange.key?_eq_some (policy : Policy) (e : KeyEvent) (store : σ) (now : UInt32) :
    h.key? policy e store now = some (h.key policy e store now) := by
  have hnoted : (h.noteKey e).InRange config := { hr with }
  unfold key? Half.key
  dsimp only
  rw [hnoted.dispatch?_eq_some hvalid]
  split
  · rfl
  · rfl

theorem InRange.applyCpi?_eq_some {τ : Type} [MotionSensor τ] (sensor : τ) :
    h.applyCpi? sensor = some (h.applyCpi sensor) := by
  have hregister := cpiRegister?_eq_some (hr.cpi_mem hvalid).1
  unfold applyCpi? Half.applyCpi
  simp only [hregister, Option.bind_eq_bind, Option.bind_some]
  split
  · rcases MotionSensor.setCpi sensor h.cpiRegister with ⟨_ | _, _⟩
    · rfl
    · rfl
  · rfl

theorem InRange.poll?_eq_some {τ : Type} [MotionSensor τ] (sensor : τ) :
    h.poll? sensor = some (h.poll sensor) := by
  unfold poll? Half.poll
  simp only [hr.applyCpi?_eq_some hvalid, Option.bind_eq_bind, Option.bind_some]
  split
  · rcases h.applyCpi sensor with ⟨_ | _, _, sensor⟩
    · rfl
    · dsimp only
      rcases MotionSensor.readMotion sensor with ⟨_ | _ | _, _⟩
      · rfl
      · rfl
      · rfl
  · rfl

theorem InRange.drainInto?_eq_some (policy : Policy) (ball : Ball) (r : Report) (now : UInt32) :
    h.drainInto? policy ball r now = some (h.drainInto policy ball r now) := by
  obtain ⟨hpos, hle⟩ := hr.scrollDiv_mem hvalid
  have hdivisor : 0 < h.scrollDivisor.toInt := by
    rw [toInt_scrollDivisor hpos hle]
    exact Int.pow_pos (by decide)
  unfold drainInto?
  split
  · next hscroll =>
    simp only [scrollDivisor?_eq_some hpos hle, Accumulator.drainExactly?_eq_some _ hdivisor,
      Option.bind_eq_bind, Option.bind_some, Option.pure_def, drainInto, if_pos hscroll]
  · rfl

theorem InRange.drainBoth?_eq_some (policy : Policy) (r : Report) (now : UInt32) :
    h.drainBoth? policy r now = some (h.drainBoth policy r now) := by
  -- The second drain goes on from what the first left, which has the same settings.
  have hown : (h.drainInto policy .own r now).1.InRange config := by
    obtain ⟨own, peer, tension, last, heq⟩ := h.drainInto_frame policy .own r now
    rw [heq]
    exact { hr with }
  simp only [drainBoth?, hr.drainInto?_eq_some hvalid, hown.drainInto?_eq_some hvalid,
    Option.bind_eq_bind, Option.bind_some, Option.pure_def, drainBoth]

theorem InRange.makeReport?_eq_some (policy : Policy) (r : Report) (now : UInt32) :
    h.makeReport? policy r now = some (h.makeReport policy r now) := by
  obtain ⟨time, hnote⟩ := h.noteReport_frame now
  obtain ⟨own, peer, hinhibit⟩ := (h.noteReport now).inhibit_frame now
  have hstarted : ((h.noteReport now).inhibit now).InRange config := by
    rw [hinhibit, hnote]
    exact { hr with }
  unfold makeReport? makeReport
  rw [hstarted.drainBoth?_eq_some hvalid]
  split
  · rfl
  · rfl

end Exact

end Half

namespace Session

variable {σ : Type} [SettingsStore σ] {config : Config}

/-- Performs one operation.  An operation that is not listed holds settings within their limits at
most, and computes nothing. -/
def step? (s : Session σ) (policy : Policy) : Op → Option (Outcome σ)
  | .boot ball => do
    let h := { s.half with ownBall := ball, cpiUnapplied := ball }
    let h ← h.loadWord? (SettingsStore.keyboardWord? s.store)
    return ⟨{ s with half := h }, .done, [.layout .pending]⟩
  | .poll cpi motion => do
    let (result, h, sensor) ← s.half.poll? (ScriptedSensor.mk cpi motion [])
    return ⟨{ s with half := h }, .polled result sensor.calls, []⟩
  | .report r now => do
    let r ← s.half.makeReport? policy r now
    return ⟨{ s with half := r.half }, .reported r.emitted r.report, r.notices⟩
  | .stepAutoMouseTimeout up => do
    let a ← s.half.autoMouse.step? up
    return ⟨{ s with half := { s.half with autoMouse := a } }, .done, []⟩
  | .setAutoMouseTimeoutStep q => do
    let a ← s.half.autoMouse.setTimeoutStep? q
    return ⟨{ s with half := { s.half with autoMouse := a } }, .done, []⟩
  | .applyRecord r => do
    let h ← s.half.applyRecord? r
    return ⟨{ s with half := h }, .done, []⟩
  | .key e now => do
    let (further, h, store) ← s.half.key? policy e s.store now
    return ⟨⟨h, store⟩, .passed further, []⟩
  | .load => do
    let word := SettingsStore.keyboardWord? s.store
    let h ← s.half.loadWord? word
    return ⟨{ s with half := h }, .loaded word.isSome, []⟩
  | .save => do
    match ← s.half.save? s.store with
    | .ok store => return ⟨{ s with store := store }, .saved (.ok ()), []⟩
    | .error e => return ⟨s, .saved (.error e), []⟩
  | op => some (s.step policy op)

/-- A session whose settings are within their limits performs every operation exactly. -/
theorem step?_eq_some (s : Session σ) (hr : s.half.InRange config) (hvalid : config.Valid)
    (policy : Policy) (op : Op) : s.step? policy op = some (s.step policy op) := by
  obtain ⟨hmin, hmax⟩ := hr.timeout_mem ⟨hvalid.timeout_min, hvalid.timeout_max⟩
  cases op with
  | boot ball => exact congrArg (Option.bind · _) (Half.loadWord?_eq_some _ _)
  | poll cpi motion => exact congrArg (Option.bind · _) (hr.poll?_eq_some hvalid _)
  | report r now => exact congrArg (Option.bind · _) (hr.makeReport?_eq_some hvalid policy r now)
  | stepAutoMouseTimeout up =>
    exact congrArg (Option.bind · _) (AutoMouse.step?_eq_some hmin hmax up)
  | setAutoMouseTimeoutStep q =>
    exact congrArg (Option.bind · _) (s.half.autoMouse.setTimeoutStep?_eq_some q)
  | applyRecord r => exact congrArg (Option.bind · _) (s.half.applyRecord?_eq_some r)
  | key e now => exact congrArg (Option.bind · _) (hr.key?_eq_some hvalid policy e s.store now)
  | load => exact congrArg (Option.bind · _) (s.half.loadWord?_eq_some _)
  | save =>
    simp only [step?, hr.save?_eq_some hvalid, Option.bind_eq_bind, Option.bind_some, step]
    cases s.half.save s.store with
    | ok store => rfl
    | error e => rfl
  | _ => rfl

end Session

namespace Status

variable {config : Config} {h : Half}

/-- The settings of the ball. -/
def settingsLine? (h : Half) : Option (List UInt8) := do
  let cpi ← ofInt? Int16 h.cpi.toNat
  let exponent ← ofInt? UInt8 (0x30 + h.scrollDiv.toNat)
  return line [text "    ", [labelMark, 0xBC, 0xBD], (decimal4 cpi).drop 1, text "00 ",
    snapIcons h, switchIcons h.scrolling, [0x20, 0xC0, 0xC1], [exponent]]

theorem settingsLine?_eq_some (hr : h.InRange config) (hvalid : config.Valid) :
    settingsLine? h = some (settingsLine h) := by
  have hseven : h.scrollDiv.toNat ≤ 7 := UInt8.le_iff_toNat_le.mp (hr.scrollDiv_mem hvalid).2
  have hcpi : ofInt? Int16 h.cpi.toNat = some h.cpi.toUInt16.toInt16 :=
    ofInt?_eq_some (toInt_widen h.cpi)
  have hexponent : ofInt? UInt8 (0x30 + h.scrollDiv.toNat) = some (0x30 + h.scrollDiv) := by
    have hsum : (0x30 + h.scrollDiv).toNat = 0x30 + h.scrollDiv.toNat := by
      rw [UInt8.toNat_add]
      exact Nat.mod_eq_of_lt (show 0x30 + h.scrollDiv.toNat < 2 ^ 8 by omega)
    exact ofInt?_eq_some (congrArg Nat.cast hsum)
  simp only [settingsLine?, hcpi, hexponent, Option.bind_eq_bind, Option.bind_some,
    Option.pure_def, settingsLine]

/-- The auto mouse layer. -/
def autoMouseColumns? (h : Half) : Option (List UInt8) :=
  if h.config.autoMouse then do
    let tens ← ofInt? Int16 (h.autoMouse.timeout.toNat / 10)
    return [0xC2, 0xC3] ++ switchIcons h.autoMouse.enabled ++ (decimal4 tens).drop 1 ++ [0x30]
  else some ([0xC2, 0xC3] ++ switchIcons false ++ text " ---")

/-- The active layers and the auto mouse layer. -/
def layerLine? (h : Half) (layers : UInt32) : Option (List UInt8) := do
  let autoMouse ← autoMouseColumns? h
  return line [text "L", [0xB6, 0xB7], text "r", [labelMark],
    [1, 2, 3, 4, 5, 6, 7].map (layerColumn layers), [0x20], autoMouse]

theorem layerLine?_eq_some (hr : h.InRange config) (hvalid : config.Valid) (layers : UInt32) :
    layerLine? h layers = some (layerLine h layers) := by
  have hhigh : h.autoMouse.timeout.toNat ≤ 1000 :=
    UInt16.le_iff_toNat_le.mp (hr.timeout_mem ⟨hvalid.timeout_min, hvalid.timeout_max⟩).2
  have hdiv : (h.autoMouse.timeout / 10).toNat = h.autoMouse.timeout.toNat / 10 :=
    UInt16.toNat_div _ _
  have htens : ofInt? Int16 (h.autoMouse.timeout.toNat / 10) =
      some (h.autoMouse.timeout / 10).toInt16 := by
    refine ofInt?_eq_some ((toInt_toInt16 ?_).trans ?_)
    · omega
    · omega
  have hcolumns : autoMouseColumns? h = some (autoMouseColumns h) := by
    unfold autoMouseColumns? autoMouseColumns
    rw [htens]
    split
    · rfl
    · rfl
  simp only [layerLine?, hcolumns, Option.bind_eq_bind, Option.bind_some, Option.pure_def,
    layerLine]

end Status

/-- Ticks are clipped to a range whose ends can be turned around. -/
theorem Policy.toInt_standardScroll (ticks : Motion) (r : Report) (left : Bool) :
    (standardScroll ticks r left).pan.toInt = -max (-127) (min 127 ticks.x.toInt) ∧
      (standardScroll ticks r left).wheel.toInt = -max (-127) (min 127 ticks.y.toInt) := by
  have hx := toInt_clipToAxis ticks.x
  have hy := toInt_clipToAxis ticks.y
  refine ⟨(toInt_negAxis _).trans ?_, (toInt_negAxis _).trans ?_⟩
  · omega
  · omega

namespace Half

variable {config : Config} {h : Half}

/-- **Settings stay in range, and nothing overflows.**  In a build whose defaults are within the
limits, after any calls: the resolution in use is between `1` and the limit of the build, and its
register is one less; the scroll divider exponent is between `1` and `7`, and the number of counts
per tick is the power of two that it names; the timeout is between 100 and 1000 milliseconds, and
its step between `1` and `19`.  Every further operation, with any store and any decisions of the
keyboard, divides by no zero and computes each resolution, scroll divider, timeout and tick as it is
in the integers, and so do the status lines. -/
theorem settings_stay_in_range (hvalid : config.Valid) (reached : Reachable config h) :
    (1 ≤ h.cpi ∧ h.cpi ≤ config.cpiMax ∧ h.cpiRegister.toNat + 1 = h.cpi.toNat) ∧
    (1 ≤ h.scrollDiv ∧ h.scrollDiv ≤ 7 ∧
      h.scrollDivisor.toInt = 2 ^ (h.scrollDiv.toNat - 1) ∧
      1 ≤ h.scrollDivisor.toInt ∧ h.scrollDivisor.toInt ≤ 64) ∧
    (100 ≤ h.autoMouse.timeout ∧ h.autoMouse.timeout ≤ 1000 ∧
      1 ≤ h.autoMouse.timeoutStep ∧ h.autoMouse.timeoutStep ≤ 19) ∧
    (∀ {σ : Type} [SettingsStore σ] (store : σ) (policy : Policy) (op : Op),
      (Session.mk h store).step? policy op = some ((Session.mk h store).step policy op)) ∧
    (Status.settingsLine? h = some (Status.settingsLine h) ∧
      ∀ layers, Status.layerLine? h layers = some (Status.layerLine h layers)) ∧
    ∀ (ticks : Motion) (r : Report) (left : Bool),
      (Policy.standardScroll ticks r left).pan.toInt = -max (-127) (min 127 ticks.x.toInt) ∧
        (Policy.standardScroll ticks r left).wheel.toInt =
          -max (-127) (min 127 ticks.y.toInt) := by
  have hr := reached.inRange
  obtain ⟨hcpi_pos, hcpi_le⟩ := hr.cpi_mem hvalid
  obtain ⟨hdiv_pos, hdiv_le⟩ := hr.scrollDiv_mem hvalid
  obtain ⟨hmin, hmax⟩ := hr.timeout_mem ⟨hvalid.timeout_min, hvalid.timeout_max⟩
  obtain ⟨-, hstep_pos, hstep_lt⟩ := AutoMouse.toNat_timeoutStep hmin hmax
  have hdivisor := toInt_scrollDivisor hdiv_pos hdiv_le
  have hexponent : h.scrollDiv.toNat - 1 < 7 := by
    have hle : h.scrollDiv.toNat ≤ 7 := UInt8.le_iff_toNat_le.mp hdiv_le
    omega
  have powers : ∀ k < 7, (1 : Int) ≤ 2 ^ k ∧ (2 : Int) ^ k ≤ 64 := by decide
  refine ⟨⟨hcpi_pos, hcpi_le, ?_⟩, ⟨hdiv_pos, hdiv_le, hdivisor, ?_, ?_⟩,
    ⟨hmin, hmax, UInt8.le_iff_toNat_le.mpr hstep_pos,
      UInt8.le_iff_toNat_le.mpr (Nat.le_of_lt_succ hstep_lt)⟩,
    fun store policy op => Session.step?_eq_some _ hr hvalid policy op,
    ⟨Status.settingsLine?_eq_some hr hvalid, Status.layerLine?_eq_some hr hvalid⟩,
    Policy.toInt_standardScroll⟩
  · exact toNat_cpiRegister hcpi_pos
  · rw [hdivisor]
    exact (powers _ hexponent).1
  · rw [hdivisor]
    exact (powers _ hexponent).2

/-- The other half and the setters ask for more than allowed: the settings stop at their limits, and
every operation is still exact. -/
theorem settings_stay_in_range_at_limits :
    let config := { Config.default with autoMouse := true }
    let asked : List (Call MemoryStore) :=
      [⟨.standard, .empty, .answer .cpi [250] 4⟩, ⟨.standard, .empty, .setScrollDiv 9⟩,
        ⟨.standard, .empty, .setAutoMouseTimeoutStep 255⟩]
    let h := (new config .primary .left).after asked
    config.Valid ∧ Reachable config h ∧ h.cpiRegister = 119 ∧ h.scrollDivisor = 64 ∧
      h.autoMouse.timeoutStep = 19 ∧
      ∀ op, (Session.mk h MemoryStore.empty).step? .standard op =
        some ((Session.mk h MemoryStore.empty).step .standard op) := by
  intro config asked h
  have hvalid : config.Valid :=
    ⟨by decide, by decide, by decide, by decide, by decide, by decide⟩
  have reached : Reachable config h := (Reachable.new .primary .left).after asked
  obtain ⟨-, -, -, hexact, -⟩ := settings_stay_in_range hvalid reached
  exact ⟨hvalid, reached, by decide, by decide, by decide, hexact MemoryStore.empty .standard⟩

end Half

end TwinBall
