import TwinBall.Proofs.Half.Calls

/-!
# The ranges of the settings

Every setting is changed through a setter that keeps it within its limits, so it is within them
after any calls.  Nothing is assumed of the configuration: the timeout of a build counts as within
the limits even where no setter would allow it.
-/

namespace TwinBall

/-! ## The auto mouse layer -/

namespace AutoMouse

/-- The timeout is the one of the build, or one that can be set. -/
structure InRange (standard : UInt16) (a : AutoMouse) : Prop where
  defaultTimeout : a.defaultTimeout = standard
  timeout : a.timeout = standard ∨ minTimeout ≤ a.timeout ∧ a.timeout ≤ maxTimeout

variable {standard : UInt16} {a : AutoMouse}

theorem inRange_new (standard : UInt16) : (new standard).InRange standard := ⟨rfl, .inl rfl⟩

theorem InRange.setEnabled (ha : a.InRange standard) (on : Bool) :
    (a.setEnabled on).InRange standard := ⟨ha.defaultTimeout, ha.timeout⟩

theorem InRange.setTimeout (ha : a.InRange standard) (ms : UInt16) :
    (a.setTimeout ms).InRange standard := ⟨ha.defaultTimeout, .inr (clampTimeout_mem ms)⟩

theorem InRange.step (ha : a.InRange standard) (up : Bool) : (a.step up).InRange standard :=
  ha.setTimeout _

theorem InRange.setTimeoutStep (ha : a.InRange standard) (q : UInt8) :
    (a.setTimeoutStep q).InRange standard := by
  unfold AutoMouse.setTimeoutStep
  split
  · exact ⟨ha.defaultTimeout, .inl ha.defaultTimeout⟩
  · exact ha.setTimeout _

theorem InRange.reset (ha : a.InRange standard) : a.reset.InRange standard :=
  ⟨ha.defaultTimeout, .inl ha.defaultTimeout⟩

end AutoMouse

/-! ## All settings -/

namespace Half

/-- The settings of a half of a build are within their limits. -/
structure InRange (config : Config) (h : Half) : Prop where
  build : h.config = config
  cpi : h.cpiStored ≤ config.cpiMax
  scrollDiv : h.scrollDivStored ≤ scrollDivMax
  autoMouse : h.autoMouse.InRange config.autoMouseTimeout
  strategy : h.snap.strategy = config.scrollSnap

variable {config : Config} {h : Half}

theorem inRange_new (config : Config) (role : Role) (side : Side) :
    (new config role side).InRange config where
  build := rfl
  cpi := UInt8.le_iff_toNat_le.mpr (Nat.zero_le _)
  scrollDiv := UInt8.le_iff_toNat_le.mpr (Nat.zero_le _)
  autoMouse := AutoMouse.inRange_new _
  strategy := rfl

namespace InRange

theorem setCpi (hr : h.InRange config) (v : UInt8) : (h.setCpi v).InRange config := by
  refine { hr with cpi := ?_ }
  change min v h.config.cpiMax ≤ config.cpiMax
  rw [hr.build]
  exact Std.min_le_right

theorem setScrollDiv (hr : h.InRange config) (v : UInt8) : (h.setScrollDiv v).InRange config :=
  { hr with scrollDiv := Std.min_le_right }

theorem setAutoMouse (hr : h.InRange config) {a : AutoMouse}
    (ha : a.InRange config.autoMouseTimeout) : { h with autoMouse := a }.InRange config :=
  { hr with autoMouse := ha }

theorem setSnapMode (hr : h.InRange config) (m : SnapMode) : (h.setSnapMode m).InRange config :=
  { hr with }

theorem resetSettings (hr : h.InRange config) : h.resetSettings.InRange config := by
  rw [resetSettings_eq]
  refine ((hr.setCpi 0).setScrollDiv 0).setAutoMouse ?_
  split
  · exact hr.autoMouse.reset
  · exact hr.autoMouse

theorem applyRecord (hr : h.InRange config) (r : SettingsRecord) :
    (h.applyRecord r).InRange config := by
  have hauto : AutoMouse.InRange config.autoMouseTimeout
      (if h.config.autoMouse then
        (h.autoMouse.setEnabled r.autoMouse).setTimeoutStep r.autoMouseTimeout
      else h.autoMouse) := by
    split
    · exact (hr.autoMouse.setEnabled r.autoMouse).setTimeoutStep r.autoMouseTimeout
    · exact hr.autoMouse
  rw [applyRecord_eq]
  refine { ((hr.setCpi r.cpi).setScrollDiv r.scrollDiv).setAutoMouse hauto with strategy := ?_ }
  show SnapFilter.strategy (if h.config.hasSnapLock then _ else _) = _
  split
  · exact hr.strategy
  · exact hr.strategy

theorem loadWord (hr : h.InRange config) (word : Option UInt32) :
    (h.loadWord word).InRange config := by
  cases word with
  | none => exact hr
  | some word => exact hr.applyRecord _

theorem act (hr : h.InRange config) (a : KeyAction) (now : UInt32) :
    (h.act a now).InRange config := by
  cases a with
  | resetSettings => exact hr.resetSettings
  | cpiUp | cpiDown | cpiUpFar | cpiDownFar => exact hr.setCpi _
  | scrollDivUp | scrollDivDown => exact hr.setScrollDiv _
  | autoMouseToggle => exact hr.setAutoMouse (hr.autoMouse.setEnabled _)
  | autoMouseLonger | autoMouseShorter => exact hr.setAutoMouse (hr.autoMouse.step _)
  | snapVertical | snapHorizontal | snapFree => exact hr.setSnapMode _
  | saveSettings => exact hr
  | scrollToggle | scrollHold => exact { hr with }

variable {σ : Type} [SettingsStore σ]

theorem key (hr : h.InRange config) (policy : Policy) (e : KeyEvent) (store : σ) (now : UInt32) :
    (h.key policy e store now).2.1.InRange config := by
  have hnoted : (h.noteKey e).InRange config := { hr with }
  rcases h.key_frame policy e store now with heq | ⟨on, heq⟩ | ⟨a, -, heq⟩
  · exact heq ▸ hnoted
  · rw [heq]
    exact { hnoted with }
  · exact heq ▸ hnoted.act a now

/-- No call takes a setting out of its limits. -/
theorem perform (hr : h.InRange config) (c : Call σ) :
    (h.perform c).session.half.InRange config := by
  obtain ⟨policy, store, op⟩ := c
  -- Where an operation only changes fields that no limit is about, `hr` holds field by field.
  cases op with
  | boot ball =>
    have hball : { h with ownBall := ball, cpiUnapplied := ball }.InRange config := { hr with }
    exact hball.loadWord _
  | accumulate ball m =>
    obtain ⟨own, peer, heq⟩ := h.setMotion_frame ball ((h.motion ball).add m)
    change (h.setMotion ball ((h.motion ball).add m)).InRange config
    rw [heq]
    exact { hr with }
  | poll cpi motion =>
    obtain ⟨own, unapplied, heq⟩ := h.poll_frame (ScriptedSensor.mk cpi motion [])
    change (h.poll (ScriptedSensor.mk cpi motion [])).2.1.InRange config
    rw [heq]
    exact { hr with }
  | report r now =>
    obtain ⟨time, own, peer, tension, last, mouse, heq⟩ := h.makeReport_frame policy r now
    change (h.makeReport policy r now).half.InRange config
    rw [heq]
    exact { hr with }
  | housekeeping link now =>
    obtain ⟨handshake, ball, motion, time, unsent, heq⟩ := h.housekeeping_frame link store now
    change (h.housekeeping link store now).half.InRange config
    rw [heq]
    exact { hr with }
  | answer id request room =>
    change (h.answer id request room).half.InRange config
    rcases h.answer_frame id request room with ⟨motion, heq⟩ | ⟨v, heq⟩
    · rw [heq]
      exact { hr with }
    · exact heq ▸ hr.setCpi v
  | setCpi v => exact hr.setCpi v
  | setScrollDiv v => exact hr.setScrollDiv v
  | setScrolling on now => exact { hr with }
  | setSnapMode m => exact hr.setSnapMode m
  | setAutoMouse on => exact hr.setAutoMouse (hr.autoMouse.setEnabled on)
  | setAutoMouseTimeout ms => exact hr.setAutoMouse (hr.autoMouse.setTimeout ms)
  | stepAutoMouseTimeout up => exact hr.setAutoMouse (hr.autoMouse.step up)
  | setAutoMouseTimeoutStep q => exact hr.setAutoMouse (hr.autoMouse.setTimeoutStep q)
  | resetAutoMouse => exact hr.setAutoMouse hr.autoMouse.reset
  | resetSettings => exact hr.resetSettings
  | applyRecord r => exact hr.applyRecord r
  | key e now => exact hr.key policy e store now
  | load => exact hr.loadWord _
  | save =>
    unfold Half.perform
    dsimp only [Session.step]
    split
    · exact hr
    · exact hr

end InRange

theorem Reachable.inRange (reached : Reachable config h) : h.InRange config := by
  induction reached with
  | new role side => exact inRange_new config role side
  | perform _ c ih => exact ih.perform c

end Half

end TwinBall
