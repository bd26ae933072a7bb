import TwinBall.Proofs.Half.Draining

/-!
# One ball, on either half

With one ball it makes no difference whether the half on USB carries it or the other half does.  Two
halves on USB, one with the ball and one without, that are told the same things and see the same
motion stay `InStep`, and answer alike, as long as the snap filter locks axes.  Under tension they
would not: the half without the ball first looks at its own motion, sees no scroll, and may let the
tension go.
-/

namespace TwinBall

/-- Something that happens to a keyboard with one ball, wherever the ball is. -/
inductive OneBallEvent
  /-- The ball rolls. -/
  | roll (m : Motion)
  /-- A report is completed that has no motion of its own. -/
  | report (buttons : UInt8) (now : UInt32)
  | setScrolling (on : Bool) (now : UInt32)
  | setSnapMode (m : SnapMode)
  | setScrollDiv (v : UInt8)
  | key (e : KeyEvent) (now : UInt32)
  | load
  | applyRecord (r : SettingsRecord)
  | resetSettings

namespace OneBallEvent

/-- What an event is to a half on USB that has the ball itself, or whose peer has it. -/
def op (ball : Ball) : OneBallEvent → Op
  | roll m => .accumulate ball m
  | report buttons now => .report { Report.empty with buttons := buttons } now
  | setScrolling on now => .setScrolling on now
  | setSnapMode m => .setSnapMode m
  | setScrollDiv v => .setScrollDiv v
  | key e now => .key e now
  | load => .load
  | applyRecord r => .applyRecord r
  | resetSettings => .resetSettings

/-- An event for a keyboard without decisions of its own, with the store that it finds. -/
def call {σ : Type} (ball : Ball) (e : σ × OneBallEvent) : Call σ := ⟨.standard, e.1, e.2.op ball⟩

end OneBallEvent

namespace Half

/-! ## Reports under the lock strategy -/

/-- A report with the motion of a ball written into it that scrolls or moves the pointer, if scroll
axes are locked. -/
def writeLocked (mode : SnapMode) (scrolls : Bool) (m : Motion) (r : Report) : Report :=
  if scrolls then mode.project (Policy.standardScroll m r true) else Policy.standardMove m r true

theorem writeBall_of_lock (h : Half) (r : Report) (now : UInt32) (ball : Ball) {f : SnapFilter}
    (hlock : f.strategy = .lock) :
    h.writeBall .standard r now ball f =
      (f, writeLocked f.mode (h.isScrolling ball) (h.drained ball).1 r) := by
  unfold writeBall writeLocked
  split
  · rw [SnapFilter.apply, hlock]
    rfl
  · rfl

theorem drainBoth_of_lock (h : Half) (r : Report) (now : UInt32)
    (hlock : h.snap.strategy = .lock) :
    let first := writeLocked h.snap.mode (h.isScrolling .own) (h.drained .own).1 r
    let second := writeLocked h.snap.mode (h.isScrolling .peer) (h.drained .peer).1 first
    h.drainBoth .standard r now =
      ⟨true, second, [h.mapping .own, h.mapping .peer],
        { h with
          ownMotion := (h.drained .own).2
          peerMotion := (h.drained .peer).2
          lastMouse := second }⟩ := by
  intro first second
  rw [drainBoth_eq, h.writeBall_of_lock r now .own hlock, h.writeBall_of_lock _ now .peer hlock]

/-- A ball that rests writes zeros.  In a report without motion it does not matter whether it does
so in its own job before a ball that rolls, or in the other job after it. -/
theorem writeLocked_rest (mode : SnapMode) (scrolls : Bool) (m : Motion) (buttons : UInt8) :
    let r := { Report.empty with buttons := buttons }
    writeLocked mode scrolls m (writeLocked mode scrolls .zero r) =
      writeLocked mode (scrolls ^^ true) .zero (writeLocked mode scrolls m r) := by
  cases scrolls with
  | false => cases mode <;> rfl
  | true => cases mode <;> rfl

/-! ## Two halves in step -/

/-- The first half carries the ball and the second does not.  In everything else that a report
depends on, the two are alike. -/
structure InStep (a b : Half) : Prop where
  primary : a.role = .primary
  role : b.role = a.role
  config : b.config = a.config
  lock : a.snap.strategy = .lock
  ball : a.ownBall = true
  noBall : b.ownBall = false
  motion : b.peerMotion = a.ownMotion
  idlePeer : a.peerMotion = .empty
  idleOwn : b.ownMotion = .empty
  scrolling : b.scrolling = a.scrolling
  scrollSwitched : b.scrollSwitched = a.scrollSwitched
  scrollDivStored : b.scrollDivStored = a.scrollDivStored
  snap : b.snap = a.snap
  lastReport : b.lastReport = a.lastReport
  lastMouse : b.lastMouse = a.lastMouse

namespace InStep

variable {a b : Half}

/-! ## Settings -/

theorem setCpi (hs : InStep a b) (v : UInt8) : InStep (a.setCpi v) (b.setCpi v) := { hs with }

theorem setScrollDiv (hs : InStep a b) (v : UInt8) :
    InStep (a.setScrollDiv v) (b.setScrollDiv v) := { hs with scrollDivStored := rfl }

theorem setSnapMode (hs : InStep a b) (m : SnapMode) :
    InStep (a.setSnapMode m) (b.setSnapMode m) :=
  { hs with snap := congrArg (·.setMode m) hs.snap }

theorem setAutoMouse (hs : InStep a b) (s t : AutoMouse) :
    InStep { a with autoMouse := s } { b with autoMouse := t } := { hs with }

theorem setScrolling (hs : InStep a b) (on : Bool) (now : UInt32) :
    InStep (a.setScrolling on now) (b.setScrolling on now) := by
  refine { hs with scrolling := rfl, scrollSwitched := ?_ }
  simp only [Half.setScrolling, hs.scrolling, hs.scrollSwitched]

theorem scrollDiv (hs : InStep a b) : b.scrollDiv = a.scrollDiv := by
  simp only [Half.scrollDiv, hs.scrollDivStored, hs.config]

theorem resetSettings (hs : InStep a b) : InStep a.resetSettings b.resetSettings := by
  rw [resetSettings_eq, resetSettings_eq]
  exact ((hs.setCpi 0).setScrollDiv 0).setAutoMouse _ _

theorem applyRecord (hs : InStep a b) (r : SettingsRecord) :
    InStep (a.applyRecord r) (b.applyRecord r) := by
  have hset := ((hs.setCpi r.cpi).setScrollDiv r.scrollDiv).setAutoMouse
    (if a.config.autoMouse then
      (a.autoMouse.setEnabled r.autoMouse).setTimeoutStep r.autoMouseTimeout else a.autoMouse)
    (if b.config.autoMouse then
      (b.autoMouse.setEnabled r.autoMouse).setTimeoutStep r.autoMouseTimeout else b.autoMouse)
  rw [applyRecord_eq, applyRecord_eq]
  refine { hset with lock := ?_, snap := ?_ }
  · show SnapFilter.strategy (if a.config.hasSnapLock then _ else _) = _
    split
    · exact hs.lock
    · exact hs.lock
  · show (if b.config.hasSnapLock then _ else _) = (if a.config.hasSnapLock then _ else _)
    rw [hs.config, hs.snap]

theorem loadWord (hs : InStep a b) (word : Option UInt32) :
    InStep (a.loadWord word) (b.loadWord word) := by
  cases word with
  | none => exact hs
  | some word => exact hs.applyRecord _

theorem act (hs : InStep a b) (action : KeyAction) (now : UInt32) :
    InStep (a.act action now) (b.act action now) := by
  have hdiv (delta : Int8) : InStep (a.addScrollDiv delta) (b.addScrollDiv delta) := by
    rw [addScrollDiv, addScrollDiv, hs.scrollDiv]
    exact hs.setScrollDiv _
  -- The resolution does not matter to reports, so it may be set to different values.
  have hcpi (v w : UInt8) : InStep (a.setCpi v) (b.setCpi w) := { hs with }
  cases action with
  | resetSettings => exact hs.resetSettings
  | saveSettings => exact hs
  | cpiUp | cpiDown | cpiUpFar | cpiDownFar => exact hcpi _ _
  | scrollToggle =>
    rw [Half.act, Half.act, hs.scrolling]
    exact hs.setScrolling _ now
  | scrollHold => exact hs.setScrolling true now
  | scrollDivUp => exact hdiv 1
  | scrollDivDown => exact hdiv (-1)
  | autoMouseToggle | autoMouseLonger | autoMouseShorter => exact hs.setAutoMouse _ _
  | snapVertical | snapHorizontal | snapFree => exact hs.setSnapMode _

theorem hasFeature (hs : InStep a b) (action : KeyAction) :
    b.hasFeature action = a.hasFeature action := by
  simp only [Half.hasFeature, hs.config]

variable {σ : Type} [SettingsStore σ]

theorem dispatch (hs : InStep a b) (e : KeyEvent) (store : σ) (now : UInt32) :
    (b.dispatch e store now).1 = (a.dispatch e store now).1 ∧
      InStep (a.dispatch e store now).2.1 (b.dispatch e store now).2.1 := by
  cases haction : KeyAction.ofCode? e.code with
  | none =>
    rw [Half.dispatch, Half.dispatch, haction]
    exact ⟨rfl, hs⟩
  | some action =>
    by_cases hhold : action = .scrollHold
    · subst hhold
      rw [Half.dispatch, Half.dispatch, haction]
      exact ⟨rfl, hs.setScrolling _ now⟩
    · simp only [Half.dispatch, haction, hs.hasFeature]
      by_cases hact : (e.pressed && a.hasFeature action) = true
      · rw [if_pos hact, if_pos hact]
        exact ⟨rfl, hs.act action now⟩
      · rw [if_neg hact, if_neg hact]
        exact ⟨rfl, hs⟩

/-! ## Reports -/

theorem isReportDue (hs : InStep a b) (now : UInt32) : b.isReportDue now = a.isReportDue now := by
  simp only [Half.isReportDue, hs.config, hs.lastReport]

theorem isInhibited (hs : InStep a b) (now : UInt32) : b.isInhibited now = a.isInhibited now := by
  simp only [Half.isInhibited, hs.config, hs.scrollSwitched]

theorem noteReport (hs : InStep a b) (now : UInt32) :
    InStep (a.noteReport now) (b.noteReport now) := by
  rw [Half.noteReport, Half.noteReport, hs.config]
  split
  · exact hs
  · exact { hs with config := rfl, lastReport := rfl }

theorem inhibit (hs : InStep a b) (now : UInt32) : InStep (a.inhibit now) (b.inhibit now) := by
  rw [Half.inhibit, Half.inhibit, hs.isInhibited]
  split
  · exact { hs with motion := rfl, idlePeer := rfl, idleOwn := rfl }
  · exact hs

/-- The balls that roll do the same job on both halves. -/
theorem drained (hs : InStep a b) : b.drained .peer = a.drained .own := by
  have hjob : b.isScrolling .peer = a.isScrolling .own := by
    simp only [isScrolling, hs.scrolling, hs.noBall, Bool.xor_false]
  have hdivisor : b.scrollDivisor = a.scrollDivisor := by
    simp only [scrollDivisor, hs.scrollDiv]
  simp only [Half.drained, hjob, hdivisor, Half.motion, hs.motion]

theorem drainBoth (hs : InStep a b) (buttons : UInt8) (now : UInt32) :
    let r := { Report.empty with buttons := buttons }
    (b.drainBoth .standard r now).report = (a.drainBoth .standard r now).report ∧
      InStep (a.drainBoth .standard r now).half (b.drainBoth .standard r now).half := by
  intro r
  have hpeer : a.drained .peer = (.zero, .empty) := a.drained_of_empty hs.idlePeer
  have hown : b.drained .own = (.zero, .empty) := b.drained_of_empty hs.idleOwn
  have hlock : b.snap.strategy = .lock := hs.snap ▸ hs.lock
  have hreport : (b.drainBoth .standard r now).report = (a.drainBoth .standard r now).report := by
    rw [a.drainBoth_of_lock r now hs.lock, b.drainBoth_of_lock r now hlock, hpeer, hown, hs.drained,
      hs.snap]
    simp only [isScrolling, hs.scrolling, hs.ball, hs.noBall, Bool.xor_false]
    exact writeLocked_rest _ _ _ _
  refine ⟨hreport, ?_⟩
  rw [a.drainBoth_of_lock r now hs.lock, b.drainBoth_of_lock r now hlock] at hreport ⊢
  exact { hs with
    motion := congrArg Prod.snd hs.drained
    idlePeer := congrArg Prod.snd hpeer
    idleOwn := congrArg Prod.snd hown
    lastMouse := hreport }

theorem makeReport (hs : InStep a b) (buttons : UInt8) (now : UInt32) :
    let r := { Report.empty with buttons := buttons }
    (b.makeReport .standard r now).emitted = (a.makeReport .standard r now).emitted ∧
      (b.makeReport .standard r now).report = (a.makeReport .standard r now).report ∧
      InStep (a.makeReport .standard r now).half (b.makeReport .standard r now).half := by
  intro r
  by_cases hdue : a.isReportDue now = true
  · have hdue' : b.isReportDue now = true := by rw [hs.isReportDue, hdue]
    have hprimary : b.role = .primary := hs.role.trans hs.primary
    rw [a.makeReport_of_due .standard r now hs.primary hdue,
      b.makeReport_of_due .standard r now hprimary hdue']
    exact ⟨rfl, ((hs.noteReport now).inhibit now).drainBoth buttons now⟩
  · have hidle : ¬ (a.role = .primary ∧ a.isReportDue now = true) := fun h => hdue h.2
    have hidle' : ¬ (b.role = .primary ∧ b.isReportDue now = true) := by
      rw [hs.isReportDue]
      exact fun h => hdue h.2
    rw [Half.makeReport, Half.makeReport, if_neg hidle, if_neg hidle']
    exact ⟨rfl, rfl, hs⟩

/-! ## Events -/

/-- Halves in step answer an event alike, and stay in step. -/
theorem perform (hs : InStep a b) (e : σ × OneBallEvent) :
    (b.perform (OneBallEvent.call .peer e)).reply = (a.perform (OneBallEvent.call .own e)).reply ∧
      InStep (a.perform (OneBallEvent.call .own e)).session.half
        (b.perform (OneBallEvent.call .peer e)).session.half := by
  obtain ⟨store, e⟩ := e
  cases e with
  | roll m =>
    refine ⟨rfl, { hs with motion := ?_ }⟩
    exact congrArg (·.add m) hs.motion
  | report buttons now =>
    obtain ⟨hemitted, hreport, hnext⟩ := hs.makeReport buttons now
    have hreply := congr (congrArg Reply.reported hemitted) hreport
    exact ⟨hreply, hnext⟩
  | setScrolling on now => exact ⟨rfl, hs.setScrolling on now⟩
  | setSnapMode m => exact ⟨rfl, hs.setSnapMode m⟩
  | setScrollDiv v => exact ⟨rfl, hs.setScrollDiv v⟩
  | key e now =>
    have hnoted : InStep (a.noteKey e) (b.noteKey e) := { hs with }
    obtain ⟨hfurther, hnext⟩ := hnoted.dispatch e store now
    exact ⟨congrArg Reply.passed hfurther, hnext⟩
  | load => exact ⟨rfl, hs.loadWord _⟩
  | applyRecord r => exact ⟨rfl, hs.applyRecord r⟩
  | resetSettings => exact ⟨rfl, hs.resetSettings⟩

theorem after (hs : InStep a b) (events : List (σ × OneBallEvent)) :
    InStep (a.after (events.map (OneBallEvent.call .own)))
      (b.after (events.map (OneBallEvent.call .peer))) := by
  induction events generalizing a b with
  | nil => exact hs
  | cons e events ih => exact ih (hs.perform e).2

end InStep

/-- A half that boots with the ball and one that boots without it are in step. -/
theorem inStep_boot {config : Config} (hlock : config.scrollSnap = .lock) (side side' : Side)
    {σ : Type} [SettingsStore σ] (store : σ) :
    InStep ((new config .primary side).boot true store).1
      ((new config .primary side').boot false store).1 := by
  have hnew : InStep { new config .primary side with ownBall := true, cpiUnapplied := true }
      { new config .primary side' with ownBall := false, cpiUnapplied := false } := by
    constructor <;> first | rfl | exact hlock
  exact hnew.loadWord _

/-- **It does not matter which half carries the ball.**  A half on USB that carries the ball, and
one that does not and sees the same motion from the other half, boot with the same settings and are
told the same things.  Then, after any events, whatever the next one is, both give the same answer,
which for a report is whether there is one and what it is, have the same last report, and hold the
same rest of motion of the ball. -/
theorem one_ball_on_either_half {config : Config} (hlock : config.scrollSnap = .lock)
    (side side' : Side) {σ : Type} [SettingsStore σ] (store : σ)
    (events : List (σ × OneBallEvent)) :
    let a := ((new config .primary side).boot true store).1.after
      (events.map (OneBallEvent.call .own))
    let b := ((new config .primary side').boot false store).1.after
      (events.map (OneBallEvent.call .peer))
    b.lastMouse = a.lastMouse ∧ b.motion .peer = a.motion .own ∧
      ∀ e : σ × OneBallEvent,
        (b.perform (OneBallEvent.call .peer e)).reply =
          (a.perform (OneBallEvent.call .own e)).reply := by
  intro a b
  have hs : InStep a b := (inStep_boot hlock side side' store).after events
  exact ⟨hs.lastMouse, hs.motion, fun e => (hs.perform e).1⟩

/-- On the board the ball rolls, scrolls from then on, and is asked for a report once the motion
from before is discarded and new motion has come: either half makes the same report of it. -/
theorem one_ball_on_either_half_scrolling :
    let events : List (MemoryStore × OneBallEvent) :=
      [(.empty, .roll ⟨3, 4⟩), (.empty, .setScrolling true 100), (.empty, .report 1 120),
        (.empty, .roll ⟨-20, 35⟩)]
    let a := ((new .board .primary .left).boot true MemoryStore.empty).1.after
      (events.map (OneBallEvent.call .own))
    let b := ((new .board .primary .right).boot false MemoryStore.empty).1.after
      (events.map (OneBallEvent.call .peer))
    Config.board.scrollSnap = .lock ∧
      (a.perform (OneBallEvent.call .own (MemoryStore.empty, .report 1 200))).reply =
        .reported true ⟨1, 0, 0, -4, 0⟩ ∧
      (b.perform (OneBallEvent.call .peer (MemoryStore.empty, .report 1 200))).reply =
        .reported true ⟨1, 0, 0, -4, 0⟩ := by
  intro events a b
  have hlock : Config.board.scrollSnap = .lock := rfl
  obtain ⟨-, -, halike⟩ := one_ball_on_either_half hlock .left .right MemoryStore.empty events
  have hemitted :
      (a.makeReport .standard { Report.empty with buttons := 1 } 200).emitted = true := by
    decide +kernel
  have hreport : (a.makeReport .standard { Report.empty with buttons := 1 } 200).report =
      ⟨1, 0, 0, -4, 0⟩ := by
    decide +kernel
  have hreply : (a.perform (OneBallEvent.call .own (MemoryStore.empty, .report 1 200))).reply =
      .reported true ⟨1, 0, 0, -4, 0⟩ :=
    congr (congrArg Reply.reported hemitted) hreport
  exact ⟨hlock, hreply, (halike _).trans hreply⟩

end Half

end TwinBall
