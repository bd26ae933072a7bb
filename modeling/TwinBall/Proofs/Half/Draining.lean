import TwinBall.Proofs.Half.Calls

/-!
# What a report is made of

A report is written twice: the motion of this half's ball first, the motion of the other ball over
it.  What is written and what stays behind depends, for each ball, on whether it scrolls and on its
own accumulator alone (`drained`); only the snap filter is handed on from the first to the second
(`drainBoth_eq`).
-/

namespace TwinBall

theorem Accumulator.drainTicks_of_zero {a : Accumulator} (h : a.peek = .zero) (d : Int16) :
    a.drainTicks d = (.zero, .empty) := by
  have hquotient : (0 : Int16) / d = 0 := Int16.zero_div
  have hrest : (0 : Int16) - 0 * d = 0 := by
    rw [Int16.zero_mul]
    rfl
  simp only [drainTicks, h, Motion.zero, divideCounts, hquotient, hrest]
  rfl

namespace Half

variable (h : Half) (policy : Policy) (r : Report) (now : UInt32)

/-- What a drain takes from the motion of a ball, and what it leaves. -/
def drained (ball : Ball) : Motion × Accumulator :=
  if h.isScrolling ball then (h.motion ball).drainTicks h.scrollDivisor
  else (h.motion ball).drain

/-- What the keyboard is asked when the motion of a ball is drained. -/
def mapping (ball : Ball) : Notice :=
  if h.isScrolling ball then .scroll (h.drained ball).1 (h.isLeftBall ball)
  else .move (h.drained ball).1 (h.isLeftBall ball)

/-- The motion of a ball, written into a report.  If the ball scrolls, a snap filter has the last
word. -/
def writeBall (ball : Ball) (f : SnapFilter) : SnapFilter × Report :=
  if h.isScrolling ball then
    f.apply (policy.mapScroll (h.drained ball).1 r (h.isLeftBall ball)) now
  else (f, policy.mapMove (h.drained ball).1 r (h.isLeftBall ball))

theorem drainInto_eq (ball : Ball) :
    h.drainInto policy ball r now =
      ({ h.setMotion ball (h.drained ball).2 with
          snap := (h.writeBall policy r now ball h.snap).1 },
        (h.writeBall policy r now ball h.snap).2, h.mapping ball) := by
  by_cases hscroll : h.isScrolling ball = true
  · simp only [drainInto, drained, writeBall, mapping, if_pos hscroll]
  · simp only [drainInto, drained, writeBall, mapping, if_neg hscroll]
    cases ball with
    | own => rfl
    | peer => rfl

/-- **A report in full**: what is written, what is asked, and what stays behind. -/
theorem drainBoth_eq :
    let first := h.writeBall policy r now .own h.snap
    let second := h.writeBall policy first.2 now .peer first.1
    h.drainBoth policy r now =
      ⟨true, second.2, [h.mapping .own, h.mapping .peer],
        { h with
          ownMotion := (h.drained .own).2
          peerMotion := (h.drained .peer).2
          snap := second.1
          lastMouse := second.2 }⟩ := by
  intro first second
  simp only [drainBoth, drainInto_eq]
  rfl

/-! ## One ball, by its job -/

section Job

variable {ball : Ball} (f : SnapFilter)

theorem drained_of_moving (hjob : h.isScrolling ball = false) :
    h.drained ball = ((h.motion ball).peek, .empty) := by
  rw [drained, hjob]
  rfl

theorem drained_of_scrolling (hjob : h.isScrolling ball = true) :
    h.drained ball = (h.motion ball).drainTicks h.scrollDivisor := by
  rw [drained, hjob]
  rfl

theorem mapping_of_moving (hjob : h.isScrolling ball = false) :
    h.mapping ball = .move (h.motion ball).peek (h.isLeftBall ball) := by
  rw [mapping, h.drained_of_moving hjob, hjob]
  rfl

theorem mapping_of_scrolling (hjob : h.isScrolling ball = true) :
    h.mapping ball =
      .scroll ((h.motion ball).drainTicks h.scrollDivisor).1 (h.isLeftBall ball) := by
  rw [mapping, h.drained_of_scrolling hjob, hjob]
  rfl

theorem writeBall_of_moving (hjob : h.isScrolling ball = false) :
    h.writeBall policy r now ball f =
      (f, policy.mapMove (h.motion ball).peek r (h.isLeftBall ball)) := by
  rw [writeBall, h.drained_of_moving hjob, hjob]
  rfl

theorem writeBall_of_scrolling (hjob : h.isScrolling ball = true) :
    h.writeBall policy r now ball f =
      f.apply (policy.mapScroll ((h.motion ball).drainTicks h.scrollDivisor).1 r
        (h.isLeftBall ball)) now := by
  rw [writeBall, h.drained_of_scrolling hjob, hjob]
  rfl

theorem drained_of_empty (hempty : h.motion ball = .empty) :
    h.drained ball = (.zero, .empty) := by
  rw [drained, hempty]
  split
  · exact Accumulator.drainTicks_of_zero Accumulator.peek_empty _
  · rfl

end Job

/-! ## When there is a report -/

theorem makeReport_of_due (hrole : h.role = .primary) (hdue : h.isReportDue now = true) :
    h.makeReport policy r now = ((h.noteReport now).inhibit now).drainBoth policy r now :=
  if_pos ⟨hrole, hdue⟩

theorem emitted_makeReport :
    (h.makeReport policy r now).emitted = true ↔
      h.role = .primary ∧ h.isReportDue now = true := by
  constructor
  · intro hemitted
    unfold makeReport at hemitted
    split at hemitted
    · assumption
    · cases hemitted
  · rintro ⟨hrole, hdue⟩
    rw [h.makeReport_of_due policy r now hrole hdue, drainBoth_eq]

/-- Without a report, nothing happens at all. -/
theorem makeReport_of_not_emitted (hidle : (h.makeReport policy r now).emitted = false) :
    h.makeReport policy r now = ⟨false, r, [], h⟩ := by
  have hnot : ¬ (h.role = .primary ∧ h.isReportDue now = true) := by
    rw [← h.emitted_makeReport policy r now, hidle]
    exact nofun
  exact if_neg hnot

theorem isReportDue_iff :
    h.isReportDue now = true ↔
      h.config.reportInterval = 0 ∨ h.config.reportInterval ≤ now - h.lastReport := by
  simp [isReportDue]

theorem isInhibited_iff :
    h.isInhibited now = true ↔
      0 < h.config.scrollInhibit ∧ now - h.scrollSwitched < h.config.scrollInhibit := by
  simp [isInhibited]

/-- The report of a half whose motion is not discarded. -/
theorem makeReport_of_not_inhibited (hemitted : (h.makeReport policy r now).emitted = true)
    (hopen : h.isInhibited now = false) :
    let first := h.writeBall policy r now .own h.snap
    let second := h.writeBall policy first.2 now .peer first.1
    h.makeReport policy r now =
      ⟨true, second.2, [h.mapping .own, h.mapping .peer],
        { h.noteReport now with
          ownMotion := (h.drained .own).2
          peerMotion := (h.drained .peer).2
          snap := second.1
          lastMouse := second.2 }⟩ := by
  obtain ⟨hrole, hdue⟩ := (h.emitted_makeReport policy r now).mp hemitted
  obtain ⟨time, hnote⟩ := h.noteReport_frame now
  have hopen' : (h.noteReport now).isInhibited now = false := by
    rw [hnote]
    exact hopen
  rw [h.makeReport_of_due policy r now hrole hdue, inhibit, hopen', hnote]
  exact drainBoth_eq { h with lastReport := time } policy r now

/-- The report of a half whose motion is discarded. -/
theorem makeReport_of_inhibited (hemitted : (h.makeReport policy r now).emitted = true)
    (hclosed : h.isInhibited now = true) :
    h.makeReport policy r now = (h.noteReport now).clearMotion.drainBoth policy r now := by
  obtain ⟨hrole, hdue⟩ := (h.emitted_makeReport policy r now).mp hemitted
  obtain ⟨time, hnote⟩ := h.noteReport_frame now
  have hclosed' : (h.noteReport now).isInhibited now = true := by
    rw [hnote]
    exact hclosed
  rw [h.makeReport_of_due policy r now hrole hdue, inhibit, hclosed']
  rfl

end Half

end TwinBall
