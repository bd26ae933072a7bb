import TwinBall.Proofs.Half.Calls

/-!
# When reports are made and scrolling is switched

Whether there is a report, and whether motion is discarded for it, depends on five fields of a half,
its `Steering`.  `Steered` lists the three things that a call can do to them, and
`steered_of_perform` says that nothing else happens.  Over any calls, the half remembers the time of
the last switch that they made (`scrollSwitched_after`), and of the last report
(`lastReport_after_of_isSilent`).
-/

namespace TwinBall

/-- When an operation happens, for those that are told the time. -/
def Op.time? : Op → Option UInt32
  | .report _ now | .housekeeping _ now | .setScrolling _ now | .key _ now => some now
  | _ => none

/-- Whether an answer is a report. -/
def Reply.isReport : Reply → Bool
  | .reported emitted _ => emitted
  | _ => false

namespace Half

/-- The part of a half that decides about reports. -/
structure Steering where
  config : Config
  role : Role
  scrolling : Bool
  scrollSwitched : UInt32
  lastReport : UInt32

def steering (h : Half) : Steering :=
  ⟨h.config, h.role, h.scrolling, h.scrollSwitched, h.lastReport⟩

/-- What an operation can do to the steering of a half, and whether it answers with a report. -/
inductive Steered (h : Half) (op : Op) (g : Half) : Bool → Prop
  /-- Nothing. -/
  | rest (same : g.steering = h.steering) : Steered h op g false
  /-- Scrolling is switched on or off. -/
  | switch (now : UInt32) (time : op.time? = some now)
      (same : g.steering = { h.steering with scrolling := !h.scrolling, scrollSwitched := now }) :
      Steered h op g false
  /-- A report is made. -/
  | report (now : UInt32) (time : op.time? = some now)
      (same : g.steering =
        { h.steering with
          lastReport := if h.config.reportInterval = 0 then h.lastReport else now }) :
      Steered h op g true

/-! ## One call -/

section Steering

variable (h : Half)

theorem steering_setCpi (v : UInt8) : (h.setCpi v).steering = h.steering := rfl

theorem steering_setScrollDiv (v : UInt8) : (h.setScrollDiv v).steering = h.steering := rfl

theorem steering_resetSettings : h.resetSettings.steering = h.steering := by
  rw [resetSettings_eq]
  rfl

theorem steering_applyRecord (r : SettingsRecord) : (h.applyRecord r).steering = h.steering := by
  rw [applyRecord_eq]
  rfl

theorem steering_loadWord (word : Option UInt32) : (h.loadWord word).steering = h.steering := by
  cases word with
  | none => rfl
  | some word => exact h.steering_applyRecord _

theorem steering_noteReport (now : UInt32) :
    (h.noteReport now).steering =
      { h.steering with
        lastReport := if h.config.reportInterval = 0 then h.lastReport else now } := by
  unfold noteReport
  split
  · rfl
  · rfl

theorem steering_answer (id : Transaction) (request : List UInt8) (room : Nat) :
    (h.answer id request room).half.steering = h.steering := by
  rcases h.answer_frame id request room with ⟨motion, heq⟩ | ⟨v, heq⟩
  · rw [heq]
    rfl
  · rw [heq, steering_setCpi]

/-- Only a change of scrolling counts as a switch. -/
theorem steered_setScrolling {op : Op} {now : UInt32} (time : op.time? = some now) (on : Bool) :
    Steered h op (h.setScrolling on now) false := by
  by_cases hon : on = h.scrolling
  · refine .rest ?_
    simp only [steering, setScrolling, if_pos hon]
    rw [hon]
  · refine .switch now time ?_
    simp only [steering, setScrolling, if_neg hon]
    rw [Bool.eq_not.mpr hon]

theorem steered_act {op : Op} {now : UInt32} (time : op.time? = some now) (a : KeyAction) :
    Steered h op (h.act a now) false := by
  cases a with
  | scrollToggle => exact h.steered_setScrolling time _
  | scrollHold => exact h.steered_setScrolling time _
  | resetSettings => exact .rest h.steering_resetSettings
  | cpiUp | cpiDown | cpiUpFar | cpiDownFar => exact .rest (h.steering_setCpi _)
  | scrollDivUp | scrollDivDown => exact .rest (h.steering_setScrollDiv _)
  | _ => exact .rest rfl

end Steering

theorem Steered.of_steering {h h' : Half} {op : Op} {g : Half} (hg : Steered h' op g false)
    (same : h'.steering = h.steering) : Steered h op g false := by
  have hscrolling : h'.scrolling = h.scrolling := congrArg Steering.scrolling same
  cases hg with
  | rest hrest => exact .rest (hrest.trans same)
  | switch now time hswitch => exact .switch now time (by rw [hswitch, same, hscrolling])

variable {σ : Type} [SettingsStore σ]

theorem steered_key (h : Half) (policy : Policy) (e : KeyEvent) (store : σ) (now : UInt32) :
    Steered h (.key e now) (h.key policy e store now).2.1 false := by
  have hnoted : (h.noteKey e).steering = h.steering := rfl
  rcases h.key_frame policy e store now with heq | ⟨on, heq⟩ | ⟨a, -, heq⟩
  · rw [heq]
    exact .rest hnoted
  · rw [heq]
    exact ((h.noteKey e).steered_setScrolling rfl on).of_steering hnoted
  · rw [heq]
    exact ((h.noteKey e).steered_act rfl a).of_steering hnoted

theorem steered_makeReport (h : Half) (policy : Policy) (r : Report) (now : UInt32) :
    Steered h (.report r now) (h.makeReport policy r now).half
      (h.makeReport policy r now).emitted := by
  unfold makeReport
  split
  · obtain ⟨own, peer, hinhibit⟩ := (h.noteReport now).inhibit_frame now
    obtain ⟨_, _, _, _, _, hdrain⟩ := ((h.noteReport now).inhibit now).drainBoth_frame policy r now
    refine .report now rfl ?_
    rw [hdrain, hinhibit]
    exact h.steering_noteReport now
  · exact .rest rfl

/-- **A call does one of the three things to the steering.** -/
theorem steered_of_perform (h : Half) (c : Call σ) :
    Steered h c.op (h.perform c).session.half (h.perform c).reply.isReport := by
  obtain ⟨policy, store, op⟩ := c
  cases op with
  | report r now => exact h.steered_makeReport policy r now
  | setScrolling on now => exact h.steered_setScrolling rfl on
  | key e now => exact h.steered_key policy e store now
  | boot ball =>
    exact .rest (steering_loadWord { h with ownBall := ball, cpiUnapplied := ball } _)
  | load => exact .rest (h.steering_loadWord _)
  | resetSettings => exact .rest h.steering_resetSettings
  | applyRecord r => exact .rest (h.steering_applyRecord r)
  | answer id request room => exact .rest (h.steering_answer id request room)
  | accumulate ball m =>
    obtain ⟨own, peer, heq⟩ := h.setMotion_frame ball ((h.motion ball).add m)
    refine .rest ?_
    change (h.setMotion ball _).steering = h.steering
    rw [heq]
    rfl
  | poll cpi motion =>
    obtain ⟨own, unapplied, heq⟩ := h.poll_frame (ScriptedSensor.mk cpi motion [])
    refine .rest ?_
    change (h.poll _).2.1.steering = h.steering
    rw [heq]
    rfl
  | housekeeping link now =>
    obtain ⟨_, _, _, _, _, heq⟩ := h.housekeeping_frame link store now
    refine .rest ?_
    change (h.housekeeping link store now).half.steering = h.steering
    rw [heq]
    rfl
  | save =>
    unfold perform
    dsimp only [Session.step]
    split
    · exact .rest rfl
    · exact .rest rfl
  | _ => exact .rest rfl

/-! ## Any calls -/

/-- Whether none of the calls answers with a report. -/
def IsSilent (h : Half) : List (Call σ) → Prop
  | [] => True
  | c :: calls =>
    (h.perform c).reply.isReport = false ∧ (h.perform c).session.half.IsSilent calls

/-- When the last of the calls that switched scrolling on or off was made, if any of them did. -/
def lastSwitch (h : Half) : List (Call σ) → Option UInt32
  | [] => none
  | c :: calls =>
    let g := (h.perform c).session.half
    (g.lastSwitch calls).or (if g.scrolling = h.scrolling then none else c.op.time?)

/-- Without a report, the time of the last one stays. -/
theorem lastReport_after_of_isSilent {h : Half} {calls : List (Call σ)}
    (hsilent : h.IsSilent calls) : (h.after calls).lastReport = h.lastReport := by
  induction calls generalizing h with
  | nil => rfl
  | cons c calls ih =>
    obtain ⟨hfirst, hrest⟩ := hsilent
    have hsteered := h.steered_of_perform c
    rw [hfirst] at hsteered
    have hlast : (h.perform c).session.half.lastReport = h.lastReport := by
      cases hsteered with
      | rest same => exact congrArg Steering.lastReport same
      | switch now time same => exact congrArg Steering.lastReport same
    exact (ih hrest).trans hlast

theorem scrollSwitched_perform (h : Half) (c : Call σ) :
    (h.perform c).session.half.scrollSwitched =
      (if (h.perform c).session.half.scrolling = h.scrolling then none else c.op.time?).getD
        h.scrollSwitched := by
  have hsteered := h.steered_of_perform c
  generalize (h.perform c).session.half = g, (h.perform c).reply.isReport = reports at hsteered
  cases hsteered with
  | rest same =>
    have hscrolling : g.scrolling = h.scrolling := congrArg Steering.scrolling same
    rw [if_pos hscrolling]
    exact congrArg Steering.scrollSwitched same
  | switch now time same =>
    have hscrolling : g.scrolling = !h.scrolling := congrArg Steering.scrolling same
    rw [if_neg (by simp [hscrolling]), time]
    exact congrArg Steering.scrollSwitched same
  | report now time same =>
    have hscrolling : g.scrolling = h.scrolling := congrArg Steering.scrolling same
    rw [if_pos hscrolling]
    exact congrArg Steering.scrollSwitched same

/-- The half remembers when scrolling was last switched. -/
theorem scrollSwitched_after (h : Half) (calls : List (Call σ)) :
    (h.after calls).scrollSwitched = (h.lastSwitch calls).getD h.scrollSwitched := by
  induction calls generalizing h with
  | nil => rfl
  | cons c calls ih =>
    rw [after_cons, ih, scrollSwitched_perform, lastSwitch, Option.getD_or]

end Half

end TwinBall
