import TwinBall.Proofs.Half.Alike
import TwinBall.Proofs.Half.Ranges
import TwinBall.Proofs.Half.Steering

/-!
# No jump after a switch of scrolling

A ball that still rolls when its job is switched would make the pointer or the page jump.  For a
while after a switch, reports therefore discard the motion of both balls.

That a count is discarded is stated through two runs: whatever counts came before such a report, the
keyboard is asked the same from that report on, and the same motion is left.
-/

namespace TwinBall

/-- The movement or the ticks that a keyboard is asked to map. -/
def Notice.motion? : Notice → Option Motion
  | .layout _ => none
  | .move m _ => some m
  | .scroll ticks _ => some ticks

namespace Half

/-! ## The report that discards motion -/

theorem motion?_mapping (h : Half) (ball : Ball) :
    (h.mapping ball).motion? = some (h.drained ball).1 := by
  unfold mapping
  split
  · rfl
  · rfl

theorem discarded_of_inhibited (h : Half) (policy : Policy) (r : Report) (now : UInt32)
    (hemitted : (h.makeReport policy r now).emitted = true) (hclosed : h.isInhibited now = true) :
    (h.makeReport policy r now).notices.filterMap Notice.motion? = [.zero, .zero] ∧
      ∀ ball, (h.makeReport policy r now).half.motion ball = .empty := by
  let k := (h.noteReport now).clearMotion
  have hnone : ∀ ball, k.drained ball = (.zero, .empty) := by
    intro ball
    refine k.drained_of_empty ?_
    cases ball with
    | own => rfl
    | peer => rfl
  rw [h.makeReport_of_inhibited policy r now hemitted hclosed, drainBoth_eq]
  constructor
  · show [k.mapping .own, k.mapping .peer].filterMap Notice.motion? = _
    simp only [List.filterMap_cons, motion?_mapping, hnone, List.filterMap_nil]
  · intro ball
    cases ball with
    | own => exact congrArg Prod.snd (hnone .own)
    | peer => exact congrArg Prod.snd (hnone .peer)

/-! ## Two runs -/

variable {σ : Type} [SettingsStore σ]

/-- Everything that a keyboard is told and asked in the course of calls. -/
def notices (h : Half) : List (Call σ) → List Notice
  | [] => []
  | c :: calls => (h.perform c).notices ++ (h.perform c).session.half.notices calls

/-- Calls that differ at most in the counts of motion that they bring. -/
inductive Recounted : Half → List (Call σ) → List (Call σ) → Prop
  | nil (h : Half) : Recounted h [] []
  | cons {h : Half} (policy : Policy) (store : σ) {op op' : Op} {calls calls' : List (Call σ)}
    (first : Recounts h op op')
    (rest : Recounted (h.perform ⟨policy, store, op⟩).session.half calls calls') :
    Recounted h (⟨policy, store, op⟩ :: calls) (⟨policy, store, op'⟩ :: calls')

theorem Alike.after_recounted {h g : Half} (ha : Alike False h g) {calls calls' : List (Call σ)}
    (hcalls : Recounted h calls calls') : Alike False (h.after calls) (g.after calls') := by
  induction hcalls generalizing g with
  | nil => exact ha
  | cons policy store first _ ih => exact ih (ha.recount first policy store)

theorem Alike.after {h g : Half} (ha : Alike True h g) (calls : List (Call σ)) :
    g.notices calls = h.notices calls ∧ Alike True (h.after calls) (g.after calls) := by
  induction calls generalizing h g with
  | nil => exact ⟨rfl, ha⟩
  | cons c calls ih =>
    obtain ⟨hnext, hnotices⟩ := ha.perform c
    obtain ⟨hrest, hafter⟩ := ih hnext
    refine ⟨?_, hafter⟩
    rw [notices, notices, hnotices trivial, hrest]

/-- A report that discards motion makes alike halves hold the same motion, which is none. -/
theorem Alike.makeReport_of_inhibited {h g : Half} (ha : Alike False h g) (policy : Policy)
    (r : Report) (now : UInt32) (hemitted : (h.makeReport policy r now).emitted = true)
    (hclosed : h.isInhibited now = true) :
    (g.makeReport policy r now).emitted = true ∧
      (g.makeReport policy r now).notices = (h.makeReport policy r now).notices ∧
      Alike True (h.makeReport policy r now).half (g.makeReport policy r now).half := by
  have hemitted' : (g.makeReport policy r now).emitted = true :=
    (ha.makeReport policy r now).1.trans hemitted
  have hclosed' : g.isInhibited now = true := (ha.isInhibited now).trans hclosed
  obtain ⟨halike, hnotices⟩ := ((ha.noteReport now).clearMotion True).drainBoth policy r now
  refine ⟨hemitted', ?_⟩
  rw [h.makeReport_of_inhibited policy r now hemitted hclosed,
    g.makeReport_of_inhibited policy r now hemitted' hclosed']
  exact ⟨hnotices trivial, halike⟩

/-! ## No jump -/

/-- Within the time after a switch, motion is discarded. -/
theorem isInhibited_of_lastSwitch {config : Config} {side : Side} {before : List (Call σ)}
    {t now : UInt32} (hswitch : (new config .primary side).lastSwitch before = some t)
    (hwindow : now - t < config.scrollInhibit) :
    ((new config .primary side).after before).isInhibited now = true := by
  have reached : Reachable config ((new config .primary side).after before) :=
    (Reachable.new .primary side).after before
  rw [isInhibited_iff, reached.inRange.build, scrollSwitched_after, hswitch]
  refine ⟨?_, hwindow⟩
  rw [UInt32.lt_iff_toNat_lt] at hwindow ⊢
  exact Nat.lt_of_le_of_lt (Nat.zero_le _) hwindow

/-- **No jump after a switch of scrolling.**  A half on USB that came about by any calls is asked
for a report.  If there is one within the time after the last switch of scrolling, the keyboard is
asked to map no movement and no ticks, and neither ball has any motion left.  Nor does it matter
what counts came before it: had the calls brought other counts, the keyboard would be asked the same
for this report and in all that follows, and the same motion would be left.

To set scrolling to what it is changes nothing, and if there is no report, nothing is discarded. -/
theorem no_jump_after_switch (config : Config) (side : Side) (before : List (Call σ))
    (policy : Policy) (r : Report) (now : UInt32) :
    let start := new config .primary side
    let h := start.after before
    let o := h.makeReport policy r now
    (∀ t, start.lastSwitch before = some t → now - t < config.scrollInhibit → o.emitted = true →
      o.notices.filterMap Notice.motion? = [.zero, .zero] ∧
      (∀ ball, o.half.motion ball = .empty) ∧
      ∀ before', Recounted start before before' →
        let o' := (start.after before').makeReport policy r now
        o'.emitted = true ∧ o'.notices = o.notices ∧ ∀ later : List (Call σ),
          o'.half.notices later = o.half.notices later ∧
            ∀ ball, (o'.half.after later).motion ball = (o.half.after later).motion ball) ∧
    (∀ t, h.setScrolling h.scrolling t = h) ∧
    (o.emitted = false → o.half = h) := by
  intro start h o
  refine ⟨?_, ?_, ?_⟩
  · intro t hswitch hwindow hemitted
    have hclosed : h.isInhibited now = true := isInhibited_of_lastSwitch hswitch hwindow
    obtain ⟨hnotices, hempty⟩ := h.discarded_of_inhibited policy r now hemitted hclosed
    refine ⟨hnotices, hempty, ?_⟩
    intro before' hrecounted o'
    have halike : Alike False h (start.after before') :=
      (Alike.refl False start).after_recounted hrecounted
    obtain ⟨hemitted', hasked, hhalf⟩ :=
      halike.makeReport_of_inhibited policy r now hemitted hclosed
    refine ⟨hemitted', hasked, fun later => ?_⟩
    obtain ⟨hlater, hafter⟩ := hhalf.after later
    exact ⟨hlater, hafter.motion trivial⟩
  · intro t
    rw [setScrolling, if_pos rfl]
  · intro hidle
    exact congrArg Reported.half (h.makeReport_of_not_emitted policy r now hidle)

/-- The ball rolls before and after the switch at 100.  The report at 120 discards both movements,
so the first tick at 200 comes from the eight counts that follow it, as it would if the ball had
rolled further before. -/
theorem no_jump_after_switch_on_board :
    let before (m : Motion) : List (Call MemoryStore) :=
      [⟨.standard, .empty, .boot true⟩, ⟨.standard, .empty, .accumulate .own m⟩,
        ⟨.standard, .empty, .setScrolling true 100⟩,
        ⟨.standard, .empty, .accumulate .own ⟨7, 7⟩⟩]
    let later : List (Call MemoryStore) :=
      [⟨.standard, .empty, .accumulate .own ⟨8, 5⟩⟩, ⟨.standard, .empty, .report .empty 200⟩]
    let start := new .board .primary .left
    let o := (start.after (before ⟨3, 4⟩)).makeReport .standard .empty 120
    let o' := (start.after (before ⟨700, -900⟩)).makeReport .standard .empty 120
    start.lastSwitch (before ⟨3, 4⟩) = some 100 ∧ 120 - 100 < Config.board.scrollInhibit ∧
      o.emitted = true ∧ o.notices.filterMap Notice.motion? = [.zero, .zero] ∧
      o.half.notices later = [.scroll ⟨1, 0⟩ true, .move .zero false] ∧
      o'.half.notices later = [.scroll ⟨1, 0⟩ true, .move .zero false] := by
  intro before later start o o'
  have hswitch : start.lastSwitch (before ⟨3, 4⟩) = some 100 := by decide
  have hwindow : (120 : UInt32) - 100 < Config.board.scrollInhibit := by decide
  have hemitted : o.emitted = true := by decide
  have hasked : o.half.notices later = [.scroll ⟨1, 0⟩ true, .move .zero false] := by
    decide +kernel
  have hrecounted : Recounted start (before ⟨3, 4⟩) (before ⟨700, -900⟩) := by
    refine .cons _ _ (.same _) (.cons _ _ (.accumulate _ _ _) ?_)
    exact .cons _ _ (.same _) (.cons _ _ (.same _) (.nil _))
  obtain ⟨hreport, -, -⟩ :=
    no_jump_after_switch .board .left (before ⟨3, 4⟩) .standard .empty 120
  obtain ⟨hzero, -, hsame⟩ := hreport 100 hswitch hwindow hemitted
  obtain ⟨-, -, hlater⟩ := hsame (before ⟨700, -900⟩) hrecounted
  exact ⟨hswitch, hwindow, hemitted, hzero, hasked, (hlater later).1.trans hasked⟩

end Half

end TwinBall
