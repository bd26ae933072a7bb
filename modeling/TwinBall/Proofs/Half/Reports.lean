import TwinBall.Proofs.Half.Draining
import TwinBall.Proofs.Half.Exactness
import TwinBall.Proofs.Half.Steering
import TwinBall.Proofs.Motion.Axis

/-!
# When there is a report, and what it says

A keyboard without decisions of its own clips every axis that it writes.  With a ball on the half on
USB one of the two balls moves the pointer and the other one scrolls (`Divided`); without one both
move (`BothMove`) or both scroll (`BothScroll`), and what the second ball writes stands.
`report_policy` puts this together with the times at which there is a report.
-/

namespace TwinBall

/-- An integer held within the range of an axis. -/
def clip (t : Int) : Int := max (-127) (min 127 t)

/-- An axis value within the range that can be turned around. -/
def IsClipped (v : Int8) : Prop := -127 ≤ v.toInt ∧ v.toInt ≤ 127

theorem isClipped_zero : IsClipped 0 := by
  constructor
  · decide
  · decide

theorem isClipped_of_clip {v : Int8} {t : Int} (hv : v.toInt = clip t) : IsClipped v := by
  unfold clip at hv
  constructor
  · omega
  · omega

theorem isClipped_of_neg_clip {v : Int8} {t : Int} (hv : v.toInt = -clip t) : IsClipped v := by
  unfold clip at hv
  constructor
  · omega
  · omega

/-! ## What is written -/

namespace Report

/-- The pointer axes of a report hold a movement. -/
structure HasMove (r : Report) (m : Motion) : Prop where
  x : r.x.toInt = -clip m.x.toInt
  y : r.y.toInt = clip m.y.toInt

/-- The scroll axes of a report hold the ticks in a total, at `d` counts each, and `rest` is what
remains of the total. -/
structure HasTicks (r : Report) (d : Int) (total rest : Motion) : Prop where
  pan : r.pan.toInt = -clip (total.x.toInt.tdiv d)
  wheel : r.wheel.toInt = -clip (total.y.toInt.tdiv d)
  restX : rest.x.toInt = total.x.toInt.tmod d
  restY : rest.y.toInt = total.y.toInt.tmod d

theorem HasMove.isClipped {r : Report} {m : Motion} (hm : r.HasMove m) :
    IsClipped r.x ∧ IsClipped r.y :=
  ⟨isClipped_of_neg_clip hm.x, isClipped_of_clip hm.y⟩

theorem hasScroll_of_hasTicks_zero {r : Report} {d : Int} {rest : Motion}
    (ht : r.HasTicks d .zero rest) : r.hasScroll = false := by
  have hclip : -clip ((0 : Int16).toInt.tdiv d) = (0 : Int8).toInt := by
    rw [Int16.toInt_zero, Int.zero_tdiv]
    rfl
  have hpan : r.pan = 0 := Int8.toInt_inj.mp (ht.pan.trans hclip)
  have hwheel : r.wheel = 0 := Int8.toInt_inj.mp (ht.wheel.trans hclip)
  rw [hasScroll, hpan, hwheel]
  rfl

end Report

theorem Policy.hasMove_standardMove (m : Motion) (r : Report) (left : Bool) :
    (standardMove m r left).HasMove m := by
  have hx := toInt_clipToAxis m.x
  have hneg := toInt_negAxis (clipToAxis m.x)
  constructor
  · rw [clip]
    exact hneg.trans (by omega)
  · exact toInt_clipToAxis m.y

theorem Policy.hasTicks_standardScroll (a : Accumulator) {d : Int16} (hd : 0 < d.toInt)
    (r : Report) (left : Bool) :
    (standardScroll (a.drainTicks d).1 r left).HasTicks d.toInt a.peek
      (a.drainTicks d).2.peek := by
  obtain ⟨hpan, hwheel⟩ := Policy.toInt_standardScroll (a.drainTicks d).1 r left
  obtain ⟨hquotientX, hrestX⟩ := toInt_divideCounts a.peek.x hd
  obtain ⟨hquotientY, hrestY⟩ := toInt_divideCounts a.peek.y hd
  rw [Accumulator.drainTicks_fst] at hpan hwheel ⊢
  rw [Accumulator.peek_drainTicks_snd]
  constructor
  · rw [← hquotientX]
    exact hpan
  · rw [← hquotientY]
    exact hwheel
  · exact hrestX
  · exact hrestY

/-- Each scroll axis of a report is let through or stopped, and nothing else is done to it. -/
structure Report.Filtered (s t : Report) : Prop where
  buttons : t.buttons = s.buttons
  x : t.x = s.x
  y : t.y = s.y
  wheel : t.wheel = s.wheel ∨ t.wheel = 0
  pan : t.pan = s.pan ∨ t.pan = 0

theorem SnapFilter.filtered_apply (f : SnapFilter) (s : Report) (now : UInt32) :
    s.Filtered (f.apply s now).2 := by
  unfold SnapFilter.apply
  split
  · cases f.mode with
    | vertical => exact ⟨rfl, rfl, rfl, .inl rfl, .inr rfl⟩
    | horizontal => exact ⟨rfl, rfl, rfl, .inr rfl, .inl rfl⟩
    | free => exact ⟨rfl, rfl, rfl, .inl rfl, .inl rfl⟩
  · dsimp only
    split
    · exact ⟨rfl, rfl, rfl, .inl rfl, .inr rfl⟩
    · exact ⟨rfl, rfl, rfl, .inl rfl, .inl rfl⟩

theorem SnapFilter.isClipped_apply (f : SnapFilter) {s : Report} (now : UInt32) {d : Int}
    {total rest : Motion} (hs : s.HasTicks d total rest) :
    IsClipped (f.apply s now).2.wheel ∧ IsClipped (f.apply s now).2.pan := by
  have hfiltered := f.filtered_apply s now
  constructor
  · rcases hfiltered.wheel with hwheel | hwheel
    · exact isClipped_of_neg_clip (hwheel ▸ hs.wheel)
    · exact hwheel ▸ isClipped_zero
  · rcases hfiltered.pan with hpan | hpan
    · exact isClipped_of_neg_clip (hpan ▸ hs.pan)
    · exact hpan ▸ isClipped_zero

namespace Half

/-! ## Both balls -/

/-- One ball moves the pointer, and the other one scrolls, subject to the snap filter. -/
structure Divided (h : Half) (mover scroller : Ball) (now : UInt32) (o : Reported) : Prop where
  move : o.report.HasMove (h.motion mover).peek
  emptied : o.half.motion mover = .empty
  scroll : ∃ s : Report,
    s.HasTicks h.scrollDivisor.toInt (h.motion scroller).peek (o.half.motion scroller).peek ∧
      o.report.wheel = (h.snap.apply s now).2.wheel ∧
      o.report.pan = (h.snap.apply s now).2.pan ∧
      o.half.snap = (h.snap.apply s now).1

/-- Both balls move the pointer, the peer's ball over the own one. -/
structure BothMove (h : Half) (r : Report) (o : Reported) : Prop where
  notices :
    o.notices = [.move h.ownMotion.peek h.isLeft, .move h.peerMotion.peek (!h.isLeft)]
  move : o.report.HasMove h.peerMotion.peek
  emptied : o.half.ownMotion = .empty ∧ o.half.peerMotion = .empty
  scroll : o.report.wheel = r.wheel ∧ o.report.pan = r.pan ∧ o.half.snap = h.snap

/-- Both balls scroll, the peer's ball over the own one, each subject to the snap filter. -/
structure BothScroll (h : Half) (r : Report) (now : UInt32) (o : Reported) : Prop where
  notices : ∃ own peer,
    o.notices = [.scroll own h.isLeft, .scroll peer (!h.isLeft)]
  move : o.report.x = r.x ∧ o.report.y = r.y
  scroll : ∃ s t : Report,
    s.HasTicks h.scrollDivisor.toInt h.ownMotion.peek o.half.ownMotion.peek ∧
      (h.ownMotion = .empty → s.hasScroll = false) ∧
      t.HasTicks h.scrollDivisor.toInt h.peerMotion.peek o.half.peerMotion.peek ∧
      (o.half.snap, o.report) = (h.snap.apply s now).1.apply t now

section Both

variable {h : Half} (hd : 0 < h.scrollDivisor.toInt) {r : Report} {now : UInt32}
  (hemitted : (h.makeReport .standard r now).emitted = true) (hopen : h.isInhibited now = false)

include hd hemitted hopen

theorem divided_of_moving (hball : h.ownBall = true) (hmoves : h.scrolling = false) :
    h.Divided .own .peer now (h.makeReport .standard r now) := by
  have hown : h.isScrolling .own = false := hmoves
  have hpeer : h.isScrolling .peer = true := by
    rw [isScrolling, hmoves, hball]
    rfl
  rw [h.makeReport_of_not_inhibited .standard r now hemitted hopen,
    h.writeBall_of_moving _ r now h.snap hown, h.writeBall_of_scrolling _ _ now _ hpeer,
    h.drained_of_moving hown, h.drained_of_scrolling hpeer]
  -- The filter, which comes last, leaves the pointer axes alone.
  let s := Policy.standardScroll (h.peerMotion.drainTicks h.scrollDivisor).1
    (Policy.standardMove h.ownMotion.peek r h.isLeft) (!h.isLeft)
  have hmove : (h.snap.apply s now).2.HasMove h.ownMotion.peek := by
    have hwritten := Policy.hasMove_standardMove h.ownMotion.peek r h.isLeft
    constructor
    · rw [(h.snap.filtered_apply s now).x]
      exact hwritten.x
    · rw [(h.snap.filtered_apply s now).y]
      exact hwritten.y
  exact ⟨hmove, rfl, s, Policy.hasTicks_standardScroll _ hd _ _, rfl, rfl, rfl⟩

theorem divided_of_scrolling (hball : h.ownBall = true) (hscrolls : h.scrolling = true) :
    h.Divided .peer .own now (h.makeReport .standard r now) := by
  have hown : h.isScrolling .own = true := hscrolls
  have hpeer : h.isScrolling .peer = false := by
    rw [isScrolling, hscrolls, hball]
    rfl
  rw [h.makeReport_of_not_inhibited .standard r now hemitted hopen,
    h.writeBall_of_scrolling _ r now h.snap hown, h.writeBall_of_moving _ _ now _ hpeer,
    h.drained_of_scrolling hown, h.drained_of_moving hpeer]
  refine ⟨Policy.hasMove_standardMove _ _ (!h.isLeft), rfl, ?_⟩
  exact ⟨_, Policy.hasTicks_standardScroll h.ownMotion hd r h.isLeft, rfl, rfl, rfl⟩

omit hd in
theorem bothMove (hball : h.ownBall = false) (hmoves : h.scrolling = false) :
    h.BothMove r (h.makeReport .standard r now) := by
  have hown : h.isScrolling .own = false := hmoves
  have hpeer : h.isScrolling .peer = false := by
    rw [isScrolling, hmoves, hball]
    rfl
  rw [h.makeReport_of_not_inhibited .standard r now hemitted hopen,
    h.writeBall_of_moving _ r now h.snap hown, h.writeBall_of_moving _ _ now _ hpeer,
    h.drained_of_moving hown, h.drained_of_moving hpeer, h.mapping_of_moving hown,
    h.mapping_of_moving hpeer]
  exact ⟨rfl, Policy.hasMove_standardMove _ _ (!h.isLeft), ⟨rfl, rfl⟩, rfl, rfl, rfl⟩

theorem bothScroll (hball : h.ownBall = false) (hscrolls : h.scrolling = true) :
    h.BothScroll r now (h.makeReport .standard r now) := by
  have hown : h.isScrolling .own = true := hscrolls
  have hpeer : h.isScrolling .peer = true := by
    rw [isScrolling, hscrolls, hball]
    rfl
  rw [h.makeReport_of_not_inhibited .standard r now hemitted hopen,
    h.writeBall_of_scrolling _ r now h.snap hown, h.writeBall_of_scrolling _ _ now _ hpeer,
    h.drained_of_scrolling hown, h.drained_of_scrolling hpeer, h.mapping_of_scrolling hown,
    h.mapping_of_scrolling hpeer]
  let s := Policy.standardScroll (h.ownMotion.drainTicks h.scrollDivisor).1 r h.isLeft
  let t := Policy.standardScroll (h.peerMotion.drainTicks h.scrollDivisor).1
    (h.snap.apply s now).2 (!h.isLeft)
  have hs : s.HasTicks h.scrollDivisor.toInt h.ownMotion.peek
      (h.ownMotion.drainTicks h.scrollDivisor).2.peek :=
    Policy.hasTicks_standardScroll _ hd _ _
  have hempty : h.ownMotion = .empty → s.hasScroll = false := by
    intro hnone
    rw [hnone] at hs
    exact Report.hasScroll_of_hasTicks_zero hs
  have hfirst := h.snap.filtered_apply s now
  have hsecond := (h.snap.apply s now).1.filtered_apply t now
  exact ⟨⟨_, _, rfl⟩, ⟨hsecond.x.trans hfirst.x, hsecond.y.trans hfirst.y⟩, s, t, hs, hempty,
    Policy.hasTicks_standardScroll _ hd _ _, rfl⟩

end Both

theorem Divided.isClipped {h : Half} {mover scroller : Ball} {now : UInt32} {o : Reported}
    (hdivided : h.Divided mover scroller now o) :
    (IsClipped o.report.x ∧ IsClipped o.report.y) ∧
      IsClipped o.report.wheel ∧ IsClipped o.report.pan := by
  obtain ⟨s, hticks, hwheel, hpan, -⟩ := hdivided.scroll
  rw [hwheel, hpan]
  exact ⟨hdivided.move.isClipped, h.snap.isClipped_apply now hticks⟩

theorem BothScroll.isClipped {h : Half} {r : Report} {now : UInt32} {o : Reported}
    (hboth : h.BothScroll r now o) : IsClipped o.report.wheel ∧ IsClipped o.report.pan := by
  obtain ⟨s, t, -, -, hticks, hlast⟩ := hboth.scroll
  have hreport : o.report = ((h.snap.apply s now).1.apply t now).2 := congrArg Prod.snd hlast
  rw [hreport]
  exact SnapFilter.isClipped_apply _ now hticks

theorem buttons_writeBall (h : Half) (r : Report) (now : UInt32) (ball : Ball) (f : SnapFilter) :
    (h.writeBall .standard r now ball f).2.buttons = r.buttons := by
  cases hjob : h.isScrolling ball with
  | false =>
    rw [h.writeBall_of_moving _ r now f hjob]
    rfl
  | true =>
    rw [h.writeBall_of_scrolling _ r now f hjob]
    exact (f.filtered_apply _ now).buttons

/-! ## The policy -/

theorem InRange.scrollDivisor_pos {config : Config} {h : Half} (hr : h.InRange config)
    (hpos : 1 ≤ config.scrollDivDefault) (hle : config.scrollDivDefault ≤ scrollDivMax) :
    0 < h.scrollDivisor.toInt := by
  obtain ⟨hone, hseven⟩ := hr.scrollDiv_mem_of_default hpos hle
  rw [toInt_scrollDivisor hone hseven]
  exact Int.pow_pos (by decide)

/-- The second of two reports comes no sooner than the interval after the first. -/
theorem interval_le_of_emitted {config : Config} {h : Half} (reached : Reachable config h)
    {policy : Policy} {r : Report} {now : UInt32}
    (hemitted : (h.makeReport policy r now).emitted = true) {σ : Type} [SettingsStore σ]
    {calls : List (Call σ)} (hsilent : (h.makeReport policy r now).half.IsSilent calls)
    {policy' : Policy} {r' : Report} {later : UInt32}
    (hlater : (((h.makeReport policy r now).half.after calls).makeReport policy' r' later).emitted
      = true) : config.reportInterval ≤ later - now := by
  have hbuild : h.config = config := reached.inRange.build
  have hafter : Reachable config ((h.makeReport policy r now).half.after calls) :=
    (reached.perform ⟨policy, MemoryStore.empty, .report r now⟩).after calls
  have hsteered := h.steered_makeReport policy r now
  rw [hemitted] at hsteered
  have hlast : ((h.makeReport policy r now).half.after calls).lastReport =
      if config.reportInterval = 0 then h.lastReport else now := by
    rw [lastReport_after_of_isSilent hsilent, ← hbuild]
    cases hsteered with
    | report t time same =>
      cases time
      exact congrArg Steering.lastReport same
  obtain ⟨-, hdue⟩ := (emitted_makeReport _ _ _ _).mp hlater
  rw [isReportDue_iff, hafter.inRange.build, hlast] at hdue
  split at hdue
  · next hzero =>
    rw [hzero]
    exact UInt32.le_iff_toNat_le.mpr (Nat.zero_le _)
  · next hne => exact hdue.resolve_left hne

/-- **When there is a report, and what it says.**  For a keyboard without decisions of its own,
after any calls: there is a report exactly on the half on USB once the interval has passed since the
last one, so two reports are never closer than that, and if there is none, nothing changes.

A report for which motion is not discarded keeps the buttons and is remembered.  With a ball on this
half, that ball moves the pointer and the other one scrolls, or the other way round while scrolling
is on.  Without one both move, or both scroll, and the peer's ball has the last word; the axes of
the other job are kept.  Every axis that is written is clipped. -/
theorem report_policy {config : Config} (hpos : 1 ≤ config.scrollDivDefault)
    (hle : config.scrollDivDefault ≤ scrollDivMax) {h : Half} (reached : Reachable config h)
    (r : Report) (now : UInt32) :
    let o := h.makeReport .standard r now
    (o.emitted = true ↔ h.role = .primary ∧
      (config.reportInterval = 0 ∨ config.reportInterval ≤ now - h.lastReport)) ∧
    (o.emitted = true → ∀ {σ : Type} [SettingsStore σ] (calls : List (Call σ)),
      o.half.IsSilent calls → ∀ r' later,
        ((o.half.after calls).makeReport .standard r' later).emitted = true →
          config.reportInterval ≤ later - now) ∧
    (o.emitted = false → o.report = r ∧ o.half = h) ∧
    (o.emitted = true → h.isInhibited now = false →
      o.report.buttons = r.buttons ∧ o.half.lastMouse = o.report ∧
      (h.ownBall = true →
        if h.scrolling then h.Divided .peer .own now o else h.Divided .own .peer now o) ∧
      (h.ownBall = false → if h.scrolling then h.BothScroll r now o else h.BothMove r o) ∧
      (h.ownBall = true ∨ h.scrolling = false →
        IsClipped o.report.x ∧ IsClipped o.report.y) ∧
      (h.ownBall = true ∨ h.scrolling = true →
        IsClipped o.report.wheel ∧ IsClipped o.report.pan)) := by
  intro o
  refine ⟨?_, ?_, ?_, ?_⟩
  · rw [← reached.inRange.build, ← isReportDue_iff]
    exact h.emitted_makeReport .standard r now
  · intro hemitted σ _ calls hsilent r' later hlater
    exact interval_le_of_emitted reached hemitted hsilent hlater
  · intro hidle
    have hsame := h.makeReport_of_not_emitted .standard r now hidle
    exact ⟨congrArg Reported.report hsame, congrArg Reported.half hsame⟩
  · intro hemitted hopen
    have hd := reached.inRange.scrollDivisor_pos hpos hle
    have ho : o = _ := h.makeReport_of_not_inhibited .standard r now hemitted hopen
    have hbuttons : o.report.buttons = r.buttons := by
      rw [ho, buttons_writeBall, buttons_writeBall]
    have hlast : o.half.lastMouse = o.report := by
      rw [ho]
    refine ⟨hbuttons, hlast, ?_⟩
    cases hball : h.ownBall with
    | true =>
      cases hscrolling : h.scrolling with
      | true =>
        have hdivided := divided_of_scrolling hd hemitted hopen hball hscrolling
        have hclipped := hdivided.isClipped
        exact ⟨fun _ => hdivided, nofun, fun _ => hclipped.1, fun _ => hclipped.2⟩
      | false =>
        have hdivided := divided_of_moving hd hemitted hopen hball hscrolling
        have hclipped := hdivided.isClipped
        exact ⟨fun _ => hdivided, nofun, fun _ => hclipped.1, fun _ => hclipped.2⟩
    | false =>
      cases hscrolling : h.scrolling with
      | true =>
        have hboth := bothScroll hd hemitted hopen hball hscrolling
        exact ⟨nofun, fun _ => hboth, nofun, fun _ => hboth.isClipped⟩
      | false =>
        have hboth := bothMove hemitted hopen hball hscrolling
        exact ⟨nofun, fun _ => hboth, fun _ => hboth.move.isClipped, nofun⟩

/-- The own ball rolls far to the right, which is clipped, and the peer's ball scrolls: five counts
to the right and three upward are left of it once the ticks are taken. -/
theorem report_policy_two_balls :
    let calls : List (Call MemoryStore) :=
      [⟨.standard, .empty, .boot true⟩, ⟨.standard, .empty, .accumulate .own ⟨300, -5⟩⟩,
        ⟨.standard, .empty, .accumulate .peer ⟨21, -35⟩⟩]
    let h := (new .board .primary .left).after calls
    let o := h.makeReport .standard ⟨1, 0, 0, 0, 0⟩ 100
    (1 ≤ Config.board.scrollDivDefault ∧ Config.board.scrollDivDefault ≤ scrollDivMax) ∧
      Reachable .board h ∧ h.Divided .own .peer 100 o ∧
      o.report = ⟨1, -127, -5, 4, 0⟩ ∧ o.half.peerMotion.peek = ⟨5, -3⟩ := by
  intro calls h o
  have reached : Reachable .board h := (Reachable.new .primary .left).after calls
  have hpos : 1 ≤ Config.board.scrollDivDefault := by decide
  have hle : Config.board.scrollDivDefault ≤ scrollDivMax := by decide
  have hemitted : o.emitted = true := by decide
  have hopen : h.isInhibited 100 = false := by decide
  obtain ⟨-, -, -, hwritten⟩ := report_policy hpos hle reached ⟨1, 0, 0, 0, 0⟩ 100
  obtain ⟨-, -, hdivided, -⟩ := hwritten hemitted hopen
  exact ⟨⟨hpos, hle⟩, reached, hdivided rfl, by decide +kernel, by decide +kernel⟩

end Half

end TwinBall
