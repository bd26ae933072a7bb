import Mathlib.Algebra.Ring.Int.Defs
import TwinBall.Snap

/-!
# Horizontal ticks under tension

A filter under tension swallows horizontal ticks until their sum has reached the threshold, and from
then on lets them pass, until a pause in scrolling resets it.

The law is said of whole histories of reports.  `sinceReset` counts the reports since the last reset
from the reports and their times alone, without looking into the filter.  The tension of the filter
is the sum of the ticks that it swallowed since then (`tension_after`), and up to a threshold of 127
it tells whether the sum of all ticks since then has reached the threshold (`tracks_after`).
-/

namespace TwinBall

/-- The reports that a filter was given, each with its time, the latest first. -/
abbrev ScrollHistory := List (Report × UInt32)

namespace ScrollHistory

/-- When the last report with scroll ticks came, `0` if there was none. -/
def lastTicks : ScrollHistory → UInt32
  | [] => 0
  | (r, now) :: before => if r.hasScroll then now else lastTicks before

/-- Whether a report without scroll ticks ends a pause that is long enough. -/
def isReset (before : ScrollHistory) (resetAfter : UInt32) (r : Report) (now : UInt32) : Bool :=
  !r.hasScroll && now - lastTicks before ≥ resetAfter

/-- The number of reports since the last reset. -/
def sinceReset (resetAfter : UInt32) : ScrollHistory → Nat
  | [] => 0
  | (r, now) :: before =>
    if isReset before resetAfter r now then 0 else sinceReset resetAfter before + 1

/-- The horizontal ticks of the reports since the last reset, the latest first. -/
def ticks (resetAfter : UInt32) (history : ScrollHistory) : List Int :=
  (history.take (sinceReset resetAfter history)).map fun c => c.1.pan.toInt

theorem pan_of_isReset {before : ScrollHistory} {resetAfter : UInt32} {r : Report} {now : UInt32}
    (hreset : isReset before resetAfter r now = true) : r.pan = 0 := by
  have hquiet : r.hasScroll = false := by
    simp only [isReset, Bool.and_eq_true, Bool.not_eq_true'] at hreset
    exact hreset.1
  simp only [Report.hasScroll, Bool.or_eq_false_iff, bne_eq_false_iff_eq] at hquiet
  exact hquiet.1

theorem ticks_cons (resetAfter : UInt32) (before : ScrollHistory) (r : Report) (now : UInt32) :
    ticks resetAfter ((r, now) :: before) =
      if isReset before resetAfter r now then [] else r.pan.toInt :: ticks resetAfter before := by
  rw [ticks, sinceReset]
  split
  · rfl
  · rfl

end ScrollHistory

/-! ## Sums of ticks -/

/-- The sum of ticks, given with the latest first, held within the range of an axis after each. -/
def heldSum (ticks : List Int) : Int :=
  ticks.foldr (fun tick sum => max (-128) (min 127 (sum + tick))) 0

/-- Whether the sum of ticks, given with the latest first, was at the threshold or beyond, on either
side, after any of them. -/
def Reached (threshold : UInt8) (ticks : List Int) : Prop :=
  ∃ earlier, earlier <:+ ticks ∧ threshold.toNat ≤ earlier.sum.natAbs

theorem reached_nil {threshold : UInt8} : Reached threshold [] ↔ threshold.toNat = 0 := by
  simp [Reached, List.suffix_nil]

theorem reached_cons {threshold : UInt8} {tick : Int} {ticks : List Int} :
    Reached threshold (tick :: ticks) ↔
      threshold.toNat ≤ (tick + ticks.sum).natAbs ∨ Reached threshold ticks := by
  simp only [Reached, List.suffix_cons_iff]
  constructor
  · rintro ⟨earlier, rfl | hsuffix, hsum⟩
    · exact .inl (by simpa using hsum)
    · exact .inr ⟨earlier, hsuffix, hsum⟩
  · rintro (hsum | ⟨earlier, hsuffix, hsum⟩)
    · exact ⟨tick :: ticks, .inl rfl, by simpa using hsum⟩
    · exact ⟨earlier, .inr hsuffix, hsum⟩

/-- A tension is the sum of all ticks until this sum has reached the threshold, and from then on
stays at the threshold or beyond. -/
structure Tracks (threshold : UInt8) (ticks : List Int) (tension : Int) : Prop where
  sum : ¬ Reached threshold ticks → tension = ticks.sum ∧ tension.natAbs < threshold.toNat
  beyond : Reached threshold ticks → threshold.toNat ≤ tension.natAbs

namespace Tracks

variable {threshold : UInt8} {ticks : List Int} {tension : Int}

theorem nil (hlow : 1 ≤ threshold.toNat) : Tracks threshold [] 0 where
  sum _ := ⟨rfl, hlow⟩
  beyond hreached := by
    have hzero := reached_nil.mp hreached
    omega

theorem reached_iff (h : Tracks threshold ticks tension) :
    Reached threshold ticks ↔ threshold.toNat ≤ tension.natAbs := by
  refine ⟨h.beyond, fun hbeyond => Classical.byContradiction fun hnot => ?_⟩
  have hsmall := (h.sum hnot).2
  omega

/-- The axis can hold every sum up to the threshold, so a sum that is clipped has reached it. -/
theorem cons (h : Tracks threshold ticks tension) (hhigh : threshold.toNat ≤ 127) (tick : Int) :
    Tracks threshold (tick :: ticks)
      (if tension.natAbs < threshold.toNat then max (-128) (min 127 (tension + tick))
        else tension) := by
  by_cases hbefore : Reached threshold ticks
  · have hbeyond := h.beyond hbefore
    rw [if_neg (by omega)]
    exact ⟨fun hnot => absurd (reached_cons.mpr (.inr hbefore)) hnot, fun _ => hbeyond⟩
  · obtain ⟨hsum, hbelow⟩ := h.sum hbefore
    rw [if_pos hbelow, hsum]
    constructor
    · intro hnot
      rw [reached_cons, not_or] at hnot
      have hsmall := hnot.1
      rw [List.sum_cons]
      omega
    · intro hreached
      have hlarge := (reached_cons.mp hreached).resolve_right hbefore
      omega

end Tracks

namespace SnapFilter

open ScrollHistory

/-- The filter after a history. -/
def after (f : SnapFilter) : ScrollHistory → SnapFilter
  | [] => f
  | (r, now) :: before => ((f.after before).apply r now).1

/-- The horizontal ticks that the filter swallowed, report by report, the latest first. -/
def swallowed (f : SnapFilter) : ScrollHistory → List Int
  | [] => []
  | (r, now) :: before =>
    (r.pan.toInt - ((f.after before).apply r now).2.pan.toInt) :: f.swallowed before

/-! ## One report -/

theorem lastScroll_observe (f : SnapFilter) (resetAfter : UInt32) (r : Report) (now : UInt32) :
    (f.observe resetAfter r now).lastScroll = if r.hasScroll then now else f.lastScroll := by
  unfold observe
  split
  · rfl
  · split
    · rfl
    · rfl

section Step

variable {f : SnapFilter} {threshold : UInt8} {resetAfter : UInt32}
  (hf : f.strategy = .tension threshold resetAfter) (r : Report) (now : UInt32)

include hf

theorem apply_eq :
    f.apply r now =
      if (f.observe resetAfter r now).tension.toInt.natAbs < threshold.toNat then
        (f.observe resetAfter r now).hold r
      else (f.observe resetAfter r now, r) := by
  simp only [apply, hf, isHolding, decide_eq_true_eq]

/-- A report is let through, or its horizontal ticks are swallowed. -/
theorem report_apply :
    (f.apply r now).2 =
      if (f.observe resetAfter r now).tension.toInt.natAbs < threshold.toNat then
        { r with pan := 0 }
      else r := by
  rw [apply_eq hf]
  split
  · rfl
  · rfl

/-- What is swallowed goes into the tension. -/
theorem tension_apply :
    (f.apply r now).1.tension.toInt =
      if (f.observe resetAfter r now).tension.toInt.natAbs < threshold.toNat then
        max (-128) (min 127 ((f.observe resetAfter r now).tension.toInt + r.pan.toInt))
      else (f.observe resetAfter r now).tension.toInt := by
  rw [apply_eq hf]
  split
  · exact toInt_addAxes _ _
  · rfl

/-- The same without a look at the threshold. -/
theorem tension_apply_eq_add :
    (f.apply r now).1.tension.toInt =
      max (-128) (min 127 ((f.observe resetAfter r now).tension.toInt +
        (r.pan.toInt - (f.apply r now).2.pan.toInt))) := by
  have hlow := (f.observe resetAfter r now).tension.le_toInt
  have hhigh := (f.observe resetAfter r now).tension.toInt_lt
  rw [tension_apply hf, report_apply hf]
  split
  · rw [Int8.toInt_zero, Int.sub_zero]
  · omega

theorem lastScroll_apply :
    (f.apply r now).1.lastScroll = if r.hasScroll then now else f.lastScroll := by
  rw [apply_eq hf, ← f.lastScroll_observe resetAfter r now]
  split
  · rfl
  · rfl

end Step

/-! ## A history -/

section History

variable (threshold : UInt8) (resetAfter : UInt32) (history : ScrollHistory)

theorem strategy_after :
    ((new (.tension threshold resetAfter)).after history).strategy =
      .tension threshold resetAfter := by
  induction history with
  | nil => rfl
  | cons c before ih => rw [after, strategy_apply, ih]

theorem lastScroll_after :
    ((new (.tension threshold resetAfter)).after history).lastScroll = lastTicks history := by
  induction history with
  | nil => rfl
  | cons c before ih =>
    rw [after, lastScroll_apply (strategy_after threshold resetAfter before), ih, lastTicks]

/-- The tension is let go by a reset, and by nothing else. -/
theorem tension_observe (r : Report) (now : UInt32) :
    let f := (new (.tension threshold resetAfter)).after history
    (f.observe resetAfter r now).tension.toInt =
      if isReset history resetAfter r now then 0 else f.tension.toInt := by
  intro f
  have hlast : f.lastScroll = lastTicks history := lastScroll_after threshold resetAfter history
  unfold observe isReset
  rw [hlast]
  by_cases hscroll : r.hasScroll = true
  · simp [hscroll]
  · by_cases hpause : resetAfter ≤ now - lastTicks history
    · simp [hscroll, hpause]
    · simp [hscroll, hpause]

/-- A reset has no horizontal ticks, and leaves no tension. -/
theorem apply_of_isReset {r : Report} {now : UInt32}
    (hreset : isReset history resetAfter r now = true) :
    let f := (new (.tension threshold resetAfter)).after history
    (f.apply r now).1.tension.toInt = 0 ∧ (f.apply r now).2 = r := by
  intro f
  have hstrategy := strategy_after threshold resetAfter history
  have hobserve : (f.observe resetAfter r now).tension.toInt = _ :=
    tension_observe threshold resetAfter history r now
  have hpan := pan_of_isReset hreset
  have hsame : { r with pan := 0 } = r := by rw [← hpan]
  rw [if_pos hreset] at hobserve
  rw [tension_apply hstrategy, report_apply hstrategy, hobserve, hpan, hsame]
  exact ⟨ite_self _, ite_self _⟩

/-- **The tension is the held sum of the ticks swallowed since the last reset.** -/
theorem tension_after :
    let start := new (.tension threshold resetAfter)
    (start.after history).tension.toInt =
      heldSum ((start.swallowed history).take (sinceReset resetAfter history)) := by
  intro start
  induction history with
  | nil => rfl
  | cons c before ih =>
    obtain ⟨r, now⟩ := c
    have hstrategy := strategy_after threshold resetAfter before
    have hobserve := tension_observe threshold resetAfter before r now
    rw [after, sinceReset]
    cases hreset : isReset before resetAfter r now with
    | true => exact (apply_of_isReset threshold resetAfter before hreset).1
    | false =>
      rw [hreset] at hobserve
      rw [tension_apply_eq_add hstrategy, hobserve, swallowed]
      exact congrArg (fun sum => max (-128) (min 127 (sum + _))) ih

/-- Up to a threshold that an axis can hold, the tension tells whether the sum of all ticks since
the last reset has reached the threshold. -/
theorem tracks_after (hlow : 1 ≤ threshold.toNat) (hhigh : threshold.toNat ≤ 127) :
    Tracks threshold (ticks resetAfter history)
      ((new (.tension threshold resetAfter)).after history).tension.toInt := by
  induction history with
  | nil => exact .nil hlow
  | cons c before ih =>
    obtain ⟨r, now⟩ := c
    have hobserve := tension_observe threshold resetAfter before r now
    rw [after, ticks_cons]
    cases hreset : isReset before resetAfter r now with
    | true =>
      rw [(apply_of_isReset threshold resetAfter before hreset).1]
      exact .nil hlow
    | false =>
      rw [hreset] at hobserve
      rw [tension_apply (strategy_after threshold resetAfter before), hobserve]
      exact ih.cons hhigh r.pan.toInt

end History

/-- **Horizontal ticks under tension.**  A new filter is given any history of reports, and then
another report.

Only the horizontal ticks of the report can change, and only to zero.  The tension is the sum of the
ticks swallowed since the last reset, held within the range of an axis.  With a threshold between 1
and 127, the ticks are swallowed as long as the sum of all ticks since the last reset has never
reached the threshold on either side; once it has, they pass and the tension stays as it is until
the next reset.  With the threshold `0` nothing is ever swallowed, and with a threshold above 128 no
horizontal tick ever passes. -/
theorem ticks_pass_once_threshold_reached (threshold : UInt8) (resetAfter : UInt32)
    (history : ScrollHistory) (r : Report) (now : UInt32) :
    let start := new (.tension threshold resetAfter)
    let f := start.after history
    let o := f.apply r now
    (o.2 = r ∨ o.2 = { r with pan := 0 }) ∧
    f.tension.toInt = heldSum ((start.swallowed history).take (sinceReset resetAfter history)) ∧
    (1 ≤ threshold ∧ threshold ≤ 127 →
      (¬ Reached threshold (ticks resetAfter history) → o.2 = { r with pan := 0 }) ∧
      (Reached threshold (ticks resetAfter history) →
        o.2 = r ∧ (isReset history resetAfter r now = false → o.1.tension = f.tension))) ∧
    (threshold = 0 → o.2 = r) ∧
    (128 < threshold → o.2 = { r with pan := 0 }) := by
  intro start f o
  have hstrategy : f.strategy = .tension threshold resetAfter :=
    strategy_after threshold resetAfter history
  have hreport : o.2 = _ := report_apply hstrategy r now
  have htension : o.1.tension.toInt = _ := tension_apply hstrategy r now
  have hobserve := tension_observe threshold resetAfter history r now
  refine ⟨?_, tension_after threshold resetAfter history, ?_, ?_, ?_⟩
  · rw [hreport]
    split
    · exact .inr rfl
    · exact .inl rfl
  · rintro ⟨hlow, hhigh⟩
    rw [UInt8.le_iff_toNat_le] at hlow hhigh
    have htracks := tracks_after threshold resetAfter history hlow hhigh
    rw [htracks.reached_iff]
    cases hreset : isReset history resetAfter r now with
    | true =>
      -- The tension is gone, but then there are no ticks that could pass.
      have hsame : { r with pan := 0 } = r := by rw [← pan_of_isReset hreset]
      have hkept := (apply_of_isReset threshold resetAfter history hreset).2
      exact ⟨fun _ => hkept.trans hsame.symm, fun _ => ⟨hkept, fun hopen => absurd hopen (by simp)⟩⟩
    | false =>
      rw [hreset] at hobserve
      rw [hobserve] at hreport htension
      refine ⟨fun hbelow => hreport.trans (if_pos (Nat.lt_of_not_le hbelow)), fun hbeyond => ?_⟩
      have hnot : ¬ f.tension.toInt.natAbs < threshold.toNat := Nat.not_lt.mpr hbeyond
      exact ⟨hreport.trans (if_neg hnot), fun _ => Int8.toInt_inj.mp (htension.trans (if_neg hnot))⟩
  · rintro rfl
    exact hreport.trans (if_neg (Nat.not_lt_zero _))
  · intro hlarge
    have hbig : 128 < threshold.toNat := UInt8.lt_iff_toNat_lt.mp hlarge
    have hlow := (f.observe resetAfter r now).tension.le_toInt
    have hhigh := (f.observe resetAfter r now).tension.toInt_lt
    exact hreport.trans (if_pos (by omega))

/-- After a pause the nine ticks from before it no longer count.  The sum of the ticks that follow
goes up to 7, down to 5 and up to 13, so the next ticks pass, although they go the other way. -/
theorem ticks_pass_after_pause :
    let scroll (pan : Int8) : Report := { Report.empty with pan := pan, wheel := 1 }
    let history : ScrollHistory :=
      [(scroll 8, 174), (scroll (-2), 166), (scroll 7, 158), (.empty, 150), (scroll 9, 0)]
    let f := (new (.tension 12 100)).after history
    let o := f.apply (scroll (-3)) 182
    ((1 : UInt8) ≤ 12 ∧ (12 : UInt8) ≤ 127) ∧ Reached 12 (ticks 100 history) ∧
      isReset history 100 (scroll (-3)) 182 = false ∧
      f.tension.toInt = 13 ∧ o.2 = scroll (-3) ∧ o.1.tension = f.tension := by
  intro scroll history
  have hrange : (1 : UInt8) ≤ 12 ∧ (12 : UInt8) ≤ 127 := by decide
  have hticks : ticks 100 history = [8, -2, 7] := by decide
  have hreached : Reached 12 (ticks 100 history) :=
    hticks ▸ ⟨[8, -2, 7], List.suffix_rfl, by decide⟩
  have hopen : isReset history 100 (scroll (-3)) 182 = false := by decide
  obtain ⟨-, hsum, hmiddle, -, -⟩ :=
    ticks_pass_once_threshold_reached 12 100 history (scroll (-3)) 182
  obtain ⟨hpass, hstays⟩ := (hmiddle hrange).2 hreached
  have hheld : heldSum (((new (.tension 12 100)).swallowed history).take
      (sinceReset 100 history)) = 13 := by decide
  exact ⟨hrange, hreached, hopen, hsum.trans hheld, hpass, hstays hopen⟩

end SnapFilter

end TwinBall
