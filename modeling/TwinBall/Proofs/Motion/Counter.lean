import TwinBall.Proofs.Motion.Axis

/-!
# An accumulator is two counters

The two totals of an accumulator share one word.  A `CounterUse` is what can be done with a single
integer that stops at the ends of the 16-bit range; an accumulator that is used in any way answers
and holds, on each axis, what such a counter does that is used alike on that axis alone
(`use?_eq_apply` for one use, `Logged.applyAll` for many).

The entries of a log say what each use found, answered and left.  From them the account of an axis
is drawn up (`Logged.balance`): unless a sum was clipped, what went in is what came out, as
movements, as ticks or discarded, together with what is still there.
-/

namespace TwinBall

/-! ## Counters -/

/-- Something that is done with a counter. -/
inductive CounterUse
  | add (d : Int)
  | drain
  | scroll (d : Int)
  | clear
  | peek

namespace CounterUse

/-- What a counter with the total `t` answers, and its total afterwards. -/
def apply (t : Int) : CounterUse → Int × Int
  | add d => (0, max (-32768) (min 32767 (t + d)))
  | drain => (t, 0)
  | scroll d => (t.tdiv d, t.tmod d)
  | clear => (0, 0)
  | peek => (t, t)

/-- The answers of a counter to uses one after the other, and its total after them. -/
def applyAll (t : Int) : List CounterUse → List Int × Int
  | [] => ([], t)
  | u :: rest =>
    let (answers, total) := applyAll (u.apply t).2 rest
    ((u.apply t).1 :: answers, total)

end CounterUse

/-! ## Uses of an accumulator -/

/-- Something that is done with an accumulator.  Ticks are drained with a positive divisor. -/
inductive AccumulatorUse
  | add (d : Motion)
  | drain
  | scroll (d : Int16) (positive : 0 < d)
  | clear
  | peek

/-- What a use means on an axis. -/
def Axis.use (axis : Axis) : AccumulatorUse → CounterUse
  | .add d => .add (axis.count d)
  | .drain => .drain
  | .scroll d _ => .scroll d.toInt
  | .clear => .clear
  | .peek => .peek

/-- A use that has happened: the total that it found, its answer, and the total that it left. -/
structure AccumulatorEntry where
  use : AccumulatorUse
  before : Motion
  answer : Motion
  after : Motion

namespace AccumulatorEntry

variable (axis : Axis) (e : AccumulatorEntry)

/-- What was put in. -/
def added : Int :=
  match e.use with
  | .add d => axis.count d
  | _ => 0

/-- What was taken out as a movement. -/
def moved : Int :=
  match e.use with
  | .drain => axis.count e.answer
  | _ => 0

/-- What was taken out as ticks, each of which is worth the divisor. -/
def scrolled : Int :=
  match e.use with
  | .scroll d _ => d.toInt * axis.count e.answer
  | _ => 0

def discarded : Int :=
  match e.use with
  | .clear => axis.count e.before
  | _ => 0

/-- Whether a sum left the 16-bit range. -/
def clips : Bool :=
  match e.use with
  | .add d =>
    axis.count e.before + axis.count d < -32768 || 32767 < axis.count e.before + axis.count d
  | _ => false

/-- What a use does on an axis: a sum is clamped and keeps the sign of the exact sum, and ticks are
whole multiples of the divisor that leave a smaller rest of the same sign. -/
structure Sound : Prop where
  sum : ∀ d, e.use = .add d →
    let exact := axis.count e.before + axis.count d
    axis.count e.after = max (-32768) (min 32767 exact) ∧
      (0 < axis.count e.after ↔ 0 < exact) ∧ (axis.count e.after < 0 ↔ exact < 0)
  ticks : ∀ d positive, e.use = .scroll d positive →
    let t := axis.count e.before
    let q := axis.count e.answer
    let r := axis.count e.after
    t = q * d.toInt + r ∧ -d.toInt < r ∧ r < d.toInt ∧ (0 ≤ t → 0 ≤ r) ∧ (t ≤ 0 → r ≤ 0) ∧
      -32768 ≤ q * d.toInt ∧ q * d.toInt ≤ 32767

end AccumulatorEntry

namespace Accumulator

/-- What a use answers, and the accumulator afterwards, unless a quotient does not exist. -/
def use? (a : Accumulator) : AccumulatorUse → Except DivisionFault (Motion × Accumulator)
  | .add d => .ok (.zero, a.add d)
  | .drain => .ok a.drain
  | .scroll d _ => a.drainTicks? d
  | .clear => .ok (.zero, a.clear)
  | .peek => .ok (a.peek, a)

/-- The log of uses one after the other, and the accumulator after them. -/
def useAll? (a : Accumulator) :
    List AccumulatorUse → Except DivisionFault (List AccumulatorEntry × Accumulator)
  | [] => .ok ([], a)
  | u :: rest => do
    let (answer, b) ← a.use? u
    let (entries, c) ← b.useAll? rest
    return (⟨u, a.peek, answer, b.peek⟩ :: entries, c)

/-! ## One use -/

theorem toInt_pos_of_pos {d : Int16} (h : 0 < d) : 0 < d.toInt := Int16.lt_iff_toInt_lt.mp h

/-- Ticks exist for every positive divisor, and are those of the two totals. -/
theorem drainTicks?_of_pos (a : Accumulator) {d : Int16} (h : 0 < d) :
    a.drainTicks? d = .ok (a.drainTicks d) := by
  have hpos := toInt_pos_of_pos h
  refine a.drainTicks?_eq_ok ?_ ?_
  · rintro rfl
    exact absurd hpos (by decide)
  · rintro rfl
    exact absurd hpos (by decide)

theorem count_drainTicks (axis : Axis) (a : Accumulator) {d : Int16} (h : 0 < d) :
    axis.count (a.drainTicks d).1 = (axis.count a.peek).tdiv d.toInt ∧
      axis.count (a.drainTicks d).2.peek = (axis.count a.peek).tmod d.toInt := by
  rw [drainTicks_fst, peek_drainTicks_snd]
  cases axis with
  | x => exact toInt_divideCounts a.peek.x (toInt_pos_of_pos h)
  | y => exact toInt_divideCounts a.peek.y (toInt_pos_of_pos h)

/-- **A use is, on each axis, the use of a counter.** -/
theorem use?_eq_apply (a : Accumulator) (u : AccumulatorUse) :
    ∃ answer b, a.use? u = .ok (answer, b) ∧ ∀ axis : Axis,
      (axis.use u).apply (axis.count a.peek) = (axis.count answer, axis.count b.peek) := by
  cases u with
  | add d =>
    refine ⟨.zero, a.add d, rfl, fun axis => ?_⟩
    rw [peek_add, axis.count_add_eq_clamp, axis.count_zero]
    rfl
  | drain =>
    refine ⟨a.peek, .empty, rfl, fun axis => ?_⟩
    rw [peek_empty, axis.count_zero]
    rfl
  | scroll d positive =>
    refine ⟨(a.drainTicks d).1, (a.drainTicks d).2, a.drainTicks?_of_pos positive, fun axis => ?_⟩
    obtain ⟨hticks, hrest⟩ := a.count_drainTicks axis positive
    rw [hticks, hrest]
    rfl
  | clear =>
    refine ⟨.zero, a.clear, rfl, fun axis => ?_⟩
    rw [peek_clear, axis.count_zero]
    rfl
  | peek => exact ⟨a.peek, a, rfl, fun axis => rfl⟩

end Accumulator

namespace AccumulatorEntry

variable {axis : Axis} {e : AccumulatorEntry}

/-- What a counter does is sound. -/
theorem sound_of_apply
    (h : (axis.use e.use).apply (axis.count e.before) = (axis.count e.answer, axis.count e.after)) :
    e.Sound axis := by
  constructor
  · intro d hd exact
    rw [hd] at h
    have hafter : max (-32768) (min 32767 exact) = axis.count e.after := congrArg Prod.snd h
    omega
  · intro d positive hd t q r
    rw [hd] at h
    have hquotient : t.tdiv d.toInt = q := congrArg Prod.fst h
    have hrest : t.tmod d.toInt = r := congrArg Prod.snd h
    have hpos := Accumulator.toInt_pos_of_pos positive
    have hsum := Int.tdiv_mul_add_tmod t d.toInt
    have hsmall := tmod_bounds t hpos
    have hbounds := tdiv_bounds t hpos
    have hrange := axis.count_mem e.before
    rw [hquotient] at hsum hbounds
    rw [hrest] at hsum hsmall
    omega

/-- One use balances: what goes in is what comes out and what stays more than before. -/
theorem balance_of_apply
    (h : (axis.use e.use).apply (axis.count e.before) = (axis.count e.answer, axis.count e.after))
    (hclips : e.clips axis = false) :
    axis.count e.before + e.added axis =
      e.moved axis + e.scrolled axis + e.discarded axis + axis.count e.after := by
  obtain ⟨u, before, answer, after⟩ := e
  have hanswer := congrArg Prod.fst h
  have hafter := congrArg Prod.snd h
  cases u with
  | add d =>
    have hrange : ¬ axis.count before + axis.count d < -32768 ∧
        ¬ 32767 < axis.count before + axis.count d := by
      simpa [clips] using hclips
    simp only [Axis.use, CounterUse.apply] at hafter
    simp only [added, moved, scrolled, discarded]
    omega
  | scroll d positive =>
    -- The worth of the ticks stays a product, which `omega` takes for one number.
    simp only [Axis.use, CounterUse.apply] at hanswer hafter
    have hsum := Int.mul_tdiv_add_tmod (axis.count before) d.toInt
    rw [hanswer, hafter] at hsum
    simp only [added, moved, scrolled, discarded]
    omega
  | drain | clear | peek =>
    simp only [Axis.use, CounterUse.apply] at hanswer hafter
    simp only [added, moved, scrolled, discarded]
    omega

end AccumulatorEntry

namespace Accumulator

/-! ## Any uses -/

/-- From `a` to `c` the uses of a log happened, one after the other. -/
inductive Logged : Accumulator → List AccumulatorEntry → Accumulator → Prop
  | nil (a : Accumulator) : Logged a [] a
  | cons {a b c : Accumulator} {u : AccumulatorUse} {answer : Motion}
      {entries : List AccumulatorEntry} (first : a.use? u = .ok (answer, b))
      (others : Logged b entries c) : Logged a (⟨u, a.peek, answer, b.peek⟩ :: entries) c

/-- Every use gives an answer. -/
theorem useAll?_eq_ok (a : Accumulator) (uses : List AccumulatorUse) :
    ∃ entries b, a.useAll? uses = .ok (entries, b) ∧
      entries.map AccumulatorEntry.use = uses ∧ Logged a entries b := by
  induction uses generalizing a with
  | nil => exact ⟨[], a, rfl, rfl, .nil a⟩
  | cons u rest ih =>
    obtain ⟨answer, b, hfirst, -⟩ := a.use?_eq_apply u
    obtain ⟨entries, c, hothers, huses, hlogged⟩ := ih b
    refine ⟨⟨u, a.peek, answer, b.peek⟩ :: entries, c, ?_, congrArg (u :: ·) huses,
      .cons hfirst hlogged⟩
    simp [useAll?, hfirst, hothers, bind, Except.bind, pure, Except.pure]

namespace Logged

variable {a b : Accumulator} {entries : List AccumulatorEntry}

/-- Each entry of a log is, on each axis, what a counter does. -/
theorem apply_of_mem (h : Logged a entries b) {e : AccumulatorEntry} (he : e ∈ entries)
    (axis : Axis) :
    (axis.use e.use).apply (axis.count e.before) = (axis.count e.answer, axis.count e.after) := by
  induction h with
  | nil => cases he
  | @cons a _ _ u _ _ first others ih =>
    rcases List.mem_cons.mp he with rfl | hmem
    · obtain ⟨answer, b, huse, happly⟩ := a.use?_eq_apply u
      rw [first] at huse
      cases huse
      exact happly axis
    · exact ih hmem

/-- On each axis, the answers of a log and the total after it are those of a counter. -/
theorem applyAll (h : Logged a entries b) (axis : Axis) :
    CounterUse.applyAll (axis.count a.peek) ((entries.map AccumulatorEntry.use).map axis.use) =
      (entries.map fun e => axis.count e.answer, axis.count b.peek) := by
  induction h with
  | nil => rfl
  | cons first others ih =>
    have happly := (Logged.cons first others).apply_of_mem List.mem_cons_self axis
    simp only [List.map_cons, CounterUse.applyAll, happly, ih]

/-- Where no sum is clipped, what was there and what was added is what came out and what is left. -/
theorem balance (h : Logged a entries b) (axis : Axis)
    (hclips : ∀ e ∈ entries, e.clips axis = false) :
    axis.count a.peek + (entries.map (·.added axis)).sum =
      (entries.map (·.moved axis)).sum + (entries.map (·.scrolled axis)).sum +
        (entries.map (·.discarded axis)).sum + axis.count b.peek := by
  induction h with
  | nil => simp
  | @cons a b _ u answer entries first others ih =>
    have hfirst := AccumulatorEntry.balance_of_apply
      ((Logged.cons first others).apply_of_mem List.mem_cons_self axis)
      (hclips _ List.mem_cons_self)
    have hothers := ih fun e he => hclips e (List.mem_cons_of_mem _ he)
    dsimp only at hfirst
    simp only [List.map_cons, List.sum_cons]
    omega

end Logged

/-- **Two saturating counters that lose no motion.**  Whatever is done with a new accumulator, each
use gives an answer.  On each axis, the answers and the total are those of a counter that is used
alike on that axis.  Every sum is clamped and keeps the sign of the exact sum; ticks times the
divisor and the rest make up the total, the rest is smaller than the divisor and has the sign of the
total, and nothing leaves the 16-bit range on the way.  If no sum was clipped, what was added is
what was drained as movements and as ticks, what was discarded, and what is left. -/
theorem two_counters_conserve_motion (uses : List AccumulatorUse) :
    ∃ entries a, empty.useAll? uses = .ok (entries, a) ∧
      entries.map AccumulatorEntry.use = uses ∧ ∀ axis : Axis,
        CounterUse.applyAll 0 (uses.map axis.use) =
          (entries.map fun e => axis.count e.answer, axis.count a.peek) ∧
        (∀ e ∈ entries, e.Sound axis) ∧
        ((∀ e ∈ entries, e.clips axis = false) →
          (entries.map (·.added axis)).sum =
            (entries.map (·.moved axis)).sum + (entries.map (·.scrolled axis)).sum +
              (entries.map (·.discarded axis)).sum + axis.count a.peek) := by
  obtain ⟨entries, a, hlog, huses, hlogged⟩ := empty.useAll?_eq_ok uses
  refine ⟨entries, a, hlog, huses, fun axis => ?_⟩
  have hzero : axis.count empty.peek = 0 := by rw [peek_empty, axis.count_zero]
  refine ⟨?_, fun e he => ?_, fun hclips => ?_⟩
  · have hcounter := hlogged.applyAll axis
    rw [hzero, huses] at hcounter
    exact hcounter
  · exact AccumulatorEntry.sound_of_apply (hlogged.apply_of_mem he axis)
  · have hbalance := hlogged.balance axis hclips
    rw [hzero, Int.zero_add] at hbalance
    exact hbalance

end Accumulator

end TwinBall
