import Mathlib.Algebra.BigOperators.Group.List.Basic
import Mathlib.Algebra.Ring.Int.Defs
import TwinBall.Report

/-!
# Reports merged one after the other

When the host is slow, any number of reports is folded into one, and each of them keeps what did not
fit.  On every axis nothing is lost and nothing is counted twice, however often the axis was full on
the way (`reports_merge_without_loss`).

What a single fold does on an axis is said once, in `foldAxis_cases`: it is the exact sum, or the
axis is full and the rest goes the same way as the movement that was folded in.
-/

namespace TwinBall

/-- What a report measures. -/
inductive ReportAxis
  | x
  | y
  | wheel
  | pan
  deriving DecidableEq, Repr

namespace Report

/-- The movement of a report on an axis. -/
def on (r : Report) : ReportAxis → Int8
  | .x => r.x
  | .y => r.y
  | .wheel => r.wheel
  | .pan => r.pan

/-- The movement of reports on an axis, all in all. -/
def total (a : ReportAxis) (rs : List Report) : Int := (rs.map fun r => (r.on a).toInt).sum

@[simp] theorem total_nil (a : ReportAxis) : total a [] = 0 := rfl

@[simp] theorem total_cons (a : ReportAxis) (r : Report) (rs : List Report) :
    total a (r :: rs) = (r.on a).toInt + total a rs := by
  rw [total, List.map_cons, List.sum_cons, total]

/-! ## One report -/

/-- What does not fit, in the wide arithmetic in which it is computed. -/
def wideRest (acc next kept : Int8) : Int16 := acc.toInt16 + next.toInt16 - kept.toInt16

/-- The wide arithmetic never wraps. -/
theorem toInt_wideRest (acc next kept : Int8) :
    (wideRest acc next kept).toInt = acc.toInt + next.toInt - kept.toInt := by
  have hacc := acc.le_toInt
  have hacc' := acc.toInt_lt
  have hnext := next.le_toInt
  have hnext' := next.toInt_lt
  have hkept := kept.le_toInt
  have hkept' := kept.toInt_lt
  have hsum : (acc.toInt + next.toInt).bmod (2 ^ 16) = acc.toInt + next.toInt :=
    Int.bmod_eq_of_le (by omega) (by omega)
  simp only [wideRest, Int16.toInt_sub, Int16.toInt_add, Int8.toInt_toInt16, hsum]
  exact Int.bmod_eq_of_le (by omega) (by omega)

/-- What is left over is just what does not fit. -/
theorem toInt_rest (acc next : Int8) :
    (foldAxis acc next).2.toInt = (wideRest acc next (foldAxis acc next).1).toInt := by
  have hsum := toInt_foldAxis acc next
  rw [toInt_wideRest]
  omega

/-- A fold fits, or the axis is full at the end toward which the movement goes. -/
theorem foldAxis_cases (acc next : Int8) :
    (foldAxis acc next).2 = 0 ∨
      (foldAxis acc next).1 = 127 ∧ 0 < (foldAxis acc next).2.toInt ∧ 0 < next.toInt ∨
      (foldAxis acc next).1 = -128 ∧ (foldAxis acc next).2.toInt < 0 ∧ next.toInt < 0 := by
  have hkept : (foldAxis acc next).1.toInt = max (-128) (min 127 (acc.toInt + next.toInt)) :=
    toInt_addAxes acc next
  have hsum := toInt_foldAxis acc next
  have hlow := acc.le_toInt
  have hhigh := acc.toInt_lt
  generalize foldAxis acc next = fold at hkept hsum ⊢
  rcases Int.lt_trichotomy fold.2.toInt 0 with hneg | hzero | hpos
  · have hfull : fold.1.toInt = -128 := by omega
    exact .inr (.inr ⟨Int8.toInt_inj.mp hfull, hneg, by omega⟩)
  · exact .inl (Int8.toInt_inj.mp hzero)
  · have hfull : fold.1.toInt = 127 := by omega
    exact .inr (.inl ⟨Int8.toInt_inj.mp hfull, hpos, by omega⟩)

/-- The rest has the sign of the movement, and without a full axis there is none. -/
theorem rest_cases (acc next : Int8) :
    (foldAxis acc next).2 = 0 ∨
      ((foldAxis acc next).1 = -128 ∨ (foldAxis acc next).1 = 127) ∧
        (foldAxis acc next).2.toInt.sign = next.toInt.sign := by
  rcases foldAxis_cases acc next with hzero | ⟨hfull, hrest, hnext⟩ | ⟨hfull, hrest, hnext⟩
  · exact .inl hzero
  · refine .inr ⟨.inr hfull, ?_⟩
    rw [Int.sign_eq_one_of_pos hrest, Int.sign_eq_one_of_pos hnext]
  · refine .inr ⟨.inl hfull, ?_⟩
    rw [Int.sign_eq_neg_one_of_neg hrest, Int.sign_eq_neg_one_of_neg hnext]

@[simp] theorem on_coalesce_fst (a : ReportAxis) (acc next : Report) :
    (coalesce acc next).1.on a = (foldAxis (acc.on a) (next.on a)).1 := by
  cases a with
  | x | y | wheel | pan => rfl

@[simp] theorem on_coalesce_snd (a : ReportAxis) (acc next : Report) :
    (coalesce acc next).2.on a = (foldAxis (acc.on a) (next.on a)).2 := by
  cases a with
  | x | y | wheel | pan => rfl

/-! ## Many reports -/

/-- Folds values into `acc` one after the other, on one axis.  Answers what they come to and what
each of them leaves over. -/
def foldAxisAll (acc : Int8) : List Int8 → Int8 × List Int8
  | [] => (acc, [])
  | next :: nexts =>
    let (acc, rest) := foldAxis acc next
    let (acc, rests) := foldAxisAll acc nexts
    (acc, rest :: rests)

/-- Folds reports into `acc` one after the other.  Answers the merged report and what each of them
leaves over. -/
def coalesceAll (acc : Report) : List Report → Report × List Report
  | [] => (acc, [])
  | next :: nexts =>
    let (acc, rest) := coalesce acc next
    let (acc, rests) := coalesceAll acc nexts
    (acc, rest :: rests)

theorem coalesceAll_cons (acc next : Report) (nexts : List Report) :
    coalesceAll acc (next :: nexts) =
      ((coalesceAll (coalesce acc next).1 nexts).1,
        (coalesce acc next).2 :: (coalesceAll (coalesce acc next).1 nexts).2) := rfl

theorem coalesceAll_append (acc : Report) (nexts more : List Report) :
    coalesceAll acc (nexts ++ more) =
      ((coalesceAll (coalesceAll acc nexts).1 more).1,
        (coalesceAll acc nexts).2 ++ (coalesceAll (coalesceAll acc nexts).1 more).2) := by
  induction nexts generalizing acc with
  | nil => rfl
  | cons next nexts ih =>
    rw [List.cons_append, coalesceAll_cons, ih, coalesceAll_cons, List.cons_append]

@[simp] theorem length_coalesceAll (acc : Report) (nexts : List Report) :
    (coalesceAll acc nexts).2.length = nexts.length := by
  induction nexts generalizing acc with
  | nil => rfl
  | cons next nexts ih => rw [coalesceAll_cons, List.length_cons, ih, List.length_cons]

/-- An axis is folded by itself. -/
theorem on_coalesceAll (a : ReportAxis) (acc : Report) (nexts : List Report) :
    ((coalesceAll acc nexts).1.on a, (coalesceAll acc nexts).2.map fun r => r.on a) =
      foldAxisAll (acc.on a) (nexts.map fun r => r.on a) := by
  induction nexts generalizing acc with
  | nil => rfl
  | cons next nexts ih =>
    obtain ⟨hmerged, hleft⟩ := Prod.mk.inj (ih (coalesce acc next).1)
    rw [coalesceAll_cons, List.map_cons, List.map_cons, foldAxisAll, hmerged, hleft,
      on_coalesce_fst, on_coalesce_snd]

theorem total_coalesceAll (a : ReportAxis) (acc : Report) (nexts : List Report) :
    ((coalesceAll acc nexts).1.on a).toInt + total a (coalesceAll acc nexts).2 =
      (acc.on a).toInt + total a nexts := by
  induction nexts generalizing acc with
  | nil => rfl
  | cons next nexts ih =>
    have hsum := toInt_foldAxis (acc.on a) (next.on a)
    have hrest := ih (coalesce acc next).1
    rw [on_coalesce_fst] at hrest
    simp only [coalesceAll_cons, total_cons, on_coalesce_snd]
    omega

theorem buttons_coalesceAll (acc : Report) (nexts : List Report) :
    (coalesceAll acc nexts).1.buttons = (nexts.getLast?.map buttons).getD acc.buttons := by
  induction nexts generalizing acc with
  | nil => rfl
  | cons next nexts ih =>
    rw [coalesceAll_cons, ih, List.getLast?_cons]
    cases nexts.getLast? with
    | none => rfl
    | some last => rfl

/-- **Merging loses no movement.**  Any number of reports is folded into a report, one after the
other.  On each axis the merged report and what all of them left over make up the report at the
start and all that was folded in.

What a report leaves over on an axis is exactly what did not fit.  It is zero unless the merged
report is at an end of its range after this fold, and has the sign of the value that was folded in.

The merged report has the buttons of the last report, and each axis of the outcome is computed from
that axis alone. -/
theorem reports_merge_without_loss (acc : Report) (nexts : List Report) :
    (∀ a, ((coalesceAll acc nexts).1.on a).toInt + total a (coalesceAll acc nexts).2 =
      (acc.on a).toInt + total a nexts) ∧
    (∀ before next after, nexts = before ++ next :: after →
      let start := (coalesceAll acc before).1
      let merged := (coalesce start next).1
      let left := (coalesce start next).2
      (coalesceAll acc (before ++ [next])).1 = merged ∧
      (coalesceAll acc nexts).2[before.length]? = some left ∧
      ∀ a,
        let wide := wideRest (start.on a) (next.on a) (merged.on a)
        wide.toInt = (start.on a).toInt + (next.on a).toInt - (merged.on a).toInt ∧
        left.on a = wide.toInt8 ∧ (left.on a).toInt = wide.toInt ∧
        (left.on a = 0 ∨
          (merged.on a = -128 ∨ merged.on a = 127) ∧
            (left.on a).toInt.sign = (next.on a).toInt.sign)) ∧
    (coalesceAll acc nexts).1.buttons = (nexts.getLast?.map buttons).getD acc.buttons ∧
    ∀ a, ((coalesceAll acc nexts).1.on a, (coalesceAll acc nexts).2.map fun r => r.on a) =
      foldAxisAll (acc.on a) (nexts.map fun r => r.on a) := by
  refine ⟨fun a => total_coalesceAll a acc nexts, ?_, buttons_coalesceAll acc nexts,
    fun a => on_coalesceAll a acc nexts⟩
  rintro before next after rfl start merged left
  refine ⟨?_, ?_, fun a => ?_⟩
  · rw [coalesceAll_append]
    rfl
  · have hlength := length_coalesceAll acc before
    rw [coalesceAll_append, List.getElem?_append_right (Nat.le_of_eq hlength), hlength,
      Nat.sub_self]
    rfl
  · have hmerged : merged.on a = _ := on_coalesce_fst a start next
    have hleft : left.on a = _ := on_coalesce_snd a start next
    rw [hmerged, hleft]
    exact ⟨toInt_wideRest _ _ _, rfl, toInt_rest _ _, rest_cases _ _⟩

/-- What the second report leaves over is not made up for by the third one, which goes the other
way: it is still to be sent. -/
example :
    coalesceAll { empty with x := 100 }
        [{ empty with x := 20 }, { empty with x := 20, y := -3 }, { empty with x := -50 }] =
      ({ empty with x := 77, y := -3 }, [empty, { empty with x := 13 }, empty]) := by
  decide

end Report

end TwinBall
