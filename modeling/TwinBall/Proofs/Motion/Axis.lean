import Mathlib.Algebra.BigOperators.Group.List.Basic
import Mathlib.Algebra.Ring.Int.Defs
import TwinBall.Motion.Accumulator

/-!
# Counts as integers

The count of a movement on an axis, as an integer, and what the operations on counts do to it: a sum
is clamped (`count_add_eq_clamp`) and exact unless it is clipped (`count_add`), and a quotient by a
positive divisor is rounded toward zero (`toInt_divideCounts`).
-/

namespace TwinBall

/-- Whether the sum of two counts leaves the 16-bit range. -/
def overflows (a b : Int16) : Bool := a.toInt + b.toInt < -32768 || 32767 < a.toInt + b.toInt

/-- Whether adding a movement to another clips an axis. -/
def Motion.clips (m d : Motion) : Bool := overflows m.x d.x || overflows m.y d.y

inductive Axis
  | x
  | y

namespace Axis

variable (axis : Axis)

/-- The count of a movement on an axis. -/
def count : Axis → Motion → Int
  | .x, m => m.x.toInt
  | .y, m => m.y.toInt

theorem count_zero : axis.count .zero = 0 := by
  cases axis with
  | x => rfl
  | y => rfl

/-- The sum of the counts of movements on an axis. -/
def total (ms : List Motion) : Int := (ms.map axis.count).sum

@[simp] theorem total_nil : axis.total [] = 0 := rfl

@[simp] theorem total_singleton (m : Motion) : axis.total [m] = axis.count m := by
  simp [total]

@[simp] theorem total_append (ms ns : List Motion) :
    axis.total (ms ++ ns) = axis.total ms + axis.total ns := by
  simp [total]

theorem total_perm {ms ns : List Motion} (h : ms.Perm ns) : axis.total ms = axis.total ns :=
  (h.map axis.count).sum_eq

/-! ## Sums -/

theorem addCounts_of_overflows {a b : Int16} (h : overflows a b = false) :
    (addCounts a b).toInt = a.toInt + b.toInt := by
  have hrange : ¬ a.toInt + b.toInt < -32768 ∧ ¬ 32767 < a.toInt + b.toInt := by
    simpa [overflows] using h
  rw [toInt_addCounts]
  omega

theorem count_add {m d : Motion} (h : m.clips d = false) :
    axis.count (m.add d) = axis.count m + axis.count d := by
  obtain ⟨hx, hy⟩ := Bool.or_eq_false_iff.mp h
  cases axis with
  | x => exact addCounts_of_overflows hx
  | y => exact addCounts_of_overflows hy

theorem count_add_eq_clamp (m d : Motion) :
    axis.count (m.add d) = max (-32768) (min 32767 (axis.count m + axis.count d)) := by
  cases axis with
  | x => exact toInt_addCounts m.x d.x
  | y => exact toInt_addCounts m.y d.y

theorem count_mem (m : Motion) : -32768 ≤ axis.count m ∧ axis.count m ≤ 32767 := by
  cases axis with
  | x => exact ⟨m.x.le_toInt, Int.le_of_lt_add_one m.x.toInt_lt⟩
  | y => exact ⟨m.y.le_toInt, Int.le_of_lt_add_one m.y.toInt_lt⟩

end Axis

/-! ## Quotients -/

/-- The rest of a division that rounds toward zero is smaller than the divisor and has the sign of
the dividend. -/
theorem tmod_bounds (t : Int) {d : Int} (hd : 0 < d) :
    -d < t.tmod d ∧ t.tmod d < d ∧ (0 ≤ t → 0 ≤ t.tmod d) ∧ (t ≤ 0 → t.tmod d ≤ 0) := by
  refine ⟨Int.lt_tmod_of_pos t hd, Int.tmod_lt_of_pos t hd, Int.tmod_nonneg d, fun ht => ?_⟩
  have hneg : 0 ≤ (-t).tmod d := Int.tmod_nonneg d (by omega)
  rw [Int.neg_tmod] at hneg
  omega

/-- A quotient that is rounded toward zero lies between zero and the dividend, and so does its
product with the divisor. -/
theorem tdiv_bounds (t : Int) {d : Int} (hd : 0 < d) :
    (0 ≤ t → 0 ≤ t.tdiv d ∧ t.tdiv d ≤ t ∧ 0 ≤ t.tdiv d * d ∧ t.tdiv d * d ≤ t) ∧
      (t ≤ 0 → t ≤ t.tdiv d ∧ t.tdiv d ≤ 0 ∧ t ≤ t.tdiv d * d ∧ t.tdiv d * d ≤ 0) := by
  have hpos : ∀ s : Int, 0 ≤ s →
      0 ≤ s.tdiv d ∧ s.tdiv d ≤ s ∧ 0 ≤ s.tdiv d * d ∧ s.tdiv d * d ≤ s := by
    intro s hs
    have hquotient : 0 ≤ s.tdiv d := Int.tdiv_nonneg hs (Int.le_of_lt hd)
    have hsum := Int.tdiv_mul_add_tmod s d
    have hrest := Int.tmod_nonneg d hs
    exact ⟨hquotient, Int.tdiv_le_self d hs, Int.mul_nonneg hquotient (Int.le_of_lt hd), by omega⟩
  refine ⟨hpos t, fun ht => ?_⟩
  have hneg := hpos (-t) (by omega)
  rw [Int.neg_tdiv, Int.neg_mul] at hneg
  omega

theorem toInt_div_of_pos (v : Int16) {d : Int16} (hd : 0 < d.toInt) :
    (v / d).toInt = v.toInt.tdiv d.toInt := by
  have hbounds := tdiv_bounds v.toInt hd
  have hlow := v.le_toInt
  have hhigh := v.toInt_lt
  rw [Int16.toInt_div]
  exact Int.bmod_eq_of_le (by omega) (by omega)

theorem toInt_div_mul_of_pos (v : Int16) {d : Int16} (hd : 0 < d.toInt) :
    (v / d * d).toInt = v.toInt.tdiv d.toInt * d.toInt := by
  have hbounds := tdiv_bounds v.toInt hd
  have hlow := v.le_toInt
  have hhigh := v.toInt_lt
  rw [Int16.toInt_mul, toInt_div_of_pos v hd]
  exact Int.bmod_eq_of_le (by omega) (by omega)

theorem toInt_divideCounts (v : Int16) {d : Int16} (hd : 0 < d.toInt) :
    (divideCounts v d).1.toInt = v.toInt.tdiv d.toInt ∧
      (divideCounts v d).2.toInt = v.toInt.tmod d.toInt := by
  refine ⟨toInt_div_of_pos v hd, ?_⟩
  have hsum := Int.tdiv_mul_add_tmod v.toInt d.toInt
  have hrest : v.toInt - v.toInt.tdiv d.toInt * d.toInt = v.toInt.tmod d.toInt := by omega
  have hsmall := tmod_bounds v.toInt hd
  have hdhigh := d.toInt_lt
  change (v - v / d * d).toInt = _
  rw [Int16.toInt_sub, toInt_div_mul_of_pos v hd, hrest]
  exact Int.bmod_eq_of_le (by omega) (by omega)

end TwinBall
