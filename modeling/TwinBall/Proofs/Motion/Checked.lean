import TwinBall.Proofs.Motion.Axis

/-!
# Checked integers

A half computes with bytes and 16-bit counts.  `ofInt?` takes an integer to the machine integer that
stands for it, and to none if its type does not hold it.  A computation that is carried out in the
integers and passes each of its steps through `ofInt?` has a result only if nothing overflows on the
way.

Divisions of counts by a positive divisor never do (`drainExactly?_eq_some`).
-/

namespace TwinBall

/-! ## Integers of a machine -/

/-- A type of integers of a machine, each of which stands for an integer. -/
class MachineInt (α : Type) where
  low : Int
  high : Int
  value : α → Int
  ofInt : Int → α
  value_mem (a : α) : low ≤ value a ∧ value a ≤ high
  ofInt_value (a : α) : ofInt (value a) = a

namespace MachineInt

instance : MachineInt UInt8 where
  low := 0
  high := 255
  value a := a.toNat
  ofInt i := .ofNat i.toNat
  value_mem a := by
    have := a.toNat_lt
    omega
  ofInt_value _ := UInt8.ofNat_toNat

instance : MachineInt UInt16 where
  low := 0
  high := 65535
  value a := a.toNat
  ofInt i := .ofNat i.toNat
  value_mem a := by
    have := a.toNat_lt
    omega
  ofInt_value _ := UInt16.ofNat_toNat

instance : MachineInt Int8 where
  low := -128
  high := 127
  value := Int8.toInt
  ofInt := Int8.ofInt
  value_mem a := ⟨a.le_toInt, Int.le_of_lt_add_one a.toInt_lt⟩
  ofInt_value _ := Int8.ofInt_toInt _

instance : MachineInt Int16 where
  low := -32768
  high := 32767
  value := Int16.toInt
  ofInt := Int16.ofInt
  value_mem a := ⟨a.le_toInt, Int.le_of_lt_add_one a.toInt_lt⟩
  ofInt_value _ := Int16.ofInt_toInt _

variable (α : Type) [MachineInt α]

/-- The machine integer that stands for an integer, if there is one. -/
def ofInt? (i : Int) : Option α := if low α ≤ i ∧ i ≤ high α then some (ofInt i) else none

variable {α}

theorem ofInt?_eq_some {i : Int} {a : α} (h : value a = i) : ofInt? α i = some a := by
  have hmem := value_mem a
  rw [h] at hmem
  rw [ofInt?, if_pos hmem, ← h, ofInt_value]

end MachineInt

open MachineInt (ofInt? ofInt?_eq_some)

/-! ## Changes of width -/

theorem toInt_toInt16 {w : UInt16} (h : w.toNat ≤ 32767) : w.toInt16.toInt = w.toNat := by
  rw [← Int16.toInt_toBitVec, UInt16.toBitVec_toInt16, BitVec.toInt_eq_toNat_bmod]
  change ((w.toNat : Nat) : Int).bmod (2 ^ 16) = w.toNat
  exact Int.bmod_eq_of_le (by omega) (by omega)

theorem toInt_widen (b : UInt8) : b.toUInt16.toInt16.toInt = b.toNat := by
  have hb := b.toNat_lt
  rw [toInt_toInt16 (by rw [UInt8.toNat_toUInt16]; omega), UInt8.toNat_toUInt16]

theorem toInt_toInt8 {b : UInt8} (h : b.toNat ≤ 127) : b.toInt8.toInt = b.toNat := by
  rw [← Int8.toInt_toBitVec, UInt8.toBitVec_toInt8, BitVec.toInt_eq_toNat_bmod]
  change ((b.toNat : Nat) : Int).bmod (2 ^ 8) = b.toNat
  exact Int.bmod_eq_of_le (by omega) (by omega)

theorem toNat_toUInt16 {v : Int16} (h : 0 ≤ v.toInt) : (v.toUInt16.toNat : Int) = v.toInt := by
  have hv := BitVec.toInt_eq_toNat_cond v.toBitVec
  have hlt := v.toBitVec.isLt
  rw [← Int16.toInt_toBitVec] at h ⊢
  change (v.toBitVec.toNat : Int) = v.toBitVec.toInt
  split at hv <;> omega

theorem toNat_narrow {v : Int16} (hlow : 0 ≤ v.toInt) (hhigh : v.toInt ≤ 255) :
    (v.toUInt16.toUInt8.toNat : Int) = v.toInt := by
  have hv := toNat_toUInt16 hlow
  rw [UInt16.toNat_toUInt8, Nat.mod_eq_of_lt (by omega)]
  exact hv

theorem toNat_toUInt8 {v : Int8} (h : 0 ≤ v.toInt) : (v.toUInt8.toNat : Int) = v.toInt := by
  have hv := BitVec.toInt_eq_toNat_cond v.toBitVec
  have hlt := v.toBitVec.isLt
  rw [← Int8.toInt_toBitVec] at h ⊢
  change (v.toBitVec.toNat : Int) = v.toBitVec.toInt
  split at hv <;> omega

theorem toInt_clamp16 (v : Int16) :
    (max 1 (min 255 v)).toInt = max 1 (min 255 v.toInt) := by
  have h255 : (255 : Int16).toInt = 255 := rfl
  have h1 : (1 : Int16).toInt = 1 := rfl
  simp only [Max.max, Min.min, Int16.le_iff_toInt_le, h255, h1]
  split <;> split <;> simp_all

theorem toInt_max8 (v : Int8) : (max 1 v).toInt = max 1 v.toInt := by
  have h1 : (1 : Int8).toInt = 1 := rfl
  simp only [Max.max, Int8.le_iff_toInt_le, h1]
  split <;> simp_all

/-! ## Divisions -/

/-- The quotient of two counts, rounded toward zero, and what is left of the dividend, each step of
the way being checked. -/
def divideExactly? (v d : Int16) : Option (Int16 × Int16) := do
  if d = 0 then none
  let quotient ← ofInt? Int16 (v.toInt.tdiv d.toInt)
  let product ← ofInt? Int16 (quotient.toInt * d.toInt)
  let rest ← ofInt? Int16 (v.toInt - product.toInt)
  return (quotient, rest)

theorem divideExactly?_eq_some (v : Int16) {d : Int16} (hd : 0 < d.toInt) :
    divideExactly? v d = some (divideCounts v d) := by
  have hne : d ≠ 0 := by
    rintro rfl
    exact absurd hd (by decide)
  have hquotient : ofInt? Int16 (v.toInt.tdiv d.toInt) = some (v / d) :=
    ofInt?_eq_some (toInt_div_of_pos v hd)
  have hproduct : ofInt? Int16 ((v / d).toInt * d.toInt) = some (v / d * d) := by
    rw [toInt_div_of_pos v hd]
    exact ofInt?_eq_some (toInt_div_mul_of_pos v hd)
  have hrest : ofInt? Int16 (v.toInt - (v / d * d).toInt) = some (v - v / d * d) := by
    have hsum := Int.tdiv_mul_add_tmod v.toInt d.toInt
    refine ofInt?_eq_some ((toInt_divideCounts v hd).2.trans ?_)
    rw [toInt_div_mul_of_pos v hd]
    omega
  simp only [divideExactly?, if_neg hne, hquotient, hproduct, hrest, divideCounts,
    Option.bind_eq_bind, Option.bind_some, Option.pure_def]

/-- Ticks of both axes, drained with checked divisions. -/
def Accumulator.drainExactly? (a : Accumulator) (d : Int16) : Option (Motion × Accumulator) := do
  let (qx, rx) ← divideExactly? a.peek.x d
  let (qy, ry) ← divideExactly? a.peek.y d
  return (⟨qx, qy⟩, ⟨pack ⟨rx, ry⟩⟩)

theorem Accumulator.drainExactly?_eq_some (a : Accumulator) {d : Int16} (hd : 0 < d.toInt) :
    a.drainExactly? d = some (a.drainTicks d) := by
  simp [drainExactly?, divideExactly?_eq_some _ hd, drainTicks]

end TwinBall
