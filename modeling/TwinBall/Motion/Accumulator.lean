import TwinBall.Motion

/-!
# Motion accumulators

An accumulator adds up the movements of one ball until they are drained, either as a movement or
as whole scroll ticks.  Both axes share one 32-bit word, `x` in the high half and `y` in the low
half, so that a reader never sees one axis of an addition without the other.

The view of an accumulator is `peek`.  The main statements say what each operation does to that
view; nothing outside this module needs the packed word.
-/

namespace TwinBall

/-- The movement added up so far, as one word: `x` in the high half, `y` in the low half. -/
structure Accumulator where
  /-- The two packed totals. -/
  word : UInt32
  deriving DecidableEq, Repr, Inhabited

namespace Accumulator

/-- The word that holds the two totals of `m`. -/
def pack (m : Motion) : UInt32 :=
  (m.x.toUInt16.toUInt32 <<< 16) ||| m.y.toUInt16.toUInt32

/-- The two totals held by a word. -/
def unpack (w : UInt32) : Motion :=
  ⟨(w >>> 16).toUInt16.toInt16, w.toUInt16.toInt16⟩

/-- An accumulator that has seen no movement. -/
def empty : Accumulator := ⟨0⟩

/-- The total, left in place. -/
def peek (a : Accumulator) : Motion := unpack a.word

/-- Adds a movement, each axis held within the 16-bit range. -/
def add (a : Accumulator) (d : Motion) : Accumulator := ⟨pack (a.peek.add d)⟩

/-- Takes the whole total. -/
def drain (a : Accumulator) : Motion × Accumulator := (a.peek, empty)

/-- Takes whole multiples of the divisor `d` on each axis and leaves the remainders.

Right for the divisors for which `drainTicks?` answers. -/
def drainTicks (a : Accumulator) (d : Int16) : Motion × Accumulator :=
  let (qx, rx) := divideCounts a.peek.x d
  let (qy, ry) := divideCounts a.peek.y d
  (⟨qx, qy⟩, ⟨pack ⟨rx, ry⟩⟩)

/-- Takes whole multiples of the divisor `d` on each axis and leaves the remainders, or says why
one of the two quotients does not exist.  The `x` axis is divided first. -/
def drainTicks? (a : Accumulator) (d : Int16) : Except DivisionFault (Motion × Accumulator) := do
  let (qx, rx) ← divideCounts? a.peek.x d
  let (qy, ry) ← divideCounts? a.peek.y d
  return (⟨qx, qy⟩, ⟨pack ⟨rx, ry⟩⟩)

/-- Forgets the total. -/
def clear (_ : Accumulator) : Accumulator := empty

/-! ## The view -/

theorem unpack_pack (m : Motion) : unpack (pack m) = m := by
  obtain ⟨x, y⟩ := m
  have hx : ((x.toUInt16.toUInt32 <<< 16 ||| y.toUInt16.toUInt32) >>> 16).toUInt16 =
      x.toUInt16 := by
    apply UInt16.toNat_inj.mp
    have h₁ := x.toUInt16.toNat_lt
    have h₂ := y.toUInt16.toNat_lt
    simp only [UInt32.toNat_toUInt16, UInt32.toNat_shiftRight, UInt32.toNat_or,
      UInt32.toNat_shiftLeft, UInt16.toNat_toUInt32, UInt32.reduceToNat, Nat.reduceMod]
    rw [Nat.shiftRight_or_distrib, Nat.shiftRight_eq_div_pow, Nat.shiftRight_eq_div_pow,
      Nat.shiftLeft_eq, Nat.div_eq_of_lt h₂, Nat.or_zero]
    omega
  have hy : (x.toUInt16.toUInt32 <<< 16 ||| y.toUInt16.toUInt32).toUInt16 = y.toUInt16 := by
    apply UInt16.toNat_inj.mp
    have h₁ := x.toUInt16.toNat_lt
    have h₂ := y.toUInt16.toNat_lt
    simp only [UInt32.toNat_toUInt16, UInt32.toNat_or, UInt32.toNat_shiftLeft,
      UInt16.toNat_toUInt32, UInt32.reduceToNat, Nat.reduceMod]
    rw [Nat.or_mod_two_pow, Nat.shiftLeft_eq]
    have e : x.toUInt16.toNat * 2 ^ 16 % 2 ^ 32 % 2 ^ 16 = 0 := by omega
    rw [e, Nat.zero_or, Nat.mod_eq_of_lt h₂]
  simp only [unpack, pack, hx, hy, Int16.toInt16_toUInt16]

@[simp] theorem peek_pack (m : Motion) : peek ⟨pack m⟩ = m := unpack_pack m

@[simp] theorem peek_empty : empty.peek = Motion.zero := rfl

@[simp] theorem peek_clear (a : Accumulator) : a.clear.peek = Motion.zero := peek_empty

@[simp] theorem peek_add (a : Accumulator) (d : Motion) : (a.add d).peek = a.peek.add d := by
  simp [add]

@[simp] theorem drain_fst (a : Accumulator) : a.drain.1 = a.peek := rfl

@[simp] theorem drain_snd (a : Accumulator) : a.drain.2 = empty := rfl

/-- The ticks that are taken are the quotients of the two totals. -/
theorem drainTicks_fst (a : Accumulator) (d : Int16) :
    (a.drainTicks d).1 = ⟨a.peek.x / d, a.peek.y / d⟩ := rfl

/-- What is left behind are the two remainders. -/
theorem peek_drainTicks_snd (a : Accumulator) (d : Int16) :
    (a.drainTicks d).2.peek = ⟨a.peek.x - a.peek.x / d * d, a.peek.y - a.peek.y / d * d⟩ := by
  simp [drainTicks, divideCounts]

/-- Dividing by anything other than `0` and `-1` cannot fail. -/
theorem drainTicks?_eq_ok (a : Accumulator) {d : Int16} (h₀ : d ≠ 0) (h₁ : d ≠ -1) :
    a.drainTicks? d = .ok (a.drainTicks d) := by
  simp [drainTicks?, divideCounts?, h₀, h₁, drainTicks, bind, Except.bind, pure, Except.pure]

end Accumulator

end TwinBall
