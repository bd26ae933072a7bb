/-!
# Little-endian words

Counts and settings words travel and are stored as bytes, the low byte first.  The main
statements say that reading back what was written gives the same word.
-/

namespace TwinBall

/-- The two bytes of a 16-bit word, the low one first. -/
def bytes16 (w : UInt16) : List UInt8 := [w.toUInt8, (w >>> 8).toUInt8]

/-- The 16-bit word with the given low and high byte. -/
def word16 (low high : UInt8) : UInt16 := low.toUInt16 ||| (high.toUInt16 <<< 8)

/-- The four bytes of a 32-bit word, the low one first. -/
def bytes32 (w : UInt32) : List UInt8 :=
  [w.toUInt8, (w >>> 8).toUInt8, (w >>> 16).toUInt8, (w >>> 24).toUInt8]

/-- The 32-bit word held by four bytes, the low one first; `none` for any other number of
bytes. -/
def word32? : List UInt8 → Option UInt32
  | [a, b, c, d] =>
    some (a.toUInt32 ||| (b.toUInt32 <<< 8) ||| (c.toUInt32 <<< 16) ||| (d.toUInt32 <<< 24))
  | _ => none

theorem word16_bytes16 (w : UInt16) : word16 w.toUInt8 (w >>> 8).toUInt8 = w := by
  apply UInt16.toBitVec_inj.mp
  simp only [word16, UInt16.toBitVec_or, UInt16.toBitVec_shiftLeft, UInt8.toBitVec_toUInt16,
    UInt16.toBitVec_toUInt8, UInt16.toBitVec_shiftRight]
  apply BitVec.eq_of_getLsbD_eq
  intro i hi
  by_cases h : i < 8
  · simp [h, hi]
  · simp [h, hi, show i - 8 < 8 by omega, show i - 8 < 16 by omega, show 8 + (i - 8) = i by omega]

theorem word32?_bytes32 (w : UInt32) : word32? (bytes32 w) = some w := by
  simp only [bytes32, word32?, Option.some.injEq]
  apply UInt32.toBitVec_inj.mp
  simp only [UInt32.toBitVec_or, UInt32.toBitVec_shiftLeft, UInt8.toBitVec_toUInt32,
    UInt32.toBitVec_toUInt8, UInt32.toBitVec_shiftRight]
  apply BitVec.eq_of_getLsbD_eq
  intro i hi
  have near (k : Nat) (_ : k ≤ i) (_ : i < k + 8) : i - k < 8 ∧ i - k < 32 ∧ k + (i - k) = i := by
    omega
  by_cases h₁ : i < 8
  · simp [hi, h₁, show i < 16 by omega, show i < 24 by omega]
  · by_cases h₂ : i < 16
    · simp [hi, h₁, h₂, show i < 24 by omega, near 8 (by omega) (by omega)]
    · by_cases h₃ : i < 24
      · simp [hi, h₁, h₂, h₃, show ¬ i - 8 < 8 by omega, near 16 (by omega) (by omega)]
      · simp [hi, h₁, h₂, h₃, show ¬ i - 8 < 8 by omega, show ¬ i - 16 < 8 by omega,
          near 24 (by omega) (by omega)]

end TwinBall
