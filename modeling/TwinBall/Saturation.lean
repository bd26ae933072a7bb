/-!
# Bounded arithmetic on sensor counts and report axes

Sensor counts are 16-bit and report axes are 8-bit, both signed.  A pointing device must never
turn a long movement to one side into a movement to the other side, so sums of counts stop at
the ends of their range instead of wrapping.

The functions are specified through `toInt`: the main statements say that each of them is exact
integer arithmetic, clamped to the range of its result.
-/

namespace TwinBall

/-- The sum of two counts, held at the ends of the 16-bit range. -/
def addCounts (a b : Int16) : Int16 := Int16.ofIntClamp (a.toInt + b.toInt)

/-- The sum of two axis values, held at the ends of the 8-bit range. -/
def addAxes (a b : Int8) : Int8 := Int8.ofIntClamp (a.toInt + b.toInt)

/-- The opposite of an axis value.  The opposite of `-128` is not representable and becomes
`127`. -/
def negAxis (a : Int8) : Int8 := Int8.ofIntClamp (-a.toInt)

/-- The axis value closest to a count.  The range is the symmetric one from `-127` to `127`, so
that the result can always be negated. -/
def clipToAxis (v : Int16) : Int8 := Int8.ofInt (max (-127) (min 127 v.toInt))

/-- Why a quotient of two counts does not exist among the counts. -/
inductive DivisionFault
  /-- The divisor is zero. -/
  | byZero
  /-- The quotient is `32768`: the least count, divided by `-1`. -/
  | overflow
  deriving DecidableEq, Repr

/-- The quotient of two counts, rounded toward zero, and what is left of the dividend.

Defined for every divisor; it is the division only where `divideCounts?` answers. -/
def divideCounts (v d : Int16) : Int16 × Int16 := (v / d, v - v / d * d)

/-- The quotient of two counts, rounded toward zero, and what is left of the dividend, or the
reason why there is none. -/
def divideCounts? (v d : Int16) : Except DivisionFault (Int16 × Int16) :=
  if d = 0 then .error .byZero
  else if v = Int16.minValue ∧ d = -1 then .error .overflow
  else .ok (divideCounts v d)

/-! ## Exactness -/

theorem toInt_ofIntClamp16 (i : Int) :
    (Int16.ofIntClamp i).toInt = max (-32768) (min 32767 i) := by
  by_cases h₁ : Int16.minValue.toInt ≤ i
  · by_cases h₂ : i ≤ Int16.maxValue.toInt
    · rw [Int16.toInt_ofIntClamp h₁ h₂]
      have : Int16.minValue.toInt = -32768 := rfl
      have : Int16.maxValue.toInt = 32767 := rfl
      omega
    · have e : Int16.ofIntClamp i = Int16.maxValue := by
        rw [Int16.ofIntClamp, dif_pos h₁, dif_neg h₂]
      have : Int16.maxValue.toInt = 32767 := rfl
      rw [e]
      omega
  · have e : Int16.ofIntClamp i = Int16.minValue := by
      rw [Int16.ofIntClamp, dif_neg h₁]
    have : Int16.minValue.toInt = -32768 := rfl
    rw [e]
    omega

theorem toInt_ofIntClamp8 (i : Int) :
    (Int8.ofIntClamp i).toInt = max (-128) (min 127 i) := by
  by_cases h₁ : Int8.minValue.toInt ≤ i
  · by_cases h₂ : i ≤ Int8.maxValue.toInt
    · rw [Int8.toInt_ofIntClamp h₁ h₂]
      have : Int8.minValue.toInt = -128 := rfl
      have : Int8.maxValue.toInt = 127 := rfl
      omega
    · have e : Int8.ofIntClamp i = Int8.maxValue := by
        rw [Int8.ofIntClamp, dif_pos h₁, dif_neg h₂]
      have : Int8.maxValue.toInt = 127 := rfl
      rw [e]
      omega
  · have e : Int8.ofIntClamp i = Int8.minValue := by
      rw [Int8.ofIntClamp, dif_neg h₁]
    have : Int8.minValue.toInt = -128 := rfl
    rw [e]
    omega

/-- A sum of counts is the exact sum, clamped to the 16-bit range. -/
theorem toInt_addCounts (a b : Int16) :
    (addCounts a b).toInt = max (-32768) (min 32767 (a.toInt + b.toInt)) :=
  toInt_ofIntClamp16 _

/-- A sum of axis values is the exact sum, clamped to the 8-bit range. -/
theorem toInt_addAxes (a b : Int8) :
    (addAxes a b).toInt = max (-128) (min 127 (a.toInt + b.toInt)) :=
  toInt_ofIntClamp8 _

/-- The opposite of an axis value, clamped to the 8-bit range. -/
theorem toInt_negAxis (a : Int8) : (negAxis a).toInt = max (-128) (min 127 (-a.toInt)) :=
  toInt_ofIntClamp8 _

/-- A clipped count is the count, clamped to the symmetric axis range. -/
theorem toInt_clipToAxis (v : Int16) :
    (clipToAxis v).toInt = max (-127) (min 127 v.toInt) := by
  exact Int8.toInt_ofInt_of_le (by omega) (by omega)

/-- Nothing is lost: the quotient times the divisor and the rest make up the dividend. -/
theorem divideCounts_sum (v d : Int16) :
    (divideCounts v d).1 * d + (divideCounts v d).2 = v := by
  simp only [divideCounts]
  rw [Int16.add_comm, Int16.sub_add_cancel]

end TwinBall
