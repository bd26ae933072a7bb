import TwinBall.Proofs.Motion.Checked
import TwinBall.Status

/-!
# Numbers on the status display

A column with a number is read as a person reads it: blanks are skipped, then comes a minus sign or
none, and then decimal digits, at least one.  `readDecimal?` is this reading; it knows nothing of
how columns are made.

A column of four shows a number without what is above its last three digits
(`readDecimal?_decimal4`), so that a number of three digits is read back as it is.  Where a number
is not negative, three columns show as much as four (`readDecimal?_drop_decimal4`), and a zero
behind it makes it ten times as large (`readDecimal?_concat_zero`).
-/

namespace TwinBall.Status

/-! ## Reading -/

/-- The value of a decimal digit. -/
def digitValue? (c : UInt8) : Option Nat :=
  if 0x30 ≤ c ∧ c ≤ 0x39 then some (c.toNat - 0x30) else none

/-- The number that decimal digits spell, after digits that spell `n`. -/
def readDigitsAfter? (n : Nat) : List UInt8 → Option Nat
  | [] => some n
  | c :: l => (digitValue? c).bind fun d => readDigitsAfter? (10 * n + d) l

/-- The number that decimal digits spell, at least one of them. -/
def readDigits? : List UInt8 → Option Nat
  | [] => none
  | c :: l => readDigitsAfter? 0 (c :: l)

/-- The number in a column. -/
def readDecimal? : List UInt8 → Option Int
  | [] => none
  | c :: l =>
    if c = 0x20 then readDecimal? l
    else if c = 0x2D then (readDigits? l).map fun n : Nat => -(n : Int)
    else (readDigits? (c :: l)).map fun n : Nat => (n : Int)

/-! ## Digits -/

theorem toNat_digit (n : Nat) : (digit n).toNat = 0x30 + n % 10 := by
  have hlt : n % 10 < 10 := Nat.mod_lt _ (by decide)
  have hlast : (UInt8.ofNat (n % 10)).toNat = n % 10 :=
    UInt8.toNat_ofNat_of_lt' (show n % 10 < 2 ^ 8 by omega)
  rw [digit, UInt8.toNat_add, hlast]
  exact Nat.mod_eq_of_lt (show 0x30 + n % 10 < 2 ^ 8 by omega)

theorem digitValue?_digit (n : Nat) : digitValue? (digit n) = some (n % 10) := by
  have hlt : n % 10 < 10 := Nat.mod_lt _ (by decide)
  have hmem : 0x30 ≤ digit n ∧ digit n ≤ 0x39 := by
    rw [UInt8.le_iff_toNat_le, UInt8.le_iff_toNat_le, toNat_digit]
    show 48 ≤ 0x30 + n % 10 ∧ 0x30 + n % 10 ≤ 57
    omega
  rw [digitValue?, if_pos hmem, toNat_digit, Nat.add_sub_cancel_left]

/-- A digit is not taken for a blank, for a sign or for an icon. -/
theorem digit_ne {c : UInt8} (hc : digitValue? c = none) (n : Nat) : digit n ≠ c := by
  rintro rfl
  rw [digitValue?_digit] at hc
  cases hc

variable (n : Nat) (l : List UInt8)

@[simp] theorem readDigitsAfter?_nil : readDigitsAfter? n [] = some n := rfl

@[simp] theorem readDigitsAfter?_digit (d : Nat) :
    readDigitsAfter? n (digit d :: l) = readDigitsAfter? (10 * n + d % 10) l := by
  rw [readDigitsAfter?, digitValue?_digit, Option.bind_some]

@[simp] theorem readDigits?_digit (d : Nat) :
    readDigits? (digit d :: l) = readDigitsAfter? (d % 10) l := by
  rw [readDigits?, readDigitsAfter?_digit, Nat.mul_zero, Nat.zero_add]

theorem readDigitsAfter?_append (more : List UInt8) :
    readDigitsAfter? n (l ++ more) =
      (readDigitsAfter? n l).bind fun m => readDigitsAfter? m more := by
  induction l generalizing n with
  | nil => rfl
  | cons c l ih =>
    rw [List.cons_append, readDigitsAfter?, readDigitsAfter?]
    cases digitValue? c with
    | none => rfl
    | some d => exact ih (10 * n + d)

variable {n l}

/-- A zero behind digits makes the number ten times as large. -/
theorem readDigits?_concat_zero (h : readDigits? l = some n) :
    readDigits? (l ++ [0x30]) = some (10 * n) := by
  cases l with
  | nil => cases h
  | cons c l =>
    have happend := readDigitsAfter?_append 0 (c :: l) [digit 0]
    rw [show readDigitsAfter? 0 (c :: l) = some n from h, Option.bind_some,
      readDigitsAfter?_digit] at happend
    exact happend

/-! ## Columns -/

@[simp] theorem readDecimal?_blank : readDecimal? (0x20 :: l) = readDecimal? l := by
  rw [readDecimal?, if_pos rfl]

@[simp] theorem readDecimal?_minus (d : Nat) :
    readDecimal? (0x2D :: digit d :: l) =
      (readDigitsAfter? (d % 10) l).map fun n : Nat => -(n : Int) := by
  rw [readDecimal?, if_neg (by decide), if_pos rfl, readDigits?_digit]

@[simp] theorem readDecimal?_digit (d : Nat) :
    readDecimal? (digit d :: l) = (readDigitsAfter? (d % 10) l).map fun n : Nat => (n : Int) := by
  rw [readDecimal?, if_neg (digit_ne (by decide) d), if_neg (digit_ne (by decide) d),
    readDigits?_digit]

/-- The sign directly before the first digit, or a blank there, is that of the number. -/
theorem readDecimal?_sign (negative : Prop) [Decidable negative] (d : Nat) :
    readDecimal? ((if negative then 0x2D else 0x20) :: digit d :: l) =
      (readDigitsAfter? (d % 10) l).map fun n : Nat =>
        if negative then -(n : Int) else n := by
  by_cases h : negative
  · simp only [h, if_true, readDecimal?_minus]
  · simp only [h, if_false, readDecimal?_blank, readDecimal?_digit]

/-- A zero behind a number makes it ten times as large. -/
theorem readDecimal?_concat_zero {v : Int} (h : readDecimal? l = some v) :
    readDecimal? (l ++ [0x30]) = some (10 * v) := by
  induction l with
  | nil => cases h
  | cons c l ih =>
    rw [List.cons_append]
    by_cases hblank : c = 0x20
    · subst hblank
      rw [readDecimal?_blank] at h ⊢
      exact ih h
    · by_cases hminus : c = 0x2D
      · rw [readDecimal?, if_neg hblank, if_pos hminus] at h ⊢
        obtain ⟨n, hn, rfl⟩ := Option.map_eq_some_iff.mp h
        rw [readDigits?_concat_zero hn, Option.map_some, Option.some_inj]
        push_cast
        omega
      · rw [readDecimal?, if_neg hblank, if_neg hminus] at h ⊢
        obtain ⟨n, hn, rfl⟩ := Option.map_eq_some_iff.mp h
        rw [← List.cons_append, readDigits?_concat_zero hn, Option.map_some, Option.some_inj]
        push_cast
        rfl

/-! ## Numbers in columns -/

/-- The rest of a truncated division by way of the absolute value. -/
theorem tmod_eq_sign_natAbs (v : Int) (d : Nat) :
    v.tmod d = if v < 0 then -((v.natAbs % d : Nat) : Int) else (v.natAbs % d : Nat) := by
  obtain ⟨n, rfl | rfl⟩ := Int.eq_nat_or_neg v
  · rw [if_neg (by omega), Int.natAbs_natCast]
    rfl
  · rw [Int.neg_tmod, Int.natAbs_neg, Int.natAbs_natCast]
    split
    · rfl
    · obtain rfl : n = 0 := by omega
      simp

variable (value : Int16)

/-- A column of four shows a number, with its sign, up to its last three digits. -/
theorem readDecimal?_decimal4 : readDecimal? (decimal4 value) = some (value.toInt.tmod 1000) := by
  have hsign : value < 0 ↔ value.toInt < 0 := Int16.lt_iff_toInt_lt
  rw [show (1000 : Int) = (1000 : Nat) from rfl, tmod_eq_sign_natAbs, decimal4]
  simp only [hsign]
  generalize value.toInt.natAbs = n
  split
  · next hone =>
    have hdigits : n % 10 = n % 1000 := by omega
    simp only [readDecimal?_blank, readDecimal?_sign, readDigitsAfter?_nil, Option.map_some,
      hdigits]
  · split
    · next htwo =>
      have hdigits : 10 * (n / 10 % 10) + n % 10 = n % 1000 := by omega
      simp only [readDecimal?_blank, readDecimal?_sign, readDigitsAfter?_digit,
        readDigitsAfter?_nil, Option.map_some, hdigits]
    · have hdigits : 10 * (10 * (n / 100 % 10) + n / 10 % 10) + n % 10 = n % 1000 := by omega
      simp only [readDecimal?_sign, readDigitsAfter?_digit, readDigitsAfter?_nil,
        Option.map_some, hdigits]

variable {value}

theorem tmod_of_natAbs_lt {v : Int} {d : Nat} (h : v.natAbs < d) : v.tmod d = v := by
  rw [tmod_eq_sign_natAbs, Nat.mod_eq_of_lt h]
  split <;> omega

/-- A number of three digits is read back as it is. -/
theorem readDecimal?_decimal4_of_lt (h : value.toInt.natAbs < 1000) :
    readDecimal? (decimal4 value) = some value.toInt := by
  rw [readDecimal?_decimal4]
  exact congrArg some (tmod_of_natAbs_lt h)

/-- The first column is left blank where there is no sign. -/
theorem decimal4_of_nonneg (h : 0 ≤ value.toInt) :
    decimal4 value = 0x20 :: (decimal4 value).drop 1 := by
  have hsign : ¬ value < 0 := by
    rw [Int16.lt_iff_toInt_lt]
    exact Int.not_lt.mpr h
  unfold decimal4
  dsimp only
  rw [if_neg hsign]
  split
  · rfl
  · split
    · rfl
    · rfl

/-- Three columns are enough for a number of three digits without a sign. -/
theorem readDecimal?_drop_decimal4 (h : 0 ≤ value.toInt) (hlt : value.toInt < 1000) :
    readDecimal? ((decimal4 value).drop 1) = some value.toInt := by
  have hfour : readDecimal? (decimal4 value) = some value.toInt :=
    readDecimal?_decimal4_of_lt (by omega)
  rwa [decimal4_of_nonneg h, readDecimal?_blank] at hfour

end TwinBall.Status
