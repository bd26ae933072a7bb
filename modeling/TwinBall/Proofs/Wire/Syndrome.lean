import Mathlib.Data.List.Nodup
import Mathlib.Data.Nat.Bitwise
import Mathlib.Logic.Function.Iterate
import TwinBall.Wire.Crc

/-!
# What the checksum sees of an error

The checksum is linear in exclusive or, so what an error does to it does not depend on the bytes
that were sent: it is the checksum of the error itself, that is, of bytes with a bit set wherever a
bit was flipped.  Every set bit contributes a power of `x` modulo the polynomial, its place counted
from the end of the bytes (`checksum_eq_powerSum`).

An error goes unseen only if these powers cancel.  They do not

* if only one byte is in error, because multiplication by `x` is one to one
  (`checksum_ne_zero_of_one_byte`);
* if one or three bits are flipped, because the polynomial has an even number of terms, so that
  every power of `x` has an odd number of them;
* if two bits are flipped less than 127 places apart, because no smaller power of `x` is `1`
  (`checksum_ne_zero_of_few_bits`).
-/

namespace TwinBall.Crc

theorem forall_byte {P : UInt8 → Prop} (h : ∀ n < 256, P (UInt8.ofNat n)) (b : UInt8) : P b := by
  have hb := h b.toNat b.toNat_lt
  rwa [UInt8.ofNat_toNat] at hb

/-! ## Linearity -/

theorem top_cases (r : UInt8) : r &&& 0x80 = 0 ∨ r &&& 0x80 = 0x80 := by
  revert r
  exact forall_byte (by decide +kernel)

theorem and_xor_distrib (a b c : UInt8) : (a ^^^ b) &&& c = (a &&& c) ^^^ (b &&& c) := by
  apply UInt8.toBitVec_inj.mp
  ext i
  simp [Bool.and_xor_distrib_right]

theorem bitStep_xor (a b : UInt8) : bitStep (a ^^^ b) = bitStep a ^^^ bitStep b := by
  have hshift : (a ^^^ b) <<< 1 = a <<< 1 ^^^ b <<< 1 := UInt8.shiftLeft_xor
  have hne : (0x80 : UInt8) ≠ 0 := by decide
  simp only [bitStep, and_xor_distrib, hshift]
  -- The polynomial is added once for each summand with the top bit set, and twice is not at all.
  rcases top_cases a with ha | ha
  · rcases top_cases b with hb | hb
    · simp [ha, hb]
    · simp only [ha, hb, UInt8.zero_xor, if_true, if_neg hne]
      ac_rfl
  · rcases top_cases b with hb | hb
    · simp only [ha, hb, UInt8.xor_zero, if_true, if_neg hne]
      ac_rfl
    · have htwice : (a <<< 1 ^^^ polynomial) ^^^ (b <<< 1 ^^^ polynomial) =
          (a <<< 1 ^^^ b <<< 1) ^^^ (polynomial ^^^ polynomial) := by ac_rfl
      simp only [ha, hb, UInt8.xor_self, if_true, if_neg hne, htwice, UInt8.xor_zero]

theorem bitStep_eq_zero {r : UInt8} : bitStep r = 0 ↔ r = 0 :=
  forall_byte (P := fun r => bitStep r = 0 ↔ r = 0) (by decide +kernel) r

theorem iterate_bitStep_zero (n : Nat) : bitStep^[n] 0 = 0 :=
  Function.iterate_fixed (bitStep_eq_zero.mpr rfl) n

theorem iterate_bitStep_xor (n : Nat) (a b : UInt8) :
    bitStep^[n] (a ^^^ b) = bitStep^[n] a ^^^ bitStep^[n] b := by
  induction n generalizing a b with
  | zero => rfl
  | succ n ih => simp only [Function.iterate_succ_apply, bitStep_xor, ih]

theorem iterate_bitStep_eq_zero {n : Nat} {r : UInt8} : bitStep^[n] r = 0 ↔ r = 0 := by
  induction n generalizing r with
  | zero => rfl
  | succ n ih => rw [Function.iterate_succ_apply, ih, bitStep_eq_zero]

theorem byteStep_eq (r b : UInt8) : byteStep r b = bitStep^[8] (r ^^^ b) := rfl

/-- What was in the register moves up with every byte, independently of the bytes. -/
theorem extend_eq (r : UInt8) (bytes : List UInt8) :
    extend r bytes = bitStep^[8 * bytes.length] r ^^^ checksum bytes := by
  induction bytes generalizing r with
  | nil => simp [checksum]
  | cons b bytes ih =>
    have hsum : checksum (b :: bytes) = bitStep^[8 * bytes.length] (byteStep 0 b) ^^^
        checksum bytes := ih _
    rw [extend_cons, ih, hsum, byteStep_eq, byteStep_eq, iterate_bitStep_xor, iterate_bitStep_xor,
      UInt8.zero_xor, List.length_cons, Nat.mul_succ, Function.iterate_add_apply, UInt8.xor_assoc]

theorem checksum_cons (b : UInt8) (bytes : List UInt8) :
    checksum (b :: bytes) = bitStep^[8 * (bytes.length + 1)] b ^^^ checksum bytes := by
  have hextend : checksum (b :: bytes) = extend (byteStep 0 b) bytes := rfl
  rw [hextend, extend_eq, byteStep_eq, UInt8.zero_xor, Nat.mul_succ, Function.iterate_add_apply]

/-- **The checksum is linear.** -/
theorem checksum_xor {a e : List UInt8} (h : a.length = e.length) :
    checksum (a.zipWith (· ^^^ ·) e) = checksum a ^^^ checksum e := by
  induction a generalizing e with
  | nil =>
    obtain rfl := List.length_eq_zero_iff.mp h.symm
    rfl
  | cons x a ih =>
    cases e with
    | nil => exact absurd h (Nat.succ_ne_zero _)
    | cons y e =>
      have hlen : a.length = e.length := Nat.succ_inj.mp h
      simp only [List.zipWith_cons_cons, checksum_cons, iterate_bitStep_xor, ih hlen,
        List.length_zipWith, hlen, Nat.min_self]
      ac_rfl

/-- Bytes with their checksum behind them have the checksum `0`, and no other byte does that. -/
theorem checksum_concat_eq_zero {bytes : List UInt8} {c : UInt8} :
    checksum (bytes ++ [c]) = 0 ↔ c = checksum bytes := by
  have hlast : checksum (bytes ++ [c]) = bitStep^[8] (checksum bytes ^^^ c) := by
    rw [checksum, extend_append]
    rfl
  rw [hlast, iterate_bitStep_eq_zero, UInt8.xor_eq_zero_iff]
  exact eq_comm

/-! ## Errors in one byte -/

theorem checksum_of_all_zero {e : List UInt8} (h : e.countP (· != 0) = 0) : checksum e = 0 := by
  induction e with
  | nil => rfl
  | cons b e ih =>
    rw [List.countP_cons] at h
    have hb : b = 0 := by
      by_contra hne
      simp [hne] at h
    rw [checksum_cons, ih (by omega), hb, iterate_bitStep_zero]
    rfl

theorem checksum_ne_zero_of_one_byte {e : List UInt8} (h : e.countP (· != 0) = 1) :
    checksum e ≠ 0 := by
  induction e with
  | nil => cases h
  | cons b e ih =>
    rw [List.countP_cons] at h
    rw [checksum_cons]
    by_cases hb : b = 0
    · have hrest : e.countP (· != 0) = 1 := by simpa [hb] using h
      rw [hb, iterate_bitStep_zero, UInt8.zero_xor]
      exact ih hrest
    · have hrest : e.countP (· != 0) = 0 := by simpa [hb] using h
      rw [checksum_of_all_zero hrest, UInt8.xor_zero]
      exact fun hzero => hb (iterate_bitStep_eq_zero.mp hzero)

/-! ## Errors in single bits -/

/-- A power of `x` modulo the polynomial. -/
def power (n : Nat) : UInt8 := bitStep^[n] 1

/-- The sum of powers of `x` modulo the polynomial. -/
def powerSum (ns : List Nat) : UInt8 := ns.foldr (fun n sum => power n ^^^ sum) 0

/-- The places of the bits that are set in a byte. -/
def places (b : UInt8) : List Nat := (List.range 8).filter b.toNat.testBit

/-- The places of the bits that are set in bytes, counted from the end. -/
def bitPlaces : List UInt8 → List Nat
  | [] => []
  | b :: bytes => (places b).map (8 * bytes.length + ·) ++ bitPlaces bytes

@[simp] theorem powerSum_nil : powerSum [] = 0 := rfl

@[simp] theorem powerSum_cons (n : Nat) (ns : List Nat) :
    powerSum (n :: ns) = power n ^^^ powerSum ns := rfl

theorem powerSum_append (ns ms : List Nat) :
    powerSum (ns ++ ms) = powerSum ns ^^^ powerSum ms := by
  induction ns with
  | nil => simp
  | cons n ns ih => simp [ih, UInt8.xor_assoc]

theorem iterate_power (m n : Nat) : bitStep^[m] (power n) = power (m + n) :=
  (Function.iterate_add_apply bitStep m n 1).symm

theorem iterate_powerSum (m : Nat) (ns : List Nat) :
    bitStep^[m] (powerSum ns) = powerSum (ns.map (m + ·)) := by
  induction ns with
  | nil => exact iterate_bitStep_zero m
  | cons n ns ih =>
    rw [powerSum_cons, iterate_bitStep_xor, iterate_power, ih]
    rfl

theorem powerSum_places (b : UInt8) : powerSum (places b) = b := by
  revert b
  exact forall_byte (by decide +kernel)

/-- The checksum adds up the powers of `x` at the places of the bits, eight places further up. -/
theorem checksum_eq_powerSum (bytes : List UInt8) :
    checksum bytes = bitStep^[8] (powerSum (bitPlaces bytes)) := by
  induction bytes with
  | nil => rfl
  | cons b bytes ih =>
    have hfirst : bitStep^[8 * bytes.length] b =
        powerSum ((places b).map (8 * bytes.length + ·)) := by
      rw [← iterate_powerSum, powerSum_places]
    rw [checksum_cons, ih, bitPlaces, powerSum_append, iterate_bitStep_xor, ← hfirst,
      Nat.mul_succ, Nat.add_comm, Function.iterate_add_apply]

theorem mem_places {b : UInt8} {i : Nat} (h : i ∈ places b) : i < 8 :=
  List.mem_range.mp (List.mem_filter.mp h).1

theorem lt_of_mem_bitPlaces {bytes : List UInt8} {n : Nat} (h : n ∈ bitPlaces bytes) :
    n < 8 * bytes.length := by
  induction bytes with
  | nil => cases h
  | cons b bytes ih =>
    rw [List.length_cons]
    rcases List.mem_append.mp h with hfirst | hrest
    · obtain ⟨i, hi, rfl⟩ := List.mem_map.mp hfirst
      have hsmall := mem_places hi
      omega
    · have hsmall := ih hrest
      omega

theorem nodup_bitPlaces (bytes : List UInt8) : (bitPlaces bytes).Nodup := by
  induction bytes with
  | nil => exact List.nodup_nil
  | cons b bytes ih =>
    have hplaces : (places b).Nodup := List.nodup_range.filter _
    refine List.Nodup.append (hplaces.map (add_right_injective _)) ih ?_
    intro n hfirst hrest
    obtain ⟨i, -, rfl⟩ := List.mem_map.mp hfirst
    have hsmall := lt_of_mem_bitPlaces hrest
    omega

theorem length_bitPlaces (bytes : List UInt8) :
    (bitPlaces bytes).length = (bytes.map fun b => (places b).length).sum := by
  induction bytes with
  | nil => rfl
  | cons b bytes ih =>
    rw [bitPlaces, List.length_append, List.length_map, ih, List.map_cons, List.sum_cons]

/-! ### Parity -/

/-- Whether a byte has an odd number of bits. -/
def isOdd (b : UInt8) : Bool := (List.range 8).foldr (fun i odd => b.toNat.testBit i ^^ odd) false

theorem isOdd_xor (a b : UInt8) : isOdd (a ^^^ b) = (isOdd a ^^ isOdd b) := by
  have hfold : ∀ is : List Nat,
      is.foldr (fun i odd => (a ^^^ b).toNat.testBit i ^^ odd) false =
        (is.foldr (fun i odd => a.toNat.testBit i ^^ odd) false ^^
          is.foldr (fun i odd => b.toNat.testBit i ^^ odd) false) := by
    intro is
    induction is with
    | nil => rfl
    | cons i is ih =>
      rw [List.foldr_cons, List.foldr_cons, List.foldr_cons, ih, UInt8.toNat_xor, Nat.testBit_xor,
        Bool.xor_assoc, Bool.xor_assoc, Bool.xor_left_comm (b.toNat.testBit i)]
  exact hfold _

theorem isOdd_bitStep (r : UInt8) : isOdd (bitStep r) = isOdd r := by
  revert r
  exact forall_byte (by decide +kernel)

theorem isOdd_power (n : Nat) : isOdd (power n) = true := by
  induction n with
  | zero => rfl
  | succ n ih =>
    rw [power, Function.iterate_succ_apply', isOdd_bitStep]
    exact ih

theorem isOdd_powerSum (ns : List Nat) : isOdd (powerSum ns) = (ns.length % 2 == 1) := by
  induction ns with
  | nil => rfl
  | cons n ns ih =>
    rw [powerSum_cons, isOdd_xor, isOdd_power, ih, List.length_cons]
    rcases Nat.mod_two_eq_zero_or_one ns.length with h | h
    · simp [Nat.add_mod, h]
    · simp [Nat.add_mod, h]

theorem powerSum_ne_zero_of_odd {ns : List Nat} (h : ns.length % 2 = 1) : powerSum ns ≠ 0 := by
  intro hzero
  have hodd := isOdd_powerSum ns
  rw [hzero, h] at hodd
  exact absurd hodd (by decide)

/-! ### Order -/

/-- The number of powers of `x` before they repeat. -/
def order : Nat := 127

theorem power_ne_one : ∀ d < order, 0 < d → power d ≠ 1 := by
  decide +kernel

theorem power_ne_of_lt {m n : Nat} (hlt : m < n) (hnear : n < order) : power m ≠ power n := by
  intro heq
  have hshift : bitStep^[m] (power (n - m) ^^^ 1) = 0 := by
    have hone : bitStep^[m] 1 = power m := rfl
    rw [iterate_bitStep_xor, iterate_power, hone, heq, Nat.add_sub_cancel' hlt.le,
      UInt8.xor_self]
  have hpower : power (n - m) = 1 := UInt8.xor_eq_zero_iff.mp (iterate_bitStep_eq_zero.mp hshift)
  exact power_ne_one (n - m) (by omega) (by omega) hpower

theorem powerSum_ne_zero {ns : List Nat} (hsome : ns ≠ []) (hfew : ns.length ≤ 3)
    (hnodup : ns.Nodup) (hnear : ∀ n ∈ ns, n < order) : powerSum ns ≠ 0 := by
  match ns with
  | [] => exact absurd rfl hsome
  | [n] => exact powerSum_ne_zero_of_odd rfl
  | [m, n] =>
    intro hzero
    have heq : power m = power n := by
      rw [powerSum_cons, powerSum_cons, powerSum_nil, UInt8.xor_zero] at hzero
      exact UInt8.xor_eq_zero_iff.mp hzero
    have hm := hnear m (by simp)
    have hn := hnear n (by simp)
    have hne : m ≠ n := by simpa using hnodup
    rcases Nat.lt_or_gt_of_ne hne with hlt | hlt
    · exact power_ne_of_lt hlt hn heq
    · exact power_ne_of_lt hlt hm heq.symm
  | [_, _, _] => exact powerSum_ne_zero_of_odd (by simp)
  | _ :: _ :: _ :: _ :: _ =>
    simp only [List.length_cons] at hfew
    omega

theorem checksum_ne_zero_of_few_bits {e : List UInt8} (hsome : bitPlaces e ≠ [])
    (hfew : (bitPlaces e).length ≤ 3) (hshort : 8 * e.length ≤ order) : checksum e ≠ 0 := by
  rw [checksum_eq_powerSum]
  intro hzero
  refine powerSum_ne_zero hsome hfew (nodup_bitPlaces e) ?_ (iterate_bitStep_eq_zero.mp hzero)
  intro n hn
  exact Nat.lt_of_lt_of_le (lt_of_mem_bitPlaces hn) hshort

end TwinBall.Crc
