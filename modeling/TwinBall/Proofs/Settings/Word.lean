import Mathlib.Algebra.Group.Nat.Defs
import TwinBall.Settings.Record

/-!
# The bits of the settings word

A field of a word is described by the bits that reading it looks at and by the bits that writing
it changes.  Fields that share no bit do not disturb each other, so a record that is packed into a
word is read back, each value reduced to the width of its field (`get_toWord`), and a word is the
word of what is read of it, up to the bits that no field uses (`toWord_ofWord`).
-/

namespace TwinBall

namespace BitField

variable {f g : BitField} {word : UInt32} {value : UInt8}

/-- The field lies in a word, and its values lie in a byte. -/
structure Fits (f : BitField) : Prop where
  nonempty : 0 < f.width.toNat
  byte : f.width.toNat ≤ 8
  word : f.shift.toNat + f.width.toNat ≤ 32

/-- The bit with number `i` belongs to the field. -/
def Covers (f : BitField) (i : Nat) : Prop :=
  f.shift.toNat ≤ i ∧ i < f.shift.toNat + f.width.toNat

instance (f : BitField) (i : Nat) : Decidable (f.Covers i) :=
  inferInstanceAs (Decidable (_ ∧ _))

/-- No bit belongs to both fields. -/
def Disjoint (f g : BitField) : Prop :=
  f.shift.toNat + f.width.toNat ≤ g.shift.toNat ∨ g.shift.toNat + g.width.toNat ≤ f.shift.toNat

instance (f g : BitField) : Decidable (f.Disjoint g) :=
  inferInstanceAs (Decidable (_ ∨ _))

theorem toNat_mask (hf : f.Fits) : f.mask.toNat = 2 ^ f.width.toNat - 1 := by
  have hwidth := hf.byte
  have hpow : (1 : Nat) <<< f.width.toNat = 2 ^ f.width.toNat := Nat.one_shiftLeft _
  have hlt : 2 ^ f.width.toNat < 2 ^ 32 := Nat.pow_lt_pow_right (by decide) (by omega)
  have hone : ((1 : UInt32) <<< f.width).toNat = 2 ^ f.width.toNat := by
    rw [UInt32.toNat_shiftLeft, Nat.mod_eq_of_lt (show f.width.toNat < 32 by omega)]
    exact hpow ▸ Nat.mod_eq_of_lt (hpow ▸ hlt)
  have hle : (1 : UInt32) ≤ 1 <<< f.width := by
    rw [UInt32.le_iff_toNat_le, hone]
    exact Nat.one_le_two_pow
  rw [mask, UInt32.toNat_sub_of_le _ _ hle, hone]
  rfl

theorem getLsbD_mask (hf : f.Fits) (i : Nat) :
    f.mask.toBitVec.getLsbD i = decide (i < f.width.toNat) := by
  rw [← BitVec.testBit_toNat, UInt32.toNat_toBitVec, toNat_mask hf, Nat.testBit_two_pow_sub_one]

theorem Fits.shift_lt (hf : f.Fits) : f.shift.toNat < 32 := by
  have hnonempty := hf.nonempty
  have hword := hf.word
  omega

theorem getLsbD_shiftRight (hf : f.Fits) (a : UInt32) (i : Nat) :
    (a >>> f.shift).toBitVec.getLsbD i = a.toBitVec.getLsbD (f.shift.toNat + i) := by
  have hshift : (f.shift.toBitVec % 32).toNat = f.shift.toNat := Nat.mod_eq_of_lt hf.shift_lt
  rw [UInt32.toBitVec_shiftRight, BitVec.ushiftRight_eq', hshift, BitVec.getLsbD_ushiftRight]

theorem getLsbD_shiftLeft (hf : f.Fits) (a : UInt32) {i : Nat} (hi : i < 32) :
    (a <<< f.shift).toBitVec.getLsbD i =
      (!decide (i < f.shift.toNat) && a.toBitVec.getLsbD (i - f.shift.toNat)) := by
  have hshift : (f.shift.toBitVec % 32).toNat = f.shift.toNat := Nat.mod_eq_of_lt hf.shift_lt
  rw [UInt32.toBitVec_shiftLeft, BitVec.shiftLeft_eq', hshift, BitVec.getLsbD_shiftLeft,
    decide_eq_true hi, Bool.true_and]

/-- What is read are the bits of the field. -/
theorem getLsbD_get (hf : f.Fits) (word : UInt32) (i : Nat) :
    (f.get word).toBitVec.getLsbD i =
      (decide (i < f.width.toNat) && word.toBitVec.getLsbD (f.shift.toNat + i)) := by
  rw [get, UInt32.toBitVec_toUInt8, BitVec.getLsbD_setWidth, UInt32.toBitVec_and,
    BitVec.getLsbD_and, getLsbD_mask hf, getLsbD_shiftRight hf]
  by_cases hi : i < f.width.toNat
  · have hbyte : i < 8 := Nat.lt_of_lt_of_le hi hf.byte
    simp [hi, hbyte]
  · simp [hi]

theorem get_lt (hf : f.Fits) (word : UInt32) : (f.get word).toNat < 2 ^ f.width.toNat := by
  refine Nat.lt_pow_two_of_testBit _ fun i hi => ?_
  rw [← UInt8.toNat_toBitVec, BitVec.testBit_toNat, getLsbD_get hf,
    decide_eq_false (Nat.not_lt.mpr hi), Bool.false_and]

/-- A bit of the field is read at its place in the field. -/
theorem getLsbD_of_covers (hf : f.Fits) {i : Nat} (hi : f.Covers i) (word : UInt32) :
    word.toBitVec.getLsbD i = (f.get word).toBitVec.getLsbD (i - f.shift.toNat) := by
  obtain ⟨hle, hlt⟩ := hi
  rw [getLsbD_get hf, decide_eq_true (show i - f.shift.toNat < f.width.toNat by omega),
    Bool.true_and, Nat.add_sub_of_le hle]

/-- The bits of the field are written, and no others. -/
theorem getLsbD_put (hf : f.Fits) (word : UInt32) (value : UInt8) (i : Nat) :
    (f.put word value).toBitVec.getLsbD i =
      if f.Covers i then value.toBitVec.getLsbD (i - f.shift.toNat)
      else word.toBitVec.getLsbD i := by
  have hword := hf.word
  by_cases hi : i < 32
  · rw [put, UInt32.toBitVec_or, BitVec.getLsbD_or, UInt32.toBitVec_and, BitVec.getLsbD_and,
      UInt32.toBitVec_not, BitVec.getLsbD_not, getLsbD_shiftLeft hf _ hi, getLsbD_mask hf,
      getLsbD_shiftLeft hf _ hi, UInt32.toBitVec_and, BitVec.getLsbD_and, getLsbD_mask hf]
    -- The bit lies below the field, inside it, or above it.
    by_cases hlow : i < f.shift.toNat
    · simp [Covers, hi, hlow, Nat.not_le.mpr hlow]
    · have hwidth : i - f.shift.toNat < f.width.toNat ↔ i < f.shift.toNat + f.width.toNat := by
        omega
      have hbelow : i - f.shift.toNat < 32 := Nat.lt_of_le_of_lt (Nat.sub_le _ _) hi
      by_cases hhigh : i < f.shift.toNat + f.width.toNat
      · simp [Covers, hi, hlow, hhigh, hwidth, hbelow, Nat.not_lt.mp hlow]
      · simp [Covers, hi, hlow, hhigh, hwidth]
  · have houtside : ¬ f.Covers i := fun ⟨_, hcovered⟩ => hi (Nat.lt_of_lt_of_le hcovered hword)
    rw [if_neg houtside, BitVec.getLsbD_of_ge _ _ (Nat.le_of_not_lt hi),
      BitVec.getLsbD_of_ge _ _ (Nat.le_of_not_lt hi)]

theorem get_put (hf : f.Fits) (word : UInt32) (value : UInt8) :
    (f.get (f.put word value)).toNat = value.toNat % 2 ^ f.width.toNat := by
  refine Nat.eq_of_testBit_eq fun i => ?_
  rw [Nat.testBit_mod_two_pow, ← UInt8.toNat_toBitVec, ← UInt8.toNat_toBitVec,
    BitVec.testBit_toNat, BitVec.testBit_toNat, getLsbD_get hf, getLsbD_put hf]
  by_cases hi : i < f.width.toNat
  · simp [Covers, hi]
  · simp [hi]

/-- Writing one field leaves the others as they are. -/
theorem get_put_of_disjoint (hf : f.Fits) (hg : g.Fits) (hfg : f.Disjoint g) (word : UInt32)
    (value : UInt8) : f.get (g.put word value) = f.get word := by
  rw [← UInt8.toBitVec_inj]
  refine BitVec.eq_of_getLsbD_eq fun i _ => ?_
  rw [getLsbD_get hf, getLsbD_get hf, getLsbD_put hg]
  by_cases hi : i < f.width.toNat
  · have houtside : ¬ g.Covers (f.shift.toNat + i) := by
      unfold Covers
      unfold Disjoint at hfg
      omega
    rw [if_neg houtside]
  · simp [hi]

end BitField

namespace SettingsRecord

open BitField

/-! ## The five parts of a record -/

/-- A value of a record.  It has a field of the word to itself. -/
inductive Part
  | cpi
  | scrollDiv
  | autoMouse
  | autoMouseTimeout
  | scrollSnap
  deriving DecidableEq

namespace Part

/-- Where a part lies in the word. -/
def field : Part → BitField
  | cpi => cpiField
  | scrollDiv => scrollDivField
  | autoMouse => autoMouseField
  | autoMouseTimeout => autoMouseTimeoutField
  | scrollSnap => scrollSnapField

/-- The byte that is packed for a part. -/
def value (r : SettingsRecord) : Part → UInt8
  | cpi => r.cpi
  | scrollDiv => r.scrollDiv
  | autoMouse => r.autoMouse.toUInt8
  | autoMouseTimeout => r.autoMouseTimeout
  | scrollSnap => r.scrollSnap

/-- All parts, in the order in which they are packed. -/
def all : List Part := [cpi, scrollDiv, autoMouse, autoMouseTimeout, scrollSnap]

variable {p q : Part}

theorem mem_all (p : Part) : p ∈ all := by
  cases p <;> decide

theorem fits_field (p : Part) : p.field.Fits := by
  cases p <;> exact ⟨by decide, by decide, by decide⟩

theorem disjoint_field (hne : p ≠ q) : p.field.Disjoint q.field := by
  revert hne
  cases p <;> cases q <;> decide

/-- The fields fill the lowest 18 bits. -/
theorem exists_covers_iff {i : Nat} : (∃ p : Part, p.field.Covers i) ↔ i < 18 := by
  constructor
  · rintro ⟨p, hcovers⟩
    have hend : p.field.shift.toNat + p.field.width.toNat ≤ 18 := by
      cases p <;> decide
    exact Nat.lt_of_lt_of_le hcovers.2 hend
  · intro hi
    have hall : ∀ i < 18, ∃ p ∈ all, p.field.Covers i := by decide
    obtain ⟨p, -, hcovers⟩ := hall i hi
    exact ⟨p, hcovers⟩

/-- The switch has a field of one bit, so it is read as the byte that was packed for it. -/
theorem value_ofWord (word : UInt32) (p : Part) : p.value (ofWord word) = p.field.get word := by
  cases p with
  | autoMouse =>
    have hlt : (autoMouseField.get word).toNat < 2 := get_lt (fits_field autoMouse) word
    show (autoMouseField.get word != 0).toUInt8 = autoMouseField.get word
    generalize autoMouseField.get word = bit at hlt ⊢
    have hbit : bit = 0 ∨ bit = 1 := by
      rw [← UInt8.toNat_inj, ← UInt8.toNat_inj]
      show bit.toNat = 0 ∨ bit.toNat = 1
      omega
    rcases hbit with rfl | rfl
    · rfl
    · rfl
  | _ => rfl

end Part

/-! ## Packing -/

/-- The word after some parts of a record were written into it. -/
def write (r : SettingsRecord) (parts : List Part) (word : UInt32) : UInt32 :=
  parts.foldl (fun word p => p.field.put word (p.value r)) word

theorem toWord_eq_write (r : SettingsRecord) : r.toWord = r.write Part.all 0 := rfl

variable (r : SettingsRecord) {p : Part} {parts : List Part} {word : UInt32}

/-- A bit of no field that is written stays. -/
theorem getLsbD_write_of_not_covers {i : Nat} (houtside : ∀ p ∈ parts, ¬ p.field.Covers i) :
    (r.write parts word).toBitVec.getLsbD i = word.toBitVec.getLsbD i := by
  induction parts generalizing word with
  | nil => rfl
  | cons q parts ih =>
    obtain ⟨hq, hparts⟩ := List.forall_mem_cons.mp houtside
    refine (ih hparts).trans ?_
    rw [getLsbD_put q.fits_field, if_neg hq]

theorem get_write_of_not_mem (hp : p ∉ parts) :
    p.field.get (r.write parts word) = p.field.get word := by
  induction parts generalizing word with
  | nil => rfl
  | cons q parts ih =>
    obtain ⟨hne, hparts⟩ := not_or.mp (mt List.mem_cons.mpr hp)
    refine (ih hparts).trans ?_
    exact get_put_of_disjoint p.fits_field q.fits_field (Part.disjoint_field hne) _ _

theorem get_write (hp : p ∈ parts) :
    (p.field.get (r.write parts word)).toNat =
      (p.value r).toNat % 2 ^ p.field.width.toNat := by
  induction parts generalizing word with
  | nil => exact absurd hp List.not_mem_nil
  | cons q parts ih =>
    by_cases hlater : p ∈ parts
    · exact ih hlater
    · -- The part is written here, and nothing after it touches its field.
      obtain rfl : p = q := (List.mem_cons.mp hp).resolve_right hlater
      have hkept : p.field.get (r.write (p :: parts) word) =
          p.field.get (p.field.put word (p.value r)) := r.get_write_of_not_mem hlater
      rw [hkept, get_put p.fits_field]

/-- What is read of a part is its value, as far as its field is wide. -/
theorem get_toWord (p : Part) :
    (p.field.get r.toWord).toNat = (p.value r).toNat % 2 ^ p.field.width.toNat := by
  rw [toWord_eq_write]
  exact r.get_write p.mem_all

theorem getLsbD_toWord_of_le {i : Nat} (hi : 18 ≤ i) : r.toWord.toBitVec.getLsbD i = false := by
  have houtside : ∀ p ∈ Part.all, ¬ p.field.Covers i := fun p _ hcovers =>
    absurd (Part.exists_covers_iff.mp ⟨p, hcovers⟩) (Nat.not_lt.mpr hi)
  rw [toWord_eq_write, getLsbD_write_of_not_covers r houtside]
  exact BitVec.getLsbD_zero

/-- The record with every value reduced to the width of its field. -/
def truncate (r : SettingsRecord) : SettingsRecord where
  cpi := r.cpi % 128
  scrollDiv := r.scrollDiv % 8
  autoMouse := r.autoMouse
  autoMouseTimeout := r.autoMouseTimeout % 32
  scrollSnap := r.scrollSnap % 4

/-- No value is wider than its field. -/
structure Fits (r : SettingsRecord) : Prop where
  cpi : r.cpi < 128
  scrollDiv : r.scrollDiv < 8
  autoMouseTimeout : r.autoMouseTimeout < 32
  scrollSnap : r.scrollSnap < 4

theorem scrollSnap_toWord : scrollSnapField.get r.toWord = r.scrollSnap % 4 :=
  UInt8.toNat_inj.mp (r.get_toWord .scrollSnap)

/-- A record that was packed into a word is read back, as far as its values fit. -/
theorem ofWord_toWord : ofWord r.toWord = r.truncate := by
  have hcpi : cpiField.get r.toWord = r.cpi % 128 := UInt8.toNat_inj.mp (r.get_toWord .cpi)
  have hdiv : scrollDivField.get r.toWord = r.scrollDiv % 8 :=
    UInt8.toNat_inj.mp (r.get_toWord .scrollDiv)
  have hswitch : autoMouseField.get r.toWord = r.autoMouse.toUInt8 % 2 :=
    UInt8.toNat_inj.mp (r.get_toWord .autoMouse)
  have htimeout : autoMouseTimeoutField.get r.toWord = r.autoMouseTimeout % 32 :=
    UInt8.toNat_inj.mp (r.get_toWord .autoMouseTimeout)
  have hbit : (r.autoMouse.toUInt8 % 2 != 0) = r.autoMouse := by
    cases r.autoMouse <;> rfl
  rw [ofWord, hcpi, hdiv, hswitch, htimeout, scrollSnap_toWord, hbit, truncate]

variable {r}

theorem truncate_of_fits (h : r.Fits) : r.truncate = r := by
  have hmod : ∀ {a b : UInt8}, a < b → a % b = a := by
    intro a b hlt
    rw [← UInt8.toNat_inj, UInt8.toNat_mod, Nat.mod_eq_of_lt (UInt8.lt_iff_toNat_lt.mp hlt)]
  rw [truncate, hmod h.cpi, hmod h.scrollDiv, hmod h.autoMouseTimeout, hmod h.scrollSnap]

/-! ## The word as a whole -/

/-- Packing what was read of a word gives every part of the word back. -/
theorem get_toWord_ofWord (p : Part) (word : UInt32) :
    p.field.get (ofWord word).toWord = p.field.get word := by
  rw [← UInt8.toNat_inj, get_toWord, Part.value_ofWord]
  exact Nat.mod_eq_of_lt (get_lt p.fits_field word)

/-- The bits past the last field are dropped, and no others. -/
theorem toWord_ofWord (word : UInt32) : (ofWord word).toWord = word &&& 0x3FFFF := by
  have hmask : ∀ i < 32, (0x3FFFF : UInt32).toBitVec.getLsbD i = decide (i < 18) := by decide
  rw [← UInt32.toBitVec_inj]
  refine BitVec.eq_of_getLsbD_eq fun i hi => ?_
  rw [UInt32.toBitVec_and, BitVec.getLsbD_and, hmask i hi]
  -- A bit below 18 belongs to a field and is read back with it; no other bit is ever written.
  by_cases hused : i < 18
  · obtain ⟨p, hcovers⟩ := Part.exists_covers_iff.mpr hused
    rw [getLsbD_of_covers p.fits_field hcovers, getLsbD_of_covers p.fits_field hcovers word,
      get_toWord_ofWord, decide_eq_true hused, Bool.and_true]
  · rw [getLsbD_toWord_of_le _ (Nat.not_lt.mp hused), decide_eq_false hused, Bool.and_false]

/-- The records have the same values but for one part. -/
def AgreeOff (p : Part) (r s : SettingsRecord) : Prop := ∀ q, q ≠ p → q.value r = q.value s

variable {s : SettingsRecord}

theorem AgreeOff.get_toWord_eq (h : AgreeOff p r s) {q : Part} (hne : q ≠ p) :
    q.field.get r.toWord = q.field.get s.toWord := by
  rw [← UInt8.toNat_inj, get_toWord, get_toWord, h q hne]

/-- Words of records that differ in one part differ at most inside its field. -/
theorem AgreeOff.covers_of_ne (h : AgreeOff p r s) {i : Nat}
    (hdiffer : r.toWord.toBitVec.getLsbD i ≠ s.toWord.toBitVec.getLsbD i) : p.field.Covers i := by
  by_cases hused : i < 18
  · obtain ⟨q, hcovers⟩ := Part.exists_covers_iff.mpr hused
    by_cases hq : q = p
    · exact hq ▸ hcovers
    · rw [getLsbD_of_covers q.fits_field hcovers, getLsbD_of_covers q.fits_field hcovers s.toWord,
        h.get_toWord_eq hq] at hdiffer
      exact absurd rfl hdiffer
  · have hle := Nat.not_lt.mp hused
    rw [getLsbD_toWord_of_le r hle, getLsbD_toWord_of_le s hle] at hdiffer
    exact absurd rfl hdiffer

/-- **Packing settings is exact.**  A word that is read and packed again keeps the bits of its
fields and loses the rest.  A record that is packed and read again has every value reduced to the
width of its field.  Where two records differ in one part, their words differ only inside the field
of that part, and all other parts are read the same; so a value that is too wide never reaches its
neighbours. -/
theorem packing_is_exact :
    (∀ word : UInt32, (ofWord word).toWord = word &&& 0x3FFFF) ∧
    (∀ r : SettingsRecord, ofWord r.toWord =
      { cpi := r.cpi % 128
        scrollDiv := r.scrollDiv % 8
        autoMouse := r.autoMouse
        autoMouseTimeout := r.autoMouseTimeout % 32
        scrollSnap := r.scrollSnap % 4 }) ∧
    ∀ (p : Part) (r s : SettingsRecord), AgreeOff p r s →
      (∀ i, r.toWord.toBitVec.getLsbD i ≠ s.toWord.toBitVec.getLsbD i → p.field.Covers i) ∧
        ∀ q, q ≠ p → q.field.get r.toWord = q.field.get s.toWord :=
  ⟨toWord_ofWord, ofWord_toWord,
    fun _ _ _ hagree => ⟨fun _ => hagree.covers_of_ne, fun _ => hagree.get_toWord_eq⟩⟩

/-- A scroll divider far beyond its three bits, in a record with no room to spare: the other values
are read back as they were packed, and the word differs from that of the divider `0` only in the
bits from 7 to 9. -/
theorem packing_is_exact_of_oversized :
    let r : SettingsRecord := ⟨127, 0xFA, true, 31, 3⟩
    let s : SettingsRecord := { r with scrollDiv := 0 }
    AgreeOff .scrollDiv r s ∧ ofWord r.toWord = ⟨127, 2, true, 31, 3⟩ ∧
      (∀ i, r.toWord.toBitVec.getLsbD i ≠ s.toWord.toBitVec.getLsbD i → 7 ≤ i ∧ i < 10) ∧
      (ofWord 0xFFFC0005).toWord = 5 := by
  intro r s
  have hagree : AgreeOff .scrollDiv r s := by
    intro q hne
    cases q with
    | scrollDiv => exact absurd rfl hne
    | _ => rfl
  obtain ⟨hword, hrecord, hparts⟩ := packing_is_exact
  have hreduced : ofWord r.toWord = ⟨127, 2, true, 31, 3⟩ := (hrecord r).trans (by decide)
  exact ⟨hagree, hreduced, (hparts .scrollDiv r s hagree).1, hword 0xFFFC0005⟩

end SettingsRecord

end TwinBall
