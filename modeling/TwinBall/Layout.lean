/-!
# The layout options word

The host tool draws the keyboard from a word of layout options.  Its two low bits say which
halves carry a ball: bit 1 the left half, bit 0 the right half.
-/

namespace TwinBall.Layout

/-- The bit of a half. -/
def sideBit (left : Bool) : UInt32 := if left then 2 else 1

/-- The two ball bits, given which balls there are and whether this half is the left one. -/
def mask (ownBall peerBall left : Bool) : UInt32 :=
  (if ownBall then sideBit left else 0) ||| (if peerBall then sideBit !left else 0)

/-- The word `current` with `mask` in its two low bits. -/
def withMask (current mask : UInt32) : UInt32 := (current &&& ~~~3) ||| mask

theorem mask_and_three (ownBall peerBall left : Bool) :
    mask ownBall peerBall left &&& 3 = mask ownBall peerBall left := by
  cases ownBall <;> cases peerBall <;> cases left <;> rfl

/-- Bit 1 says whether the left half carries a ball, and bit 0 whether the right half does. -/
theorem getLsbD_mask (ownBall peerBall left : Bool) :
    (mask ownBall peerBall left).toBitVec.getLsbD 1 = (if left then ownBall else peerBall) ∧
      (mask ownBall peerBall left).toBitVec.getLsbD 0 = (if left then peerBall else ownBall) := by
  cases ownBall <;> cases peerBall <;> cases left <;> decide

theorem or_and_distrib (a b bits : UInt32) : (a ||| b) &&& bits = a &&& bits ||| b &&& bits := by
  rw [← UInt32.toBitVec_inj]
  exact BitVec.and_or_distrib_right

theorem and_three_withMask {current mask : UInt32} (h : mask &&& 3 = mask) :
    withMask current mask &&& 3 = mask := by
  have hclear : (~~~3 &&& 3 : UInt32) = 0 := rfl
  rw [withMask, or_and_distrib, UInt32.and_assoc, hclear, UInt32.and_zero,
    UInt32.zero_or, h]

theorem and_not_three_withMask {current mask : UInt32} (h : mask &&& 3 = mask) :
    withMask current mask &&& ~~~3 = current &&& ~~~3 := by
  have hclear : (3 &&& ~~~3 : UInt32) = 0 := rfl
  have hmask : mask &&& ~~~3 = 0 := by
    rw [← h, UInt32.and_assoc, hclear, UInt32.and_zero]
  rw [withMask, or_and_distrib, UInt32.and_assoc, UInt32.and_self, hmask,
    UInt32.or_zero]

/-- The new layout options with `mask` in the two low bits, or `none` if nothing changes. -/
def merge? (current mask : UInt32) : Option UInt32 :=
  if withMask current mask = current then none else some (withMask current mask)

theorem merge?_eq_some_iff {current mask word : UInt32} :
    merge? current mask = some word ↔ word ≠ current ∧ word = withMask current mask := by
  unfold merge?
  split
  · next hsame => exact ⟨nofun, fun ⟨hne, heq⟩ => absurd (heq.trans hsame) hne⟩
  · next hnew =>
    refine ⟨fun h => ?_, fun ⟨_, heq⟩ => congrArg some heq.symm⟩
    cases h
    exact ⟨hnew, rfl⟩

theorem merge?_eq_none_iff {current mask : UInt32} :
    merge? current mask = none ↔ withMask current mask = current := by
  simp [merge?]

end TwinBall.Layout
