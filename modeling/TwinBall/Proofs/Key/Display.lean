import Mathlib.Data.List.Count
import Mathlib.Data.List.Infix
import TwinBall.Key.Held

/-!
# The held keys on display

The display is compared with the keys that are really held, each as often as it went down and did
not come up again (`KeyHistory.held`).  A press that finds no free slot is not shown, so the display
may show fewer keys than are held, but it never shows more.  As long as no more than six keys with a
glyph are held, it shows exactly these (`display_shows_held_keys`).

All of this rests on what one key event does to the number of slots with a glyph (`count_update`,
`count_blank_update`), and on glyphs that tell keys apart and differ from that of a free slot
(`eq_of_glyph?`, `ne_blank_of_glyph?`).
-/

namespace TwinBall

/-! ## Glyphs -/

/-- No glyph occurs twice, and none is that of a free slot. -/
theorem nodup_glyphs : (blankGlyph :: glyphs).Nodup := by
  decide +kernel

theorem length_glyphs : glyphs.length = 53 := by
  decide

/-- Whether a key is shown when it is held. -/
def hasGlyph (code : UInt16) : Bool := (glyph? code).isSome

variable {code other : UInt16} {g : UInt8}

theorem glyph?_eq_some_iff :
    glyph? code = some g ↔ 4 ≤ code ∧ glyphs[code.toNat - 4]? = some g := by
  unfold glyph?
  by_cases h : code < 4
  · rw [if_pos h]
    exact ⟨nofun, fun hcode => absurd h (UInt16.not_lt.mpr hcode.1)⟩
  · have hle : 4 ≤ code := UInt16.not_lt.mp h
    rw [if_neg h, UInt16.toNat_sub_of_le _ _ hle]
    exact ⟨fun hget => ⟨hle, hget⟩, fun hcode => hcode.2⟩

theorem hasGlyph_of_glyph? (h : glyph? code = some g) : hasGlyph code = true := by
  rw [hasGlyph, h, Option.isSome_some]

theorem hasGlyph_iff : hasGlyph code = true ↔ 4 ≤ code ∧ code ≤ 56 := by
  have hfour : (4 : UInt16).toNat = 4 := rfl
  have hlast : (56 : UInt16).toNat = 56 := rfl
  constructor
  · intro h
    obtain ⟨g, hg⟩ := Option.isSome_iff_exists.mp h
    obtain ⟨hle, hget⟩ := glyph?_eq_some_iff.mp hg
    have hlt := (List.getElem?_eq_some_iff.mp hget).1
    rw [length_glyphs] at hlt
    refine ⟨hle, ?_⟩
    rw [UInt16.le_iff_toNat_le]
    omega
  · rintro ⟨hle, hle'⟩
    rw [UInt16.le_iff_toNat_le] at hle'
    have hlt : code.toNat - 4 < glyphs.length := by
      rw [length_glyphs]
      omega
    exact hasGlyph_of_glyph? (glyph?_eq_some_iff.mpr ⟨hle, List.getElem?_eq_getElem hlt⟩)

theorem ne_blank_of_glyph? (h : glyph? code = some g) : g ≠ blankGlyph := by
  rintro rfl
  have hmem := List.mem_of_getElem? (glyph?_eq_some_iff.mp h).2
  exact (List.nodup_cons.mp nodup_glyphs).1 hmem

/-- Glyphs tell keys apart. -/
theorem eq_of_glyph? (h : glyph? code = some g) (hother : glyph? other = some g) :
    code = other := by
  obtain ⟨hle, hget⟩ := glyph?_eq_some_iff.mp h
  obtain ⟨hle', hget'⟩ := glyph?_eq_some_iff.mp hother
  have hlt := (List.getElem?_eq_some_iff.mp hget).1
  have hplace : code.toNat - 4 = other.toNat - 4 :=
    (List.getElem?_inj hlt (List.nodup_cons.mp nodup_glyphs).2).mp (hget.trans hget'.symm)
  rw [UInt16.le_iff_toNat_le] at hle hle'
  have hfour : (4 : UInt16).toNat = 4 := rfl
  exact UInt16.toNat_inj.mp (by omega)

/-! ## Slots -/

section Replace

variable {old new : UInt8}

theorem count_replaceFirst_other (hold : g ≠ old) (hnew : g ≠ new) (l : List UInt8) :
    (replaceFirst old new l).count g = l.count g := by
  induction l with
  | nil => rfl
  | cons a l ih =>
    unfold replaceFirst
    split
    · next h => rw [h, List.count_cons_of_ne hnew.symm, List.count_cons_of_ne hold.symm]
    · rw [List.count_cons, List.count_cons, ih]

theorem count_replaceFirst_new (hne : old ≠ new) (l : List UInt8) :
    (replaceFirst old new l).count new = l.count new + if old ∈ l then 1 else 0 := by
  induction l with
  | nil => rfl
  | cons a l ih =>
    unfold replaceFirst
    split
    · next h =>
      subst h
      rw [List.count_cons_self, List.count_cons_of_ne hne, if_pos List.mem_cons_self]
    · next h =>
      have hmem : old ∈ a :: l ↔ old ∈ l := by simp [Ne.symm h]
      simp only [List.count_cons, ih, hmem]
      omega

theorem count_replaceFirst_old (hne : old ≠ new) (l : List UInt8) :
    (replaceFirst old new l).count old = l.count old - 1 := by
  induction l with
  | nil => rfl
  | cons a l ih =>
    unfold replaceFirst
    split
    · next h =>
      subst h
      rw [List.count_cons_self, List.count_cons_of_ne hne.symm, Nat.add_sub_cancel]
    · next h => rw [List.count_cons_of_ne h, List.count_cons_of_ne h, ih]

/-- Any other glyph is shown where it was shown. -/
theorem getElem?_replaceFirst (hold : g ≠ old) (hnew : g ≠ new) (l : List UInt8) (i : Nat) :
    (replaceFirst old new l)[i]? = some g ↔ l[i]? = some g := by
  induction l generalizing i with
  | nil => rfl
  | cons a l ih =>
    unfold replaceFirst
    split
    · next h =>
      subst h
      cases i with
      | zero => simp [hold.symm, hnew.symm]
      | succ i => rfl
    · cases i with
      | zero => rfl
      | succ i => exact ih i

theorem mem_replaceFirst {l : List UInt8} (h : g ∈ replaceFirst old new l) : g = new ∨ g ∈ l := by
  induction l with
  | nil => exact .inr h
  | cons a l ih =>
    unfold replaceFirst at h
    split at h
    · rcases List.mem_cons.mp h with heq | hmem
      · exact .inl heq
      · exact .inr (List.mem_cons_of_mem a hmem)
    · rcases List.mem_cons.mp h with heq | hmem
      · exact .inr (heq ▸ List.mem_cons_self)
      · exact (ih hmem).imp_right (List.mem_cons_of_mem a)

theorem replaceFirst_of_not_mem {l : List UInt8} (h : old ∉ l) : replaceFirst old new l = l := by
  induction l with
  | nil => rfl
  | cons a l ih =>
    rw [List.mem_cons, not_or] at h
    rw [replaceFirst, if_neg (Ne.symm h.1), ih h.2]

end Replace

namespace HeldKeys

variable {h : HeldKeys} {pressed : Bool}

theorem slots_update (hg : glyph? code = some g) :
    (h.update code pressed).slots =
      if pressed then replaceFirst blankGlyph g h.slots else replaceFirst g blankGlyph h.slots := by
  rw [update, hg]
  cases pressed with
  | true => rfl
  | false => rfl

/-- What becomes of the slots, as seen by the glyph of another key. -/
theorem slots_update_other (hne : code ≠ other) (hg : glyph? other = some g) :
    (h.update code pressed).slots = h.slots ∨
      ∃ old new, g ≠ old ∧ g ≠ new ∧
        (h.update code pressed).slots = replaceFirst old new h.slots := by
  cases hcode : glyph? code with
  | none => exact .inl (by rw [update, hcode])
  | some own =>
    have hblank := ne_blank_of_glyph? hg
    have hown : g ≠ own := by
      rintro rfl
      exact hne (eq_of_glyph? hcode hg)
    rw [slots_update hcode]
    cases pressed with
    | true => exact .inr ⟨blankGlyph, own, hblank, hown, rfl⟩
    | false => exact .inr ⟨own, blankGlyph, hown, hblank, rfl⟩

/-- A key event leaves the glyphs of all other keys where they are. -/
theorem getElem?_slots_update (hne : code ≠ other) (hg : glyph? other = some g) (i : Nat) :
    (h.update code pressed).slots[i]? = some g ↔ h.slots[i]? = some g := by
  rcases slots_update_other hne hg with hsame | ⟨old, new, hold, hnew, hslots⟩
  · rw [hsame]
  · rw [hslots, getElem?_replaceFirst hold hnew]

/-- A key event changes the number of slots with the glyph of that key only: a press adds one if a
slot is free, and a release takes one away if there is any. -/
theorem count_update (hg : glyph? other = some g) :
    (h.update code pressed).slots.count g =
      if code = other then
        if pressed then h.slots.count g + (if blankGlyph ∈ h.slots then 1 else 0)
        else h.slots.count g - 1
      else h.slots.count g := by
  by_cases heq : code = other
  · subst heq
    have hblank := ne_blank_of_glyph? hg
    rw [if_pos rfl, slots_update hg]
    cases pressed with
    | true => exact count_replaceFirst_new hblank.symm h.slots
    | false => exact count_replaceFirst_old hblank h.slots
  · rw [if_neg heq]
    rcases slots_update_other heq hg with hsame | ⟨old, new, hold, hnew, hslots⟩
    · rw [hsame]
    · rw [hslots, count_replaceFirst_other hold hnew]

/-- A press takes a free slot if there is any, and a release frees a slot with the glyph of its key
if there is any. -/
theorem count_blank_update (hg : glyph? code = some g) :
    (h.update code pressed).slots.count blankGlyph =
      if pressed then h.slots.count blankGlyph - 1
      else h.slots.count blankGlyph + if g ∈ h.slots then 1 else 0 := by
  have hblank := ne_blank_of_glyph? hg
  rw [slots_update hg]
  cases pressed with
  | true => exact count_replaceFirst_old hblank.symm h.slots
  | false => exact count_replaceFirst_new hblank h.slots

theorem update_of_full (hfull : blankGlyph ∉ h.slots) : h.update code true = h := by
  cases hcode : glyph? code with
  | none => rw [update, hcode]
  | some own =>
    obtain ⟨slots, hlength⟩ := h
    rw [update, hcode]
    simp only [if_true, replace, replaceFirst_of_not_mem hfull]

theorem slots_eq_replicate (hfree : h.slots.count blankGlyph = 6) :
    h.slots = List.replicate 6 blankGlyph := by
  have hall := List.count_eq_length.mp (hfree.trans h.length_slots.symm)
  exact List.eq_replicate_iff.mpr ⟨h.length_slots, fun s hs => (hall s hs).symm⟩

end HeldKeys

/-! ## Histories -/

/-- Key events, each with the code of the key and whether it went down, the latest first. -/
abbrev KeyHistory := List (UInt16 × Bool)

namespace KeyHistory

/-- How often a key went down. -/
def presses (history : KeyHistory) (code : UInt16) : Nat := history.count (code, true)

/-- How often a key came up. -/
def releases (history : KeyHistory) (code : UInt16) : Nat := history.count (code, false)

/-- At no time had a key come up more often than it had gone down. -/
def IsFair (history : KeyHistory) : Prop :=
  ∀ earlier, earlier <:+ history → ∀ code, releases earlier code ≤ presses earlier code

/-- The keys that are held, each as often as it went down and did not come up again. -/
def held : KeyHistory → List UInt16
  | [] => []
  | (code, true) :: before => code :: held before
  | (code, false) :: before => (held before).erase code

theorem isFair_nil : IsFair [] := by
  intro earlier hearlier code
  rw [List.suffix_nil.mp hearlier]
  exact Nat.le_refl _

theorem IsFair.of_cons {e : UInt16 × Bool} {before : KeyHistory} (h : IsFair (e :: before)) :
    IsFair before :=
  fun earlier hearlier => h earlier (hearlier.trans (List.suffix_cons e before))

variable (own : UInt16) (pressed : Bool) (before : KeyHistory)

theorem presses_cons :
    presses ((own, pressed) :: before) code =
      presses before code + if own = code ∧ pressed = true then 1 else 0 := by
  simp [presses, List.count_cons]

theorem releases_cons :
    releases ((own, pressed) :: before) code =
      releases before code + if own = code ∧ pressed = false then 1 else 0 := by
  simp [releases, List.count_cons]

theorem count_held_cons :
    (held ((own, pressed) :: before)).count code =
      if own = code then
        if pressed then before.held.count code + 1 else before.held.count code - 1
      else before.held.count code := by
  by_cases hown : own = code
  · subst hown
    cases pressed with
    | true => rw [held, List.count_cons_self, if_pos rfl, if_pos rfl]
    | false => rw [held, List.count_erase_self, if_pos rfl, if_neg Bool.false_ne_true]
  · rw [if_neg hown]
    cases pressed with
    | true => rw [held, List.count_cons_of_ne hown]
    | false => rw [held, List.count_erase_of_ne (Ne.symm hown)]

theorem countP_held_cons :
    (held ((own, pressed) :: before)).countP hasGlyph =
      if pressed then before.held.countP hasGlyph + if hasGlyph own then 1 else 0
      else before.held.countP hasGlyph - if own ∈ before.held ∧ hasGlyph own then 1 else 0 := by
  cases pressed with
  | true => rw [held, List.countP_cons, if_pos rfl]
  | false => rw [held, List.countP_erase, if_neg Bool.false_ne_true]

theorem IsFair.press {before : KeyHistory} (h : before.IsFair) (own : UInt16) :
    IsFair ((own, true) :: before) := by
  intro earlier hearlier code
  rcases List.suffix_cons_iff.mp hearlier with rfl | hbefore
  · have hle := h before List.suffix_rfl code
    simp only [presses_cons, releases_cons, Bool.true_eq_false, and_false, if_false]
    omega
  · exact h earlier hbefore code

/-- A key may come up if it is held. -/
theorem IsFair.release {before : KeyHistory} (h : before.IsFair) {own : UInt16}
    (hheld : before.releases own < before.presses own) : IsFair ((own, false) :: before) := by
  intro earlier hearlier code
  rcases List.suffix_cons_iff.mp hearlier with rfl | hbefore
  · have hle := h before List.suffix_rfl code
    simp only [presses_cons, releases_cons, Bool.false_eq_true, and_false, if_false, and_true]
    split
    · next hown =>
      subst hown
      omega
    · omega
  · exact h earlier hbefore code

/-- A press of a key is released later, or the key is held. -/
theorem count_held_add_releases {history : KeyHistory} (h : history.IsFair) (code : UInt16) :
    history.held.count code + history.releases code = history.presses code := by
  induction history with
  | nil => rfl
  | cons e before ih =>
    obtain ⟨own, pressed⟩ := e
    have hbefore := ih h.of_cons
    have hnow := h _ List.suffix_rfl code
    rw [presses_cons, releases_cons] at hnow
    rw [count_held_cons, presses_cons, releases_cons]
    by_cases hown : own = code
    · cases pressed with
      | true =>
        simp only [hown, if_true, and_self, and_false, if_false, Bool.true_eq_false]
        omega
      | false =>
        simp only [hown, if_true, and_self, and_false, if_false, Bool.false_eq_true] at hnow ⊢
        omega
    · simpa only [hown, false_and, if_false, Nat.add_zero] using hbefore

end KeyHistory

/-! ## The display after a history -/

namespace HeldKeys

open KeyHistory

/-- What is shown after key events. -/
def after : KeyHistory → HeldKeys
  | [] => .empty
  | (code, pressed) :: before => (after before).update code pressed

theorem not_mem_empty (hg : glyph? code = some g) : g ∉ empty.slots := fun hmem =>
  ne_blank_of_glyph? hg (List.eq_of_mem_replicate hmem)

/-- A key is shown no more often than it is held. -/
theorem count_after_le (history : KeyHistory) (hg : glyph? code = some g) :
    (after history).slots.count g ≤ history.held.count code := by
  induction history with
  | nil =>
    rw [after, List.count_eq_zero.mpr (not_mem_empty hg)]
    exact Nat.zero_le _
  | cons e before ih =>
    obtain ⟨own, pressed⟩ := e
    rw [after, count_update hg, count_held_cons]
    by_cases hown : own = code
    · rw [if_pos hown, if_pos hown]
      cases pressed with
      | true =>
        simp only [if_true]
        split
        · omega
        · omega
      | false =>
        simp only [Bool.false_eq_true, if_false]
        omega
    · rw [if_neg hown, if_neg hown]
      exact ih

/-- A slot shows the glyph of a key, or is free. -/
theorem eq_blank_or_glyph (history : KeyHistory) {s : UInt8} (hs : s ∈ (after history).slots) :
    s = blankGlyph ∨ ∃ code, glyph? code = some s := by
  induction history with
  | nil => exact .inl (List.eq_of_mem_replicate hs)
  | cons e before ih =>
    obtain ⟨own, pressed⟩ := e
    cases hown : glyph? own with
    | none =>
      rw [after, update, hown] at hs
      exact ih hs
    | some g =>
      rw [after, slots_update hown] at hs
      cases pressed with
      | true =>
        rcases mem_replaceFirst hs with rfl | hmem
        · exact .inr ⟨own, hown⟩
        · exact ih hmem
      | false =>
        rcases mem_replaceFirst hs with rfl | hmem
        · exact .inl rfl
        · exact ih hmem

/-- Everything that is held is shown, and all other slots are free. -/
structure ShowsAll (h : HeldKeys) (held : List UInt16) : Prop where
  count_eq : ∀ code g, glyph? code = some g → h.slots.count g = held.count code
  free : h.slots.count blankGlyph + held.countP hasGlyph = 6

theorem ShowsAll.mem_iff {h : HeldKeys} {held : List UInt16} (hall : h.ShowsAll held)
    (hg : glyph? code = some g) : g ∈ h.slots ↔ code ∈ held := by
  rw [← List.count_pos_iff, ← List.count_pos_iff, hall.count_eq code g hg]

/-- A key event keeps everything shown, as long as no more than six keys are to be shown. -/
theorem ShowsAll.cons {before : KeyHistory} (hall : ShowsAll (after before) before.held)
    (own : UInt16) (pressed : Bool)
    (hfew : (held ((own, pressed) :: before)).countP hasGlyph ≤ 6) :
    ShowsAll (after ((own, pressed) :: before)) (held ((own, pressed) :: before)) := by
  have hfree := hall.free
  rw [countP_held_cons] at hfew
  constructor
  · intro code g hg
    have hcount := hall.count_eq code g hg
    rw [after, count_update hg, count_held_cons]
    by_cases hown : own = code
    · subst hown
      rw [if_pos rfl, if_pos rfl]
      cases pressed with
      | true =>
        -- The press is one of at most six, so it finds a free slot.
        rw [if_pos rfl, hasGlyph_of_glyph? hg, if_pos rfl] at hfew
        have hroom : blankGlyph ∈ (after before).slots := List.count_pos_iff.mp (by omega)
        rw [if_pos rfl, if_pos rfl, if_pos hroom, hcount]
      | false => rw [if_neg Bool.false_ne_true, if_neg Bool.false_ne_true, hcount]
    · rw [if_neg hown, if_neg hown, hcount]
  · rw [after, countP_held_cons]
    cases hown : glyph? own with
    | none =>
      have hnot : hasGlyph own = false := by rw [hasGlyph, hown, Option.isSome_none]
      rw [update, hown, hnot]
      cases pressed with
      | true => exact hfree
      | false => simpa using hfree
    | some g =>
      have hglyph := hasGlyph_of_glyph? hown
      rw [count_blank_update hown]
      cases pressed with
      | true =>
        simp only [hglyph, if_true] at hfew ⊢
        omega
      | false =>
        simp only [Bool.false_eq_true, if_false, hglyph, and_true, hall.mem_iff hown]
        split
        · next hmem =>
          have hpos : 0 < before.held.countP hasGlyph :=
            List.countP_pos_iff.mpr ⟨own, hmem, hglyph⟩
          omega
        · omega

theorem showsAll_after (history : KeyHistory)
    (hfew : ∀ earlier : KeyHistory, earlier <:+ history → earlier.held.countP hasGlyph ≤ 6) :
    ShowsAll (after history) history.held := by
  induction history with
  | nil =>
    refine ⟨fun code g hg => ?_, rfl⟩
    rw [after, List.count_eq_zero.mpr (not_mem_empty hg)]
    rfl
  | cons e before ih =>
    have hbefore := ih fun earlier hearlier =>
      hfew earlier (hearlier.trans (List.suffix_cons e before))
    exact hbefore.cons e.1 e.2 (hfew _ List.suffix_rfl)

/-- **The display shows held keys.**  No key came up more often than it had gone down.

A key with a glyph, which are those with the codes from 4 to 56, is shown no more often than it is
held, and every slot is free or shows the glyph of such a key.  As long as no more than six keys
with a glyph are held at once, each of them is shown just as often as it is held; so all slots are
free once all these keys came up.

A key event leaves the glyphs of all other keys where they are, whether or not its own key is shown,
and a press with no free slot changes nothing. -/
theorem display_shows_held_keys (history : KeyHistory) (fair : history.IsFair) :
    (∀ code, history.held.count code + history.releases code = history.presses code) ∧
    (∀ code, (∃ g, glyph? code = some g) ↔ 4 ≤ code ∧ code ≤ 56) ∧
    (∀ code g, glyph? code = some g → (after history).slots.count g ≤ history.held.count code) ∧
    (∀ s ∈ (after history).slots,
      s = blankGlyph ∨ ∃ code, (4 ≤ code ∧ code ≤ 56) ∧ glyph? code = some s) ∧
    ((∀ earlier : KeyHistory, earlier <:+ history → earlier.held.countP hasGlyph ≤ 6) →
      (∀ code g, glyph? code = some g →
        (after history).slots.count g = history.held.count code) ∧
      ((∀ code ∈ history.held, ¬ hasGlyph code) →
        (after history).slots = List.replicate 6 blankGlyph)) ∧
    (∀ code pressed other g, code ≠ other → glyph? other = some g → ∀ i : Nat,
      (after ((code, pressed) :: history)).slots[i]? = some g ↔
        (after history).slots[i]? = some g) ∧
    (blankGlyph ∉ (after history).slots → ∀ code,
      after ((code, true) :: history) = after history) := by
  refine ⟨count_held_add_releases fair, fun code => ?_, fun code g hg => count_after_le history hg,
    fun s hs => ?_, fun hfew => ?_, fun code pressed other g hne hg i => ?_, fun hfull code => ?_⟩
  · rw [← hasGlyph_iff, hasGlyph, Option.isSome_iff_exists]
  · rcases eq_blank_or_glyph history hs with hblank | ⟨code, hcode⟩
    · exact .inl hblank
    · exact .inr ⟨code, hasGlyph_iff.mp (hasGlyph_of_glyph? hcode), hcode⟩
  · have hall := showsAll_after history hfew
    refine ⟨hall.count_eq, fun hsettled => slots_eq_replicate ?_⟩
    have hnone : history.held.countP hasGlyph = 0 := List.countP_eq_zero.mpr hsettled
    have hfree := hall.free
    omega
  · exact getElem?_slots_update hne hg i
  · exact update_of_full hfull

/-- Of seven keys the last one is not shown, and its release takes nothing away; a key that was
shown leaves its slot free.  With two keys, one of them held twice, the display is blank after the
last release. -/
theorem display_shows_held_keys_after_seven_presses :
    let seven : KeyHistory :=
      [(10, true), (9, true), (8, true), (7, true), (6, true), (5, true), (4, true)]
    let few : KeyHistory :=
      [(4, false), (5, false), (4, false), (4, true), (5, true), (4, true)]
    KeyHistory.IsFair ((4, false) :: (10, false) :: seven) ∧ few.IsFair ∧
      (after ((4, false) :: (10, false) :: seven)).slots = [0xB0, 98, 99, 100, 101, 102] ∧
      (after ((4, false) :: (10, false) :: seven)).slots.count 103 ≤
        (held ((4, false) :: (10, false) :: seven)).count 10 ∧
      (after few).slots = List.replicate 6 blankGlyph := by
  intro seven few
  have hseven : seven.IsFair :=
    ((((((isFair_nil.press 4).press 5).press 6).press 7).press 8).press 9).press 10
  have hfair : KeyHistory.IsFair ((4, false) :: (10, false) :: seven) :=
    (hseven.release (by decide)).release (by decide)
  have hfew : few.IsFair :=
    (((((isFair_nil.press 4).press 5).press 4).release (by decide)).release (by decide)).release
      (by decide)
  have hsmall : ∀ earlier : KeyHistory, earlier ∈ few.tails →
      earlier.held.countP hasGlyph ≤ 6 := by decide
  have hup : few.held = [] := by decide
  obtain ⟨-, -, hle, -⟩ := display_shows_held_keys _ hfair
  obtain ⟨-, -, -, -, hequal, -⟩ := display_shows_held_keys few hfew
  exact ⟨hfair, hfew, by decide, hle 10 103 (by decide),
    (hequal fun earlier h => hsmall earlier ((List.mem_tails earlier few).mpr h)).2
      (by rw [hup]; exact List.forall_mem_nil _)⟩

end HeldKeys

end TwinBall
