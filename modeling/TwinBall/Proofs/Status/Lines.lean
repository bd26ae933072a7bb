import TwinBall.Proofs.Half.CheckedSettings
import TwinBall.Proofs.Status.Numbers

/-!
# What the status lines show

Each line of the display is put together from columns, which fill it exactly: no column is cut, and
no place is left over (`Row.shown_eq_flatten`, `Row.length_shown`).  So a column stands at a fixed
place, and what it shows can be read off the line alone.

The numbers on the lines are read back with `readDecimal?`.  The settings in use are within their
limits, which is why all their digits are shown (`lines_show_the_half`).
-/

namespace TwinBall.Status

/-! ## Columns side by side -/

section Columns

variable {α : Type} {columns : List (List α)} (before after : List (List α)) {part : List α}
  {start stop : Nat}

/-- A column stands behind the columns before it. -/
theorem extract_flatten (hstart : before.flatten.length = start)
    (hstop : start + part.length = stop) (hcolumns : columns = before ++ part :: after) :
    columns.flatten.extract start stop = part := by
  subst hcolumns hstop hstart
  rw [List.extract_eq_take_drop, List.flatten_append, List.drop_left, List.flatten_cons,
    Nat.add_sub_cancel_left, List.take_left]

theorem getElem?_flatten (hstart : before.flatten.length = start)
    (hcolumns : columns = before ++ part :: after) {i : Nat} (hi : i < part.length) :
    columns.flatten[start + i]? = part[i]? := by
  subst hcolumns hstart
  rw [List.flatten_append, List.getElem?_append_right (Nat.le_add_right _ _),
    Nat.add_sub_cancel_left, List.flatten_cons, List.getElem?_append_left hi]

end Columns

theorem length_switchIcons (on : Bool) : (switchIcons on).length = 2 := by
  cases on <;> rfl

theorem length_snapIcons (h : Half) : (snapIcons h).length = 2 := by
  unfold snapIcons
  split
  · split <;> rfl
  · rfl

theorem length_autoMouseColumns (h : Half) : (autoMouseColumns h).length = 8 := by
  unfold autoMouseColumns
  split
  · simp [length_switchIcons]
  · rfl

/-! ## The lines -/

/-- A line of the display. -/
inductive Row
  /-- The axes of the last report. -/
  | ball
  /-- The settings of the ball. -/
  | settings
  /-- The last key event and the held keys. -/
  | keys
  /-- The active layers and the auto mouse layer. -/
  | layers

namespace Row

/-- What a line shows. -/
def shown (h : Half) (active : UInt32) : Row → List UInt8
  | ball => ballLine h
  | settings => settingsLine h
  | keys => keyLine h
  | layers => layerLine h active

/-- The columns that are put on a line, before anything is cut. -/
def columns (h : Half) (active : UInt32) : Row → List (List UInt8)
  | ball =>
    [text "Ball", [labelMark], decimal4 h.lastMouse.x.toInt16, decimal4 h.lastMouse.y.toInt16,
      decimal4 h.lastMouse.pan.toInt16, decimal4 h.lastMouse.wheel.toInt16]
  | settings =>
    [text "    ", [labelMark, 0xBC, 0xBD], (decimal4 h.cpi.toUInt16.toInt16).drop 1, text "00 ",
      snapIcons h, switchIcons h.scrolling, [0x20, 0xC0, 0xC1], [0x30 + h.scrollDiv]]
  | keys =>
    [text "Key ", [labelMark], [0xB8, hexDigit h.lastRow, 0xB9, hexDigit h.lastCol],
      [0xBA, 0xBB, hexDigit (h.lastCode.toUInt8 >>> 4), hexDigit h.lastCode.toUInt8], text "  ",
      h.held.slots]
  | layers =>
    [text "L", [0xB6, 0xB7], text "r", [labelMark],
      [1, 2, 3, 4, 5, 6, 7].map (layerColumn active), [0x20], autoMouseColumns h]

variable (h : Half) (active : UInt32) (row : Row)

theorem shown_eq_line : row.shown h active = line (row.columns h active) := by
  cases row <;> rfl

/-- The columns of a line are together as wide as the line. -/
theorem length_flatten_columns : (row.columns h active).flatten.length = lineWidth := by
  cases row with
  | ball => simp [columns, text, lineWidth]
  | settings => simp [columns, text, lineWidth, length_snapIcons, length_switchIcons]
  | keys => simp [columns, text, lineWidth, h.held.length_slots]
  | layers => simp [columns, text, lineWidth, length_autoMouseColumns]

/-- Nothing is cut. -/
theorem shown_eq_flatten : row.shown h active = (row.columns h active).flatten := by
  have hfits := row.length_flatten_columns h active
  rw [shown_eq_line, line, List.take_of_length_le (Nat.le_of_eq hfits)]

theorem length_shown : (row.shown h active).length = lineWidth := by
  rw [shown_eq_flatten, length_flatten_columns]

variable (before after : List (List UInt8)) {part : List UInt8} {start stop : Nat}

/-- A column stands on its line behind the columns before it. -/
theorem extract_shown (hstart : before.flatten.length = start)
    (hstop : start + part.length = stop)
    (hcolumns : row.columns h active = before ++ part :: after) :
    (row.shown h active).extract start stop = part := by
  rw [shown_eq_flatten, extract_flatten before after hstart hstop hcolumns]

theorem getElem?_shown (hstart : before.flatten.length = start)
    (hcolumns : row.columns h active = before ++ part :: after) {i : Nat} (hi : i < part.length) :
    (row.shown h active)[start + i]? = part[i]? := by
  rw [shown_eq_flatten, getElem?_flatten before after hstart hcolumns hi]

end Row

/-! ## The axes of the last report -/

section Ball

variable (h : Half)

/-- Every value of an axis has at most three digits. -/
theorem readDecimal?_axis (v : Int8) : readDecimal? (decimal4 v.toInt16) = some v.toInt := by
  have hwide := Int8.toInt_toInt16 v
  have hlow := v.le_toInt
  have hhigh := v.toInt_lt
  rw [readDecimal?_decimal4_of_lt (by omega), hwide]

theorem readDecimal?_ballLine :
    readDecimal? ((ballLine h).extract 5 9) = some h.lastMouse.x.toInt ∧
    readDecimal? ((ballLine h).extract 9 13) = some h.lastMouse.y.toInt ∧
    readDecimal? ((ballLine h).extract 13 17) = some h.lastMouse.pan.toInt ∧
    readDecimal? ((ballLine h).extract 17 21) = some h.lastMouse.wheel.toInt := by
  have hplace : ∀ (v : Int8) (before after : List (List UInt8)) (start : Nat),
      before.flatten.length = start → Row.ball.columns h 0 = before ++ decimal4 v.toInt16 :: after →
        readDecimal? ((ballLine h).extract start (start + 4)) = some v.toInt := by
    intro v before after start hstart hcolumns
    have hstop : start + (decimal4 v.toInt16).length = start + 4 := by rw [length_decimal4]
    have hcolumn : (ballLine h).extract start (start + 4) = decimal4 v.toInt16 :=
      Row.ball.extract_shown h 0 before after hstart hstop hcolumns
    rw [hcolumn, readDecimal?_axis]
  -- Before an axis stand the label and the axes before it, each four wide.
  refine ⟨hplace h.lastMouse.x [_, _] [_, _, _] 5 ?_ rfl,
    hplace h.lastMouse.y [_, _, _] [_, _] 9 ?_ rfl,
    hplace h.lastMouse.pan [_, _, _, _] [_] 13 ?_ rfl,
    hplace h.lastMouse.wheel [_, _, _, _, _] [] 17 ?_ rfl⟩
  all_goals simp [text]

variable {h} {g : Half}

/-- Different motion never looks the same. -/
theorem axes_eq_of_ballLine_eq (heq : ballLine g = ballLine h) :
    g.lastMouse.x = h.lastMouse.x ∧ g.lastMouse.y = h.lastMouse.y ∧
      g.lastMouse.pan = h.lastMouse.pan ∧ g.lastMouse.wheel = h.lastMouse.wheel := by
  have hread := readDecimal?_ballLine g
  rw [heq] at hread
  obtain ⟨gx, gy, gpan, gwheel⟩ := hread
  obtain ⟨hx, hy, hpan, hwheel⟩ := readDecimal?_ballLine h
  have same : ∀ {column : List UInt8} {v w : Int8}, readDecimal? column = some v.toInt →
      readDecimal? column = some w.toInt → v = w := fun hv hw =>
    Int8.toInt_inj.mp (Option.some.inj (hv.symm.trans hw))
  exact ⟨same gx hx, same gy hy, same gpan hpan, same gwheel hwheel⟩

end Ball

/-! ## The settings -/

section Settings

variable (h : Half)

/-- Every resolution that a byte can hold has at most three digits. -/
theorem readDecimal?_cpi :
    readDecimal? ((settingsLine h).extract 7 10) = some (h.cpi.toNat : Int) := by
  have hbyte := h.cpi.toNat_lt
  have hvalue := toInt_widen h.cpi
  have hcolumn : (settingsLine h).extract 7 10 = (decimal4 h.cpi.toUInt16.toInt16).drop 1 := by
    have hstop : 7 + ((decimal4 h.cpi.toUInt16.toInt16).drop 1).length = 10 := by
      rw [List.length_drop, length_decimal4]
    exact Row.settings.extract_shown h 0 [_, _] [_, _, _, _, _] rfl hstop rfl
  rw [hcolumn, readDecimal?_drop_decimal4 (by omega) (by omega), hvalue]

theorem readDecimal?_scrollDiv (hle : h.scrollDiv ≤ 7) :
    readDecimal? ((settingsLine h).extract 20 21) = some (h.scrollDiv.toNat : Int) := by
  have hseven : h.scrollDiv.toNat ≤ 7 := UInt8.le_iff_toNat_le.mp hle
  have hlast : h.scrollDiv.toNat % 10 = h.scrollDiv.toNat := Nat.mod_eq_of_lt (by omega)
  have hdigit : 0x30 + h.scrollDiv = digit h.scrollDiv.toNat := by
    rw [digit, hlast, UInt8.ofNat_toNat]
  have hcolumn : (settingsLine h).extract 20 21 = [0x30 + h.scrollDiv] := by
    refine Row.settings.extract_shown h 0 [_, _, _, _, _, _, _] [] ?_ rfl rfl
    simp [text, length_snapIcons, length_switchIcons]
  rw [hcolumn, hdigit, readDecimal?_digit, readDigitsAfter?_nil, hlast]
  rfl

end Settings

/-! ## The layers -/

section Layers

variable (h : Half) (active : UInt32)

/-- The column of a layer shows the digit of the layer if it is active, and is blank if not. -/
theorem layerColumn_eq {k : Nat} (hk : k < 8) :
    layerColumn active (UInt8.ofNat k) =
      if active.toBitVec.getLsbD k then digit k else blankGlyph := by
  have hplace : (1 <<< (UInt8.ofNat k).toUInt32 : UInt32).toBitVec = BitVec.twoPow 32 k := by
    revert hk k
    decide
  have hglyph : hexDigit (UInt8.ofNat k) = digit k := by
    revert hk k
    decide
  have hset : BitVec.twoPow 32 k ≠ 0#32 := by
    intro hzero
    have hbit := congrArg (BitVec.getLsbD · k) hzero
    simp [show k < 32 by omega] at hbit
  have hinactive : active &&& (1 <<< (UInt8.ofNat k).toUInt32) = 0 ↔
      active.toBitVec.getLsbD k = false := by
    rw [← UInt32.toBitVec_inj, UInt32.toBitVec_and, hplace, BitVec.and_twoPow]
    cases active.toBitVec.getLsbD k with
    | true => exact ⟨fun hzero => absurd hzero hset, nofun⟩
    | false => exact ⟨fun _ => rfl, fun _ => rfl⟩
  rw [layerColumn, hglyph]
  by_cases hactive : active.toBitVec.getLsbD k = true
  · rw [if_pos hactive, if_neg (mt hinactive.mp (by rw [hactive]; nofun))]
  · rw [if_neg hactive, if_pos (hinactive.mpr (Bool.eq_false_iff.mpr hactive))]

/-- The places from 5 to 11 of the layer line are the columns of the layers from 1 to 7. -/
theorem getElem?_layerLine {k : Nat} (hpos : 1 ≤ k) (hle : k ≤ 7) :
    (layerLine h active)[4 + k]? =
      some (if active.toBitVec.getLsbD k then digit k else blankGlyph) := by
  -- The first of the seven columns stands at place 5 and belongs to layer 1.
  obtain ⟨i, rfl⟩ : ∃ i, k = i + 1 := ⟨k - 1, by omega⟩
  have hi : i < ([1, 2, 3, 4, 5, 6, 7].map (layerColumn active)).length := by
    rw [List.length_map]
    exact hle
  have hplace : (layerLine h active)[5 + i]? =
      ([1, 2, 3, 4, 5, 6, 7].map (layerColumn active))[i]? :=
    Row.layers.getElem?_shown h active [_, _, _, _] [_, _] rfl rfl hi
  have hnumber : ∀ i < 7,
      ([1, 2, 3, 4, 5, 6, 7] : List UInt8)[i]? = some (UInt8.ofNat (i + 1)) := by decide
  rw [show 4 + (i + 1) = 5 + i by omega, hplace, List.getElem?_map, hnumber i (by omega),
    Option.map_some, layerColumn_eq active (by omega)]

variable {h}

theorem toInt_tens (hmax : h.autoMouse.timeout ≤ AutoMouse.maxTimeout) :
    (h.autoMouse.timeout / 10).toInt16.toInt = (h.autoMouse.timeout.toNat / 10 : Nat) ∧
      h.autoMouse.timeout.toNat / 10 ≤ 100 := by
  have hhigh : h.autoMouse.timeout.toNat ≤ 1000 := UInt16.le_iff_toNat_le.mp hmax
  have hdiv : (h.autoMouse.timeout / 10).toNat = h.autoMouse.timeout.toNat / 10 :=
    UInt16.toNat_div _ _
  rw [toInt_toInt16 (by omega), hdiv]
  omega

/-- With an auto mouse layer the last four columns are the tens of the timeout and a zero. -/
theorem extract_layerLine (hauto : h.config.autoMouse = true) :
    (layerLine h active).extract 17 21 =
      (decimal4 (h.autoMouse.timeout / 10).toInt16).drop 1 ++ [0x30] := by
  have hlast : autoMouseColumns h = [0xC2, 0xC3] ++ switchIcons h.autoMouse.enabled ++
      (decimal4 (h.autoMouse.timeout / 10).toInt16).drop 1 ++ [0x30] := if_pos hauto
  -- The columns of the auto mouse layer, taken apart: what stands before the timeout, and the rest.
  have hwhole : layerLine h active =
      ([text "L", [0xB6, 0xB7], text "r", [labelMark],
        [1, 2, 3, 4, 5, 6, 7].map (layerColumn active), [0x20], [0xC2, 0xC3],
        switchIcons h.autoMouse.enabled] ++
        [(decimal4 (h.autoMouse.timeout / 10).toInt16).drop 1 ++ [0x30]]).flatten := by
    refine (Row.layers.shown_eq_flatten h active).trans ?_
    simp [Row.columns, hlast]
  rw [hwhole]
  refine extract_flatten _ [] ?_ ?_ rfl
  · simp [text, length_switchIcons]
  · simp

/-- The timeout is shown rounded down to tens. -/
theorem readDecimal?_layerLine (hauto : h.config.autoMouse = true)
    (hmax : h.autoMouse.timeout ≤ AutoMouse.maxTimeout) :
    readDecimal? ((layerLine h active).extract 17 21) =
      some ((h.autoMouse.timeout.toNat / 10 * 10 : Nat) : Int) := by
  obtain ⟨htens, hhundred⟩ := toInt_tens hmax
  have hread : readDecimal? ((decimal4 (h.autoMouse.timeout / 10).toInt16).drop 1) =
      some ((h.autoMouse.timeout.toNat / 10 : Nat) : Int) := by
    rw [readDecimal?_drop_decimal4 (by omega) (by omega), htens]
  rw [extract_layerLine active hauto, readDecimal?_concat_zero hread, Option.some_inj]
  omega

end Layers

/-! ## The whole display -/

variable {config : Config} {h : Half}

/-- **The status lines show the half.**  In a build whose defaults are within the limits, after any
calls with any decisions of the keyboard and for any active layers: each line is what is left of its
columns when they are cut at the width of a line, and this is all of them.  The axes of the last
report are read back from the ball line, so that no two halves with different axes have the same
line; the resolution and the scroll divider in use are read back from the settings line.  A layer
from 1 to 7 has its place on the layer line, which is blank just if the layer is not active, and the
timeout of an auto mouse layer is read back from the end of the line, rounded down to tens. -/
theorem lines_show_the_half (hvalid : config.Valid) (reached : Half.Reachable config h)
    (active : UInt32) :
    (∀ row : Row, row.shown h active = line (row.columns h active) ∧
      row.shown h active = (row.columns h active).flatten ∧ (row.shown h active).length = 21) ∧
    (readDecimal? ((ballLine h).extract 5 9) = some h.lastMouse.x.toInt ∧
      readDecimal? ((ballLine h).extract 9 13) = some h.lastMouse.y.toInt ∧
      readDecimal? ((ballLine h).extract 13 17) = some h.lastMouse.pan.toInt ∧
      readDecimal? ((ballLine h).extract 17 21) = some h.lastMouse.wheel.toInt ∧
      ∀ g : Half, ballLine g = ballLine h →
        g.lastMouse.x = h.lastMouse.x ∧ g.lastMouse.y = h.lastMouse.y ∧
          g.lastMouse.pan = h.lastMouse.pan ∧ g.lastMouse.wheel = h.lastMouse.wheel) ∧
    (readDecimal? ((settingsLine h).extract 7 10) = some (h.cpi.toNat : Int) ∧
      readDecimal? ((settingsLine h).extract 20 21) = some (h.scrollDiv.toNat : Int)) ∧
    (∀ k, 1 ≤ k → k ≤ 7 → ∃ shown, (layerLine h active)[4 + k]? = some shown ∧
      (shown ≠ blankGlyph ↔ active.toBitVec.getLsbD k = true)) ∧
    (config.autoMouse = true → readDecimal? ((layerLine h active).extract 17 21) =
      some ((h.autoMouse.timeout.toNat / 10 * 10 : Nat) : Int)) := by
  have hr := reached.inRange
  obtain ⟨hx, hy, hpan, hwheel⟩ := readDecimal?_ballLine h
  refine ⟨fun row => ⟨row.shown_eq_line h active, row.shown_eq_flatten h active,
      row.length_shown h active⟩,
    ⟨hx, hy, hpan, hwheel, fun g => axes_eq_of_ballLine_eq⟩,
    ⟨readDecimal?_cpi h, readDecimal?_scrollDiv h (hr.scrollDiv_mem hvalid).2⟩,
    fun k hpos hle => ⟨_, getElem?_layerLine h active hpos hle, ?_⟩, fun hauto => ?_⟩
  · split
    · next hactive => exact ⟨fun _ => hactive, fun _ => digit_ne rfl k⟩
    · next hinactive => exact ⟨fun hne => absurd rfl hne, fun hactive => absurd hactive hinactive⟩
  · have hmem := hr.timeout_mem ⟨hvalid.timeout_min, hvalid.timeout_max⟩
    exact readDecimal?_layerLine active (hr.build.symm ▸ hauto) hmem.2

/-- A keyboard that leaves the report as it came, and settings with all their digits: the lines are
written out, and their numbers are those of the half. -/
theorem lines_show_the_half_at_extremes :
    let config := { Config.default with cpiMax := 255, autoMouse := true }
    let policy := { Policy.standard with mapMove := fun _ r _ => r }
    let asked : List (Call MemoryStore) :=
      [⟨policy, .empty, .report ⟨1, -128, 127, 0, -5⟩ 100⟩, ⟨policy, .empty, .setCpi 255⟩,
        ⟨policy, .empty, .setAutoMouseTimeout 1009⟩]
    let h := (Half.new config .primary .left).after asked
    config.Valid ∧ Half.Reachable config h ∧
      ballLine h = text "Ball" ++ [labelMark] ++ text "-128 127  -5   0" ∧
      readDecimal? ((ballLine h).extract 5 9) = some (-128) ∧
      readDecimal? ((settingsLine h).extract 7 10) = some 255 ∧
      readDecimal? ((layerLine h 0x82).extract 17 21) = some 1000 := by
  intro config policy asked h
  have hvalid : config.Valid :=
    ⟨by decide, by decide, by decide, by decide, by decide, by decide⟩
  have reached : Half.Reachable config h := (Half.Reachable.new .primary .left).after asked
  obtain ⟨-, ⟨hx, -⟩, ⟨hcpi, -⟩, -, hauto⟩ := lines_show_the_half hvalid reached 0x82
  exact ⟨hvalid, reached, by decide, hx.trans (by decide), hcpi.trans (by decide),
    (hauto rfl).trans (by decide)⟩

end TwinBall.Status
