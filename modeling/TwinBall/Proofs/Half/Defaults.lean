import TwinBall.Proofs.Half.KeyEffects
import TwinBall.Proofs.Half.Ranges
import TwinBall.Proofs.Settings.Word

/-!
# Back to the defaults

Which settings are persisted is laid down three times: where they are packed, where they are taken
in, and where they are reset.  This module compares the last with a half that was never used.
After a reset all persisted settings are those of an unused half of the build but one: the axes
that the user has locked stay locked (`reset_restores_all_but_snap`).
-/

namespace TwinBall

/-! ## The record of an unused half -/

namespace SettingsRecord

/-- Words of records that differ in the snap mode at most are equal only if the modes are. -/
theorem scrollSnap_eq_of_toWord {r : SettingsRecord} {c : UInt8}
    (h : { r with scrollSnap := c }.toWord = r.toWord) : c % 4 = r.scrollSnap % 4 := by
  have hget := congrArg scrollSnapField.get h
  rwa [scrollSnap_toWord, scrollSnap_toWord] at hget

end SettingsRecord

namespace Half

variable {config : Config} {h : Half}

theorem record_new (config : Config) (role : Role) (side : Side) :
    (new config role side).record =
      { cpi := 0
        scrollDiv := 0
        autoMouse := false
        autoMouseTimeout :=
          if config.autoMouse then (AutoMouse.new config.autoMouseTimeout).timeoutStep else 0
        scrollSnap := 0 } := by
  have henabled : (config.autoMouse && (AutoMouse.new config.autoMouseTimeout).enabled) = false :=
    Bool.and_false _
  have hcode : (if config.hasSnapLock then SnapMode.vertical.code else 0) = 0 := ite_self _
  exact congr (congrArg (SettingsRecord.mk 0 0 · _) henabled) hcode

/-- The snap mode in a record is the code of the mode, or `0` where the build does not lock axes. -/
theorem scrollSnap_record (h : Half) :
    h.record.scrollSnap = if h.config.hasSnapLock then h.snap.mode.code else 0 := rfl

theorem scrollSnap_record_lt (h : Half) : h.record.scrollSnap.toNat < 4 := by
  rw [scrollSnap_record]
  split
  · cases h.snap.mode <;> decide
  · decide

theorem scrollSnap_record_eq_zero_iff (h : Half) :
    h.record.scrollSnap = 0 ↔ (h.config.scrollSnap = .lock → h.snap.mode = .vertical) := by
  rw [scrollSnap_record, Config.hasSnapLock]
  cases h.config.scrollSnap with
  | lock => cases h.snap.mode <;> simp [SnapStrategy.isLock, SnapMode.code]
  | tension threshold resetAfter => simp [SnapStrategy.isLock]

/-! ## The record after a reset -/

/-- A reset leaves the snap mode, and nothing else that is persisted. -/
theorem InRange.record_resetSettings (hr : h.InRange config) (role : Role) (side : Side) :
    h.resetSettings.record =
      { (new config role side).record with scrollSnap := h.record.scrollSnap } := by
  have hcpi : min 0 h.config.cpiMax = 0 := if_pos UInt8.zero_le
  have hstep : h.autoMouse.reset.timeoutStep =
      (AutoMouse.new h.config.autoMouseTimeout).timeoutStep := by
    have htimeout : h.autoMouse.reset.timeout = config.autoMouseTimeout :=
      hr.autoMouse.defaultTimeout
    rw [AutoMouse.timeoutStep, htimeout, hr.build]
    rfl
  rw [record_new, resetSettings_eq, ← hr.build]
  cases hauto : h.config.autoMouse with
  | false =>
    refine Eq.mpr (SettingsRecord.mk.injEq ..) ⟨hcpi, rfl, ?_, ?_, rfl⟩
    · show (h.config.autoMouse && h.autoMouse.enabled) = false
      rw [hauto, Bool.false_and]
    · exact if_neg (by simp [hauto])
  | true =>
    refine Eq.mpr (SettingsRecord.mk.injEq ..) ⟨hcpi, rfl, ?_, ?_, rfl⟩
    · show (h.config.autoMouse && false) = false
      rw [hauto, Bool.true_and]
    · exact (if_pos hauto).trans hstep

/-- The key that resets is always consumed, and resets after the event is noted. -/
theorem key_resetSettings {σ : Type} [SettingsStore σ] (h : Half) (policy : Policy) {e : KeyEvent}
    (store : σ) (now : UInt32) (admitted : policy.admits e = true)
    (code : e.code = KeyAction.resetSettings.code) (pressed : e.pressed = true) :
    h.key policy e store now = (false, (h.noteKey e).resetSettings, store) := by
  have hhandled := h.handled_key policy e store now
  generalize h.key policy e store now = r at hhandled ⊢
  cases hhandled with
  | kept refused => exact absurd (admitted.symm.trans refused) nofun
  | foreign _ other => exact absurd code (other _)
  | hold _ hold => exact absurd (KeyAction.code_inj (code.symm.trans hold)) nofun
  | idle _ a hcode _ why =>
    obtain rfl := KeyAction.code_inj (code.symm.trans hcode)
    exact absurd ⟨by simp, by simp⟩ (why pressed)
  | acted _ a hcode _ _ _ =>
    obtain rfl := KeyAction.code_inj (code.symm.trans hcode)
    rfl

/-- **A reset restores the defaults of all settings but the snap mode.**  A half went through any
calls, and its settings are reset, by the call or by the press of the key, unless the keyboard
keeps it.

Then all that it persists is as on an unused half of the build, but for the snap mode, which
stays.  So the record and the saved word are those of an unused half exactly if the build does not
lock axes, or the vertical axis was selected anyway. -/
theorem reset_restores_all_but_snap (reached : Reachable config h) (role : Role) (side : Side) :
    let fresh := new config role side
    let g := h.resetSettings
    g.record = { fresh.record with scrollSnap := h.record.scrollSnap } ∧
    (g.record = fresh.record ↔ (config.scrollSnap = .lock → h.snap.mode = .vertical)) ∧
    (g.record.toWord = fresh.record.toWord ↔
      (config.scrollSnap = .lock → h.snap.mode = .vertical)) ∧
    ∀ {σ : Type} [SettingsStore σ] (store : σ),
      ((config.scrollSnap = .lock → h.snap.mode = .vertical) →
        g.save store = fresh.save store) ∧
      ∀ (policy : Policy) (e : KeyEvent) (now : UInt32), policy.admits e = true →
        e.code = KeyAction.resetSettings.code → e.pressed = true →
          (h.key policy e store now).2.1.record = g.record ∧
            (h.key policy e store now).2.2 = store := by
  have hr := reached.inRange
  intro fresh g
  have hrecord : g.record = { fresh.record with scrollSnap := h.record.scrollSnap } :=
    hr.record_resetSettings role side
  have hzero : fresh.record.scrollSnap = 0 := by rw [record_new]
  have hmode := h.scrollSnap_record_eq_zero_iff
  rw [hr.build] at hmode
  have hsame : g.record = fresh.record ↔ h.record.scrollSnap = 0 := by
    rw [hrecord]
    refine ⟨fun heq => ?_, fun heq => ?_⟩
    · exact (congrArg SettingsRecord.scrollSnap heq).trans hzero
    · rw [heq, ← hzero]
  have hword : g.record.toWord = fresh.record.toWord ↔ h.record.scrollSnap = 0 := by
    refine ⟨fun heq => ?_, fun heq => congrArg SettingsRecord.toWord (hsame.mpr heq)⟩
    rw [hrecord] at heq
    have hmod := congrArg UInt8.toNat (SettingsRecord.scrollSnap_eq_of_toWord heq)
    rw [hzero, UInt8.toNat_mod] at hmod
    exact UInt8.toNat_inj.mp ((Nat.mod_eq_of_lt h.scrollSnap_record_lt).symm.trans hmod)
  refine ⟨hrecord, hsame.trans hmode, hword.trans hmode, fun store => ⟨fun hvertical => ?_, ?_⟩⟩
  · rw [save, save, hsame.mpr (hmode.mpr hvertical)]
  · intro policy e now hadmits hcode hpressed
    rw [h.key_resetSettings policy store now hadmits hcode hpressed]
    have hnoted : (h.noteKey e).InRange config := { hr with }
    exact ⟨(hnoted.record_resetSettings role side).trans hrecord.symm, rfl⟩

/-- A build with locked axes and an auto mouse layer: resolution, divider and auto mouse layer were
changed, the axes were locked to horizontal scrolling and back, and the key resets all of it. -/
theorem reset_restores_all_of_changed :
    let config := { Config.default with autoMouse := true, scrollSnap := .lock }
    let changes : List (Call MemoryStore) :=
      [⟨.standard, .empty, .setCpi 30⟩, ⟨.standard, .empty, .setScrollDiv 6⟩,
        ⟨.standard, .empty, .setAutoMouse true⟩, ⟨.standard, .empty, .setAutoMouseTimeout 400⟩,
        ⟨.standard, .empty, .setSnapMode .horizontal⟩, ⟨.standard, .empty, .setSnapMode .vertical⟩]
    let h := (new config .primary .left).after changes
    let fresh := new config .primary .left
    let reset : KeyEvent := ⟨KeyAction.resetSettings.code, 0, 0, true⟩
    h.record ≠ fresh.record ∧
      (h.key .standard reset MemoryStore.empty 9).2.1.record = fresh.record ∧
      h.resetSettings.record.toWord = fresh.record.toWord ∧
      h.resetSettings.save MemoryStore.empty = fresh.save MemoryStore.empty := by
  intro config changes h fresh reset
  have reached : Reachable config h := (Reachable.new .primary .left).after changes
  have hvertical : config.scrollSnap = .lock → h.snap.mode = .vertical := fun _ => rfl
  obtain ⟨-, hrecord, hword, hstore⟩ := reset_restores_all_but_snap reached .primary .left
  obtain ⟨hsave, hkey⟩ := hstore MemoryStore.empty
  obtain ⟨hpressed, -⟩ := hkey .standard reset 9 rfl rfl rfl
  exact ⟨by decide, hpressed.trans (hrecord.mpr hvertical), hword.mpr hvertical, hsave hvertical⟩

/-- On the board's image, where the axes are locked, horizontal scrolling survives a reset, and
the word that is saved afterwards is not the word of an unused half. -/
theorem snap_mode_survives_reset :
    let h := (new .board .primary .left).after
      [(⟨.standard, .empty, .setSnapMode .horizontal⟩ : Call MemoryStore)]
    let fresh := new .board .primary .left
    h.resetSettings.record ≠ fresh.record ∧ h.resetSettings.record.toWord = 65536 ∧
      fresh.record.toWord = 0 := by
  decide

end Half

end TwinBall
