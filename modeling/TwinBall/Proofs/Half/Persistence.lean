import TwinBall.Proofs.Half.Ranges
import TwinBall.Proofs.Settings.Word

/-!
# Settings survive a power cycle

What a half persists as one word, another half of the same build takes in without loss, whatever
either of them went through before.  Only the timeout of the auto mouse layer is rounded, to the
steps in which it is stored, and a second round changes nothing any more.

The limits of the setters make it work: no value is wider than its field, and no timeout that can
be set has step `0`, which would stand for the timeout of the build.
-/

namespace TwinBall

/-! ## Rounding of timeouts -/

namespace AutoMouse

theorem clampTimeout_of_mem {ms : UInt16} (hmin : minTimeout ≤ ms) (hmax : ms ≤ maxTimeout) :
    clampTimeout ms = ms := by
  have hcap : min maxTimeout ms = ms :=
    UInt16.le_antisymm Std.min_le_right (Std.le_min_iff.mpr ⟨hmax, UInt16.le_refl ms⟩)
  rw [clampTimeout, hcap]
  exact if_pos hmin

variable {a b : AutoMouse}

/-- Step `0` is the step of no timeout that can be set. -/
theorem toNat_timeoutStep (hmin : minTimeout ≤ a.timeout) (hmax : a.timeout ≤ maxTimeout) :
    a.timeoutStep.toNat + 1 = a.timeout.toNat / 50 ∧ 0 < a.timeoutStep.toNat ∧
      a.timeoutStep.toNat < 20 := by
  have hlow : 100 ≤ a.timeout.toNat := UInt16.le_iff_toNat_le.mp hmin
  have hhigh : a.timeout.toNat ≤ 1000 := UInt16.le_iff_toNat_le.mp hmax
  have hdiv : (a.timeout / quantum).toNat = a.timeout.toNat / 50 := UInt16.toNat_div _ _
  have hle : (1 : UInt16) ≤ a.timeout / quantum := by
    rw [UInt16.le_iff_toNat_le, hdiv]
    show 1 ≤ a.timeout.toNat / 50
    omega
  have hne : a.timeout / quantum ≠ 0 := by
    intro hzero
    rw [hzero] at hle
    exact absurd hle (by decide)
  have hstep : a.timeoutStep.toNat = a.timeout.toNat / 50 - 1 := by
    unfold timeoutStep
    dsimp only
    rw [if_neg hne, UInt16.toNat_toUInt8, UInt16.toNat_sub_of_le _ _ hle, hdiv]
    exact Nat.mod_eq_of_lt (show a.timeout.toNat / 50 - 1 < 2 ^ 8 by omega)
  omega

theorem enabled_setTimeoutStep (a : AutoMouse) (q : UInt8) :
    (a.setTimeoutStep q).enabled = a.enabled := by
  unfold setTimeoutStep
  split
  · rfl
  · rfl

theorem toNat_round (hmax : a.timeout ≤ maxTimeout) :
    (a.timeout / quantum * quantum).toNat = a.timeout.toNat / 50 * 50 := by
  have hhigh : a.timeout.toNat ≤ 1000 := UInt16.le_iff_toNat_le.mp hmax
  rw [UInt16.toNat_mul, UInt16.toNat_div]
  exact Nat.mod_eq_of_lt (show a.timeout.toNat / 50 * 50 < 2 ^ 16 by omega)

theorem round_mem (hmin : minTimeout ≤ a.timeout) (hmax : a.timeout ≤ maxTimeout) :
    minTimeout ≤ a.timeout / quantum * quantum ∧
      a.timeout / quantum * quantum ≤ maxTimeout := by
  have hlow : 100 ≤ a.timeout.toNat := UInt16.le_iff_toNat_le.mp hmin
  have hhigh : a.timeout.toNat ≤ 1000 := UInt16.le_iff_toNat_le.mp hmax
  rw [UInt16.le_iff_toNat_le, UInt16.le_iff_toNat_le, toNat_round hmax]
  show 100 ≤ a.timeout.toNat / 50 * 50 ∧ a.timeout.toNat / 50 * 50 ≤ 1000
  omega

/-- A timeout comes back from its step rounded down. -/
theorem timeout_setTimeoutStep (hmin : minTimeout ≤ a.timeout) (hmax : a.timeout ≤ maxTimeout) :
    (b.setTimeoutStep a.timeoutStep).timeout = a.timeout / quantum * quantum := by
  obtain ⟨hstep, hpos, hlt⟩ := toNat_timeoutStep hmin hmax
  have hne : a.timeoutStep ≠ 0 := by
    intro hzero
    rw [hzero] at hpos
    exact absurd hpos (by decide)
  -- The step is one less than the number of quanta, and loading adds that one again.
  have hquanta : a.timeoutStep.toUInt16 + 1 = a.timeout / quantum := by
    rw [← UInt16.toNat_inj, UInt16.toNat_add, UInt8.toNat_toUInt16, UInt16.toNat_div]
    exact (Nat.mod_eq_of_lt (show a.timeoutStep.toNat + 1 < 2 ^ 16 by omega)).trans hstep
  obtain ⟨hround_min, hround_max⟩ := round_mem hmin hmax
  rw [setTimeoutStep, if_neg hne, hquanta]
  exact clampTimeout_of_mem hround_min hround_max

/-- Rounding does not change the step. -/
theorem timeoutStep_of_round (hmin : minTimeout ≤ a.timeout) (hmax : a.timeout ≤ maxTimeout)
    (hround : b.timeout = a.timeout / quantum * quantum) : b.timeoutStep = a.timeoutStep := by
  obtain ⟨hround_min, hround_max⟩ := round_mem hmin hmax
  obtain ⟨ha, -, -⟩ := toNat_timeoutStep hmin hmax
  obtain ⟨hb, -, -⟩ := toNat_timeoutStep (hround ▸ hround_min) (hround ▸ hround_max)
  rw [hround, toNat_round hmax] at hb
  rw [← UInt8.toNat_inj]
  omega

end AutoMouse

/-! ## Persisted settings -/

namespace Half

variable {config : Config} {g h h₁ h₂ : Half}

theorem InRange.timeout_mem (hr : h.InRange config)
    (htimeout : AutoMouse.minTimeout ≤ config.autoMouseTimeout ∧
      config.autoMouseTimeout ≤ AutoMouse.maxTimeout) :
    AutoMouse.minTimeout ≤ h.autoMouse.timeout ∧ h.autoMouse.timeout ≤ AutoMouse.maxTimeout := by
  rcases hr.autoMouse.timeout with heq | hmem
  · rw [heq]
    exact htimeout
  · exact hmem

/-- No setting is wider than its field. -/
theorem InRange.fits_record (hr : h.InRange config) (hcpi : config.cpiMax ≤ 127)
    (htimeout : AutoMouse.minTimeout ≤ config.autoMouseTimeout ∧
      config.autoMouseTimeout ≤ AutoMouse.maxTimeout) : h.record.Fits where
  cpi := by
    have hle := UInt8.le_iff_toNat_le.mp (UInt8.le_trans hr.cpi hcpi)
    exact UInt8.lt_iff_toNat_lt.mpr (Nat.lt_succ_of_le hle)
  scrollDiv := by
    have hle := UInt8.le_iff_toNat_le.mp hr.scrollDiv
    exact UInt8.lt_iff_toNat_lt.mpr (Nat.lt_succ_of_le hle)
  autoMouseTimeout := by
    obtain ⟨hmin, hmax⟩ := hr.timeout_mem htimeout
    obtain ⟨-, -, hlt⟩ := AutoMouse.toNat_timeoutStep hmin hmax
    unfold record
    dsimp only
    split
    · exact UInt8.lt_iff_toNat_lt.mpr (Nat.lt_trans hlt (by decide))
    · decide
  scrollSnap := by
    unfold record
    dsimp only
    split
    · cases h.snap.mode <;> decide
    · decide

/-- The half `g` has the settings that `h` persists, as far as the build has them. -/
structure Restores (g h : Half) : Prop where
  build : g.config = h.config
  cpi : g.cpiStored = h.cpiStored
  scrollDiv : g.scrollDivStored = h.scrollDivStored
  enabled : h.config.autoMouse = true → g.autoMouse.enabled = h.autoMouse.enabled
  timeout : h.config.autoMouse = true →
    g.autoMouse.timeout = h.autoMouse.timeout / AutoMouse.quantum * AutoMouse.quantum
  mode : h.config.hasSnapLock = true → g.snap.mode = h.snap.mode

section Restoring

variable (htimeout : AutoMouse.minTimeout ≤ config.autoMouseTimeout ∧
  config.autoMouseTimeout ≤ AutoMouse.maxTimeout)

include htimeout

theorem restores_applyRecord (hr₁ : h₁.InRange config) (hr₂ : h₂.InRange config) :
    Restores (h₂.applyRecord h₁.record) h₁ := by
  have hbuild : h₂.config = h₁.config := hr₂.build.trans hr₁.build.symm
  have hcap : h₁.cpiStored ≤ h₂.config.cpiMax := hr₂.build ▸ hr₁.cpi
  rw [applyRecord_eq, hbuild]
  refine ⟨hbuild, if_pos hcap, if_pos hr₁.scrollDiv, fun hauto => ?_, fun hauto => ?_,
    fun hlock => ?_⟩
  · dsimp only
    rw [if_pos hauto, AutoMouse.enabled_setTimeoutStep]
    show (h₁.config.autoMouse && h₁.autoMouse.enabled) = h₁.autoMouse.enabled
    rw [hauto, Bool.true_and]
  · obtain ⟨hmin, hmax⟩ := hr₁.timeout_mem htimeout
    have hstep : h₁.record.autoMouseTimeout = h₁.autoMouse.timeoutStep := if_pos hauto
    dsimp only
    rw [if_pos hauto, hstep]
    exact AutoMouse.timeout_setTimeoutStep hmin hmax
  · have hcode : h₁.record.scrollSnap = h₁.snap.mode.code := if_pos hlock
    dsimp only
    rw [if_pos hlock, hcode]
    exact SnapMode.ofCode_code _

theorem Restores.record_eq (hg : Restores g h) (hr : h.InRange config) :
    g.record = h.record := by
  have henabled : (h.config.autoMouse && g.autoMouse.enabled) =
      (h.config.autoMouse && h.autoMouse.enabled) := by
    cases hauto : h.config.autoMouse with
    | false => rfl
    | true => exact hg.enabled hauto
  have hstep : (if h.config.autoMouse then g.autoMouse.timeoutStep else 0) =
      if h.config.autoMouse then h.autoMouse.timeoutStep else 0 := by
    split
    · next hauto =>
      obtain ⟨hmin, hmax⟩ := hr.timeout_mem htimeout
      exact AutoMouse.timeoutStep_of_round hmin hmax (hg.timeout hauto)
    · rfl
  have hcode : (if h.config.hasSnapLock then g.snap.mode.code else 0) =
      if h.config.hasSnapLock then h.snap.mode.code else 0 := by
    split
    · next hlock => rw [hg.mode hlock]
    · rfl
  rw [record, record, hg.build, hg.cpi, hg.scrollDiv, henabled, hstep, hcode]

/-- What a half saved is taken in whole: the word loses nothing. -/
theorem restores_loadWord (hcpi : config.cpiMax ≤ 127) (hr₁ : h₁.InRange config)
    (hr₂ : h₂.InRange config) : Restores (h₂.loadWord (some h₁.record.toWord)) h₁ := by
  have hfits := hr₁.fits_record hcpi htimeout
  rw [loadWord, SettingsRecord.ofWord_toWord, SettingsRecord.truncate_of_fits hfits]
  exact restores_applyRecord htimeout hr₁ hr₂

end Restoring

/-- **Saving and loading loses nothing.**  Of any two halves of a build, whatever calls they went
through, let the second load the word that the first saves.  Then it persists the same settings,
uses the same resolution and scroll divider, and has the same auto mouse layer and snap mode where
the build has them, the timeout rounded down to quanta; and it saves the same word.  So a word that
was saved after loading any word is loaded and saved unchanged from then on. -/
theorem load_saved (hcpi : config.cpiMax ≤ 127)
    (htimeout : AutoMouse.minTimeout ≤ config.autoMouseTimeout ∧
      config.autoMouseTimeout ≤ AutoMouse.maxTimeout)
    (reached₁ : Reachable config h₁) (reached₂ : Reachable config h₂) :
    (∀ {σ τ : Type} [SettingsStore σ] [SettingsStore τ] (store : σ) (other : τ),
      let word := h₁.record.toWord
      let g := (h₂.load other).2
      h₁.save store = SettingsStore.putKeyboardWord store word ∧
        (SettingsStore.keyboardWord? other = some word →
          (h₂.load other).1 = true ∧ g.record = h₁.record ∧ g.cpi = h₁.cpi ∧
            g.scrollDiv = h₁.scrollDiv ∧
            (config.autoMouse = true → g.autoMouse.enabled = h₁.autoMouse.enabled ∧
              g.autoMouse.timeout.toNat = h₁.autoMouse.timeout.toNat / 50 * 50) ∧
            (config.hasSnapLock = true → g.snap.mode = h₁.snap.mode) ∧
            g.save store = SettingsStore.putKeyboardWord store word)) ∧
      ∀ word : UInt32,
        let saved := (h₁.loadWord (some word)).record.toWord
        (h₂.loadWord (some saved)).record.toWord = saved := by
  have hr₁ := reached₁.inRange
  have hr₂ := reached₂.inRange
  refine ⟨fun store other => ?_, fun word => ?_⟩
  · intro word g
    refine ⟨rfl, fun hword => ?_⟩
    have hg : g = h₂.loadWord (some word) := congrArg h₂.loadWord hword
    have hfound : (h₂.load other).1 = true := congrArg Option.isSome hword
    have hrestores : Restores g h₁ := hg ▸ restores_loadWord htimeout hcpi hr₁ hr₂
    have hrecord : g.record = h₁.record := hrestores.record_eq htimeout hr₁
    refine ⟨hfound, hrecord, ?_, ?_, fun hauto => ?_, fun hlock => ?_, ?_⟩
    · rw [cpi, cpi, hrestores.cpi, hrestores.build]
    · rw [scrollDiv, scrollDiv, hrestores.scrollDiv, hrestores.build]
    · have hauto₁ : h₁.config.autoMouse = true := hr₁.build ▸ hauto
      refine ⟨hrestores.enabled hauto₁, ?_⟩
      rw [hrestores.timeout hauto₁]
      exact AutoMouse.toNat_round (hr₁.timeout_mem htimeout).2
    · exact hrestores.mode (hr₁.build ▸ hlock)
    · rw [save, hrecord]
  · -- After loading any word the settings are within their limits, so the first part applies.
    have hloaded := hr₁.loadWord (some word)
    exact congrArg SettingsRecord.toWord
      ((restores_loadWord htimeout hcpi hloaded hr₂).record_eq htimeout hloaded)

/-- A half with an auto mouse layer that was set to 333 ms and a resolution beyond the limit: the
other half comes up with 300 ms and the resolution at the limit. -/
theorem load_saved_rounded :
    let config := { Config.default with autoMouse := true }
    let asked : List (Call MemoryStore) :=
      [⟨.standard, .empty, .setAutoMouseTimeout 333⟩, ⟨.standard, .empty, .setCpi 200⟩]
    let h₁ := (new config .primary .left).after asked
    let other := { MemoryStore.empty with keyboard := some h₁.record.toWord }
    let g := ((new config .secondary .right).load other).2
    config.cpiMax ≤ 127 ∧ AutoMouse.minTimeout ≤ config.autoMouseTimeout ∧
      config.autoMouseTimeout ≤ AutoMouse.maxTimeout ∧ g.record = h₁.record ∧ g.cpi = 120 ∧
      g.autoMouse.timeout.toNat = 300 := by
  intro config asked h₁ other g
  have hcpi : config.cpiMax ≤ 127 := by decide
  have hmin : AutoMouse.minTimeout ≤ config.autoMouseTimeout := by decide
  have hmax : config.autoMouseTimeout ≤ AutoMouse.maxTimeout := by decide
  have hloaded := (load_saved hcpi ⟨hmin, hmax⟩ ((Reachable.new .primary .left).after asked)
    (.new .secondary .right)).1 other other
  obtain ⟨-, hrecord, hsame, -, hauto, -⟩ := hloaded.2 rfl
  have hrounded : h₁.autoMouse.timeout.toNat / 50 * 50 = 300 := by decide
  exact ⟨hcpi, hmin, hmax, hrecord, hsame, (hauto rfl).2.trans hrounded⟩

end Half

end TwinBall
