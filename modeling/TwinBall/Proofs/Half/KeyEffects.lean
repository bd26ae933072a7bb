import TwinBall.Half.Keys

/-!
# What a key event changes

A key event is noted, and then one of five things happens to it: the keyboard keeps it, it is no
key of this library, it is the key that scrolls while held, its key does nothing here, or its key
acts.  `Handled` lists them, and `handled_key` says that nothing else happens.

A key that acts names some settings.  `Half.adopt` takes one setting over from another half, so
"only these settings change" is an equation between whole halves: the half afterwards is the half
before, with these settings taken over (`adoptAll_act`).
-/

namespace TwinBall

/-! ## The codes of keys -/

namespace KeyAction

theorem index_get_all : ∀ n : Fin all.length, (all.get n).index = n.val := by decide

/-- A code that is wrapped in modifiers is no action. -/
theorem ofCode?_of_wrapped {code : UInt16} (hlow : 0x0100 ≤ code) (hhigh : code ≤ 0x1FFF) :
    ofCode? code = none := by
  have hstrip : stripModifiers code = code &&& 0xFF := if_pos ⟨hlow, hhigh⟩
  have hlt : code &&& 0xFF < firstOwnKey := by
    rw [UInt16.lt_iff_toNat_lt, UInt16.toNat_and]
    exact Nat.lt_of_le_of_lt Nat.and_le_right (by decide)
  rw [ofCode?, hstrip]
  exact if_pos hlt

/-- The action of a code is the one with this code. -/
theorem ofCode?_eq_some_iff {code : UInt16} {a : KeyAction} :
    ofCode? code = some a ↔ code = a.code := by
  refine ⟨fun h => ?_, fun h => h ▸ ofCode?_code a⟩
  by_cases hwrapped : 0x0100 ≤ code ∧ code ≤ 0x1FFF
  · rw [ofCode?_of_wrapped hwrapped.1 hwrapped.2] at h
    cases h
  · have hstrip : stripModifiers code = code := if_neg hwrapped
    rw [ofCode?, hstrip] at h
    by_cases hfirst : code < firstOwnKey
    · rw [if_pos hfirst] at h
      cases h
    · rw [if_neg hfirst] at h
      obtain ⟨hlt, rfl⟩ := List.getElem?_eq_some_iff.mp h
      have hindex := index_get_all ⟨(code - firstOwnKey).toNat, hlt⟩
      rw [List.get_eq_getElem] at hindex
      rw [KeyAction.code, hindex, UInt16.ofNat_toNat, UInt16.add_comm]
      exact (UInt16.sub_add_cancel _ _).symm

theorem code_inj {a b : KeyAction} (h : a.code = b.code) : a = b :=
  Option.some.inj (ofCode?_code a ▸ ofCode?_eq_some_iff.mpr h)

/-- No action has a code that is wrapped in modifiers. -/
theorem code_ne_of_wrapped {code : UInt16} (hlow : 0x0100 ≤ code) (hhigh : code ≤ 0x1FFF)
    (a : KeyAction) : code ≠ a.code := by
  intro hcode
  have hsome := ofCode?_eq_some_iff.mpr hcode
  rw [ofCode?_of_wrapped hlow hhigh] at hsome
  cases hsome

end KeyAction

/-! ## The settings that keys name -/

/-- A setting that keys change. -/
inductive Setting
  /-- The resolution, and who has yet to be told. -/
  | cpi
  /-- Whether the main ball scrolls, and since when. -/
  | scrolling
  /-- The scroll divider. -/
  | scrollDiv
  /-- The axes that may scroll. -/
  | snapMode
  /-- Whether the auto mouse layer turns itself on. -/
  | autoMouse
  /-- The timeout of the auto mouse layer. -/
  | autoMouseTimeout

namespace KeyAction

/-- The settings that a key names. -/
def settings : KeyAction → List Setting
  | resetSettings => [.cpi, .scrollDiv, .autoMouse, .autoMouseTimeout]
  | saveSettings => []
  | cpiUp | cpiDown | cpiUpFar | cpiDownFar => [.cpi]
  | scrollToggle | scrollHold => [.scrolling]
  | scrollDivUp | scrollDivDown => [.scrollDiv]
  | autoMouseToggle => [.autoMouse]
  | autoMouseLonger | autoMouseShorter => [.autoMouseTimeout]
  | snapVertical | snapHorizontal | snapFree => [.snapMode]

/-- Whether a build has the feature of a key: its layer for the keys of the auto mouse layer, and
locked axes for the keys that select the axes. -/
def IsBuilt (config : Config) (a : KeyAction) : Prop :=
  (a ∈ [autoMouseToggle, autoMouseLonger, autoMouseShorter] → config.autoMouse = true) ∧
    (a ∈ [snapVertical, snapHorizontal, snapFree] → config.scrollSnap = .lock)

end KeyAction

/-- Whether a build consumes a key event: the press of one of the sixteen keys, but not of the one
that scrolls while held, with the feature of the key. -/
def KeyEvent.IsConsumed (config : Config) (e : KeyEvent) : Prop :=
  e.pressed = true ∧ ∃ a : KeyAction, e.code = a.code ∧ a ≠ .scrollHold ∧ a.IsBuilt config

namespace Half

/-- The half with one setting of another half. -/
def adopt (h g : Half) : Setting → Half
  | .cpi =>
    { h with
      cpiStored := g.cpiStored
      cpiUnsent := g.cpiUnsent
      cpiUnapplied := g.cpiUnapplied }
  | .scrolling => { h with scrolling := g.scrolling, scrollSwitched := g.scrollSwitched }
  | .scrollDiv => { h with scrollDivStored := g.scrollDivStored }
  | .snapMode => { h with snap := h.snap.setMode g.snap.mode }
  | .autoMouse => { h with autoMouse := h.autoMouse.setEnabled g.autoMouse.enabled }
  | .autoMouseTimeout => { h with autoMouse := { h.autoMouse with timeout := g.autoMouse.timeout } }

/-- The half with some settings of another half. -/
def adoptAll (h g : Half) (settings : List Setting) : Half :=
  settings.foldl (fun k s => k.adopt g s) h

variable (h : Half)

theorem hasFeature_iff (a : KeyAction) : h.hasFeature a = true ↔ a.IsBuilt h.config := by
  have hlock : h.config.hasSnapLock = true ↔ h.config.scrollSnap = .lock := by
    rw [Config.hasSnapLock]
    cases h.config.scrollSnap <;> simp [SnapStrategy.isLock]
  cases a <;> simp [hasFeature, KeyAction.IsBuilt, hlock]

/-- A key changes the settings that it names and nothing else. -/
theorem adoptAll_act (a : KeyAction) (now : UInt32) :
    h.adoptAll (h.act a now) a.settings = h.act a now := by
  cases a with
  | resetSettings =>
    show h.adoptAll h.resetSettings KeyAction.resetSettings.settings = h.resetSettings
    rw [resetSettings_eq]
    split
    · rfl
    · rfl
  | _ => rfl

/-! ## The five outcomes -/

variable {σ : Type} [SettingsStore σ]

/-- What can become of a key event: whether it should be processed further, the half and the
store. -/
inductive Handled (h : Half) (policy : Policy) (e : KeyEvent) (store : σ) (now : UInt32) :
    Bool × Half × σ → Prop
  /-- The keyboard keeps it. -/
  | kept (refused : policy.admits e = false) :
      Handled h policy e store now (false, h.noteKey e, store)
  /-- It is no key of this library. -/
  | foreign (admitted : policy.admits e = true) (other : ∀ a : KeyAction, e.code ≠ a.code) :
      Handled h policy e store now (true, h.noteKey e, store)
  /-- It is the key that scrolls while held. -/
  | hold (admitted : policy.admits e = true) (code : e.code = KeyAction.scrollHold.code) :
      Handled h policy e store now (true, (h.noteKey e).setScrolling e.pressed now, store)
  /-- Its key does nothing on this edge or in this build. -/
  | idle (admitted : policy.admits e = true) (a : KeyAction) (code : e.code = a.code)
      (other : a ≠ .scrollHold) (why : e.pressed = true → ¬a.IsBuilt h.config) :
      Handled h policy e store now (true, h.noteKey e, store)
  /-- Its key acts. -/
  | acted (admitted : policy.admits e = true) (a : KeyAction) (code : e.code = a.code)
      (other : a ≠ .scrollHold) (pressed : e.pressed = true) (built : a.IsBuilt h.config) :
      Handled h policy e store now
        (false, (h.noteKey e).act a now, (h.noteKey e).actStore a store)

theorem handled_key (policy : Policy) (e : KeyEvent) (store : σ) (now : UInt32) :
    Handled h policy e store now (h.key policy e store now) := by
  rcases hadmits : policy.admits e with _ | _
  · have hkey : h.key policy e store now = (false, h.noteKey e, store) := by simp [key, hadmits]
    rw [hkey]
    exact .kept hadmits
  · have hkey : h.key policy e store now = (h.noteKey e).dispatch e store now := by
      simp [key, hadmits]
    rw [hkey, dispatch]
    split
    · next hnone =>
      refine .foreign hadmits fun a hcode => ?_
      rw [KeyAction.ofCode?_eq_some_iff.mpr hcode] at hnone
      cases hnone
    · next hsome => exact .hold hadmits (KeyAction.ofCode?_eq_some_iff.mp hsome)
    · next a hother hsome =>
      have hcode := KeyAction.ofCode?_eq_some_iff.mp hsome
      have hne : a ≠ .scrollHold := fun heq => hother heq
      by_cases hact : e.pressed = true ∧ a.IsBuilt h.config
      · obtain ⟨hpressed, hbuilt⟩ := hact
        have hfeature : (h.noteKey e).hasFeature a = true :=
          ((h.noteKey e).hasFeature_iff a).mpr hbuilt
        rw [hpressed, hfeature]
        exact .acted hadmits a hcode hne hpressed hbuilt
      · have hfalse : (e.pressed && (h.noteKey e).hasFeature a) = false := by
          rw [Bool.eq_false_iff, ne_eq, Bool.and_eq_true, hasFeature_iff]
          exact hact
        rw [hfalse]
        exact .idle hadmits a hcode hne fun hpressed hbuilt => hact ⟨hpressed, hbuilt⟩

/-! ## What changes -/

/-- No setting is part of the note of a key event. -/
theorem noted_adoptAll (g : Half) (settings : List Setting) :
    (h.adoptAll g settings).lastCode = h.lastCode ∧ (h.adoptAll g settings).lastRow = h.lastRow ∧
      (h.adoptAll g settings).lastCol = h.lastCol ∧ (h.adoptAll g settings).held = h.held := by
  induction settings generalizing h with
  | nil => exact ⟨rfl, rfl, rfl, rfl⟩
  | cons s settings ih =>
    obtain ⟨hcode, hrow, hcol, hheld⟩ := ih (h.adopt g s)
    cases s <;> exact ⟨hcode, hrow, hcol, hheld⟩

theorem actStore_of_ne {a : KeyAction} (hne : a ≠ .saveSettings) (store : σ) :
    h.actStore a store = store := by
  cases a with
  | saveSettings => exact absurd rfl hne
  | _ => rfl

namespace Handled

variable {h : Half} {policy : Policy} {e : KeyEvent} {store : σ} {now : UInt32}
  {r : Bool × Half × σ} (hr : Handled h policy e store now r)

include hr

/-- Every key event is noted. -/
theorem noted : r.2.1.lastCode = e.code ∧ r.2.1.lastRow = e.row ∧ r.2.1.lastCol = e.col ∧
    r.2.1.held = h.held.update e.code e.pressed := by
  cases hr with
  | kept refused => exact ⟨rfl, rfl, rfl, rfl⟩
  | foreign admitted other => exact ⟨rfl, rfl, rfl, rfl⟩
  | hold admitted code => exact ⟨rfl, rfl, rfl, rfl⟩
  | idle admitted a code other why => exact ⟨rfl, rfl, rfl, rfl⟩
  | acted admitted a code other pressed built =>
    have hnoted := (h.noteKey e).noted_adoptAll ((h.noteKey e).act a now) a.settings
    rw [adoptAll_act] at hnoted
    exact hnoted

/-- A key event ends here if the keyboard keeps it or it is consumed. -/
theorem ends_iff : r.1 = false ↔ policy.admits e = false ∨ e.IsConsumed h.config := by
  cases hr with
  | kept refused => exact iff_of_true rfl (.inl refused)
  | foreign admitted other =>
    refine iff_of_false nofun ?_
    rintro (hrefused | ⟨-, a, hcode, -⟩)
    · exact absurd (admitted.symm.trans hrefused) nofun
    · exact other a hcode
  | hold admitted code =>
    refine iff_of_false nofun ?_
    rintro (hrefused | ⟨-, a, hcode, hother, -⟩)
    · exact absurd (admitted.symm.trans hrefused) nofun
    · exact hother (KeyAction.code_inj (hcode.symm.trans code))
  | idle admitted a code other why =>
    refine iff_of_false nofun ?_
    rintro (hrefused | ⟨hpressed, b, hcode, -, hbuilt⟩)
    · exact absurd (admitted.symm.trans hrefused) nofun
    · exact why hpressed (KeyAction.code_inj (hcode.symm.trans code) ▸ hbuilt)
  | acted admitted a code other pressed built =>
    exact iff_of_true rfl (.inr ⟨pressed, a, code, other, built⟩)

/-- The key that scrolls while held follows its edge. -/
theorem held (admitted : policy.admits e = true) (code : e.code = KeyAction.scrollHold.code) :
    r = (true, (h.noteKey e).setScrolling e.pressed now, store) := by
  cases hr with
  | kept refused => exact absurd (admitted.symm.trans refused) nofun
  | foreign _ other => exact absurd code (other _)
  | hold _ _ => rfl
  | idle _ a hcode other why => exact absurd (KeyAction.code_inj (hcode.symm.trans code)) other
  | acted _ a hcode other _ _ => exact absurd (KeyAction.code_inj (hcode.symm.trans code)) other

/-- A key event that is kept, or passed on by another key, is only noted. -/
theorem only_noted (why : policy.admits e = false ∨
    r.1 = true ∧ e.code ≠ KeyAction.scrollHold.code) : r.2 = (h.noteKey e, store) := by
  cases hr with
  | kept refused => rfl
  | foreign admitted other => rfl
  | idle admitted a code other why => rfl
  | hold admitted code =>
    rcases why with hrefused | ⟨-, hother⟩
    · exact absurd (admitted.symm.trans hrefused) nofun
    · exact absurd code hother
  | acted admitted a code other pressed built =>
    rcases why with hrefused | ⟨hpassed, -⟩
    · exact absurd (admitted.symm.trans hrefused) nofun
    · exact absurd hpassed nofun

/-- A code that is wrapped in modifiers never acts. -/
theorem of_wrapped (hlow : 0x0100 ≤ e.code) (hhigh : e.code ≤ 0x1FFF) :
    r = (policy.admits e, h.noteKey e, store) := by
  have hother := KeyAction.code_ne_of_wrapped hlow hhigh
  cases hr with
  | kept refused => rw [refused]
  | foreign admitted _ => rw [admitted]
  | hold _ code => exact absurd code (hother _)
  | idle _ a code _ _ => exact absurd code (hother a)
  | acted _ a code _ _ _ => exact absurd code (hother a)

/-- A consumed event changes the settings that its key names; only the key that saves writes. -/
theorem changed (admitted : policy.admits e = true) (ends : r.1 = false) :
    ∃ a : KeyAction, e.code = a.code ∧
      r.2.1 = (h.noteKey e).adoptAll r.2.1 a.settings ∧
      (a ≠ .saveSettings → r.2.2 = store) ∧
      (a = .saveSettings → r.2.1 = h.noteKey e ∧
        r.2.2 = match SettingsStore.putKeyboardWord store h.record.toWord with
          | .ok written => written
          | .error _ => store) := by
  cases hr with
  | kept refused => exact absurd (admitted.symm.trans refused) nofun
  | foreign _ other => exact absurd ends nofun
  | hold _ _ => exact absurd ends nofun
  | idle _ a hcode other why => exact absurd ends nofun
  | acted _ a code other pressed built =>
    refine ⟨a, code, ((h.noteKey e).adoptAll_act a now).symm, fun hne => ?_, ?_⟩
    · exact (h.noteKey e).actStore_of_ne hne store
    · rintro rfl
      exact ⟨rfl, rfl⟩

end Handled

/-- **A key event changes what its key names.**  A half takes in any key event, from any state and
with any decision of the keyboard.

The event is noted in every case.  It is processed no further exactly if the keyboard keeps it or
it is consumed.  The key that scrolls while held follows its edge and is always passed on.
Otherwise, kept or passed on, the event changes nothing beyond the note, on the half or in the
store; the codes that are wrapped in modifiers are among these.  A consumed event changes the
settings that its key names and nothing else.  Only the key that saves writes to the store, it
changes nothing else, and a refused write leaves the store as it was. -/
theorem key_changes_what_it_names (policy : Policy) (e : KeyEvent) (store : σ) (now : UInt32) :
    let noted : Half :=
      { h with
        lastCode := e.code
        lastRow := e.row
        lastCol := e.col
        held := h.held.update e.code e.pressed }
    let r := h.key policy e store now
    (r.2.1.lastCode = e.code ∧ r.2.1.lastRow = e.row ∧ r.2.1.lastCol = e.col ∧
      r.2.1.held = h.held.update e.code e.pressed) ∧
    (r.1 = false ↔ policy.admits e = false ∨ e.IsConsumed h.config) ∧
    (policy.admits e = true → e.code = KeyAction.scrollHold.code →
      r = (true,
        { noted with
          scrolling := e.pressed
          scrollSwitched := if e.pressed = h.scrolling then h.scrollSwitched else now },
        store)) ∧
    (policy.admits e = false ∨ r.1 = true ∧ e.code ≠ KeyAction.scrollHold.code →
      r.2 = (noted, store)) ∧
    (0x0100 ≤ e.code → e.code ≤ 0x1FFF → r = (policy.admits e, noted, store)) ∧
    (policy.admits e = true → r.1 = false →
      ∃ a : KeyAction, e.code = a.code ∧
        r.2.1 = noted.adoptAll r.2.1 a.settings ∧
        (a ≠ .saveSettings → r.2.2 = store) ∧
        (a = .saveSettings → r.2.1 = noted ∧
          r.2.2 = match SettingsStore.putKeyboardWord store h.record.toWord with
            | .ok written => written
            | .error _ => store)) := by
  have hhandled := h.handled_key policy e store now
  exact ⟨hhandled.noted, hhandled.ends_iff, hhandled.held, hhandled.only_noted,
    hhandled.of_wrapped, hhandled.changed⟩

/-- On the board's image, whose axes are locked and which has no auto mouse layer: the key that
saves is consumed although the store refuses the write, and half and store are as after the note;
the key that locks the horizontal axis changes the snap mode only; the key of the auto mouse
layer, and a letter with a modifier, are passed on and change nothing. -/
theorem key_changes_what_it_names_on_board :
    let h : Half := { new .board .primary .left with cpiStored := 20, scrolling := true }
    let store := { MemoryStore.empty with refusal := some .io }
    let save : KeyEvent := ⟨0x7E01, 2, 3, true⟩
    let horizontal : KeyEvent := ⟨0x7E0E, 2, 4, true⟩
    let toggle : KeyEvent := ⟨0x7E0A, 2, 5, true⟩
    let letter : KeyEvent := ⟨0x0204, 1, 1, true⟩
    h.key .standard save store 7 = (false, h.noteKey save, store) ∧
      (∃ mode, (h.key .standard horizontal store 7).2 =
        ({ h.noteKey horizontal with snap := h.snap.setMode mode }, store)) ∧
      h.key .standard toggle store 7 = (true, h.noteKey toggle, store) ∧
      h.key .standard letter store 7 = (true, h.noteKey letter, store) := by
  intro h store save horizontal toggle letter
  obtain ⟨-, hends, -, -, -, hsave⟩ := h.key_changes_what_it_names .standard save store 7
  have hsaved := hends.mpr (.inr ⟨rfl, .saveSettings, rfl, nofun, by decide, by decide⟩)
  obtain ⟨a, ha, -, -, hwritten⟩ := hsave rfl hsaved
  obtain ⟨hhalf, hstore⟩ := hwritten (KeyAction.code_inj ha.symm)
  obtain ⟨-, hends, -, -, -, hsnap⟩ := h.key_changes_what_it_names .standard horizontal store 7
  have hlocked := hends.mpr (.inr ⟨rfl, .snapHorizontal, rfl, nofun, by decide, fun _ => rfl⟩)
  obtain ⟨b, hb, hchanged, hkept, -⟩ := hsnap rfl hlocked
  obtain rfl : KeyAction.snapHorizontal = b := KeyAction.code_inj hb
  obtain ⟨-, hends, -, hpassed, -, -⟩ := h.key_changes_what_it_names .standard toggle store 7
  have htoggle : (h.key .standard toggle store 7).1 = true := by
    refine eq_true_of_ne_false fun hconsumed => ?_
    rcases hends.mp hconsumed with hrefused | ⟨-, c, hc, -, hbuilt, -⟩
    · cases hrefused
    · obtain rfl : KeyAction.autoMouseToggle = c := KeyAction.code_inj hc
      exact absurd (hbuilt (by decide)) nofun
  obtain ⟨-, -, -, -, hletter, -⟩ := h.key_changes_what_it_names .standard letter store 7
  exact ⟨Prod.ext hsaved (Prod.ext hhalf hstore), ⟨_, Prod.ext hchanged (hkept nofun)⟩,
    Prod.ext htoggle (hpassed (.inr ⟨htoggle, by decide⟩)), hletter (by decide) (by decide)⟩

end Half

end TwinBall
