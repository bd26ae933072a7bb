import TwinBall.Proofs.Relay.System

/-!
# What the other half gains

The motion of a half's own ball as a sum: an operation of the half that is not on USB adds the
movement that it gains to it and does nothing else (`gains_perform`).
-/

namespace TwinBall

namespace Half

variable {σ : Type} [SettingsStore σ] {h g : Half}

/-- From `h` to `g` the role stays, and a movement may be added to the motion of the own ball. -/
structure Gains (h g : Half) (gained : Option Motion) : Prop where
  role : g.role = h.role
  motion : g.ownMotion = gained.elim h.ownMotion h.ownMotion.add

omit [SettingsStore σ] in
theorem gains_loadWord (h : Half) (word : Option UInt32) : Gains h (h.loadWord word) none := by
  cases word with
  | none => exact ⟨rfl, rfl⟩
  | some word =>
    rw [loadWord, applyRecord_eq]
    exact ⟨rfl, rfl⟩

omit [SettingsStore σ] in
theorem gains_setCpi (h : Half) (v : UInt8) : Gains h (h.setCpi v) none := ⟨rfl, rfl⟩

omit [SettingsStore σ] in
theorem gains_setScrollDiv (h : Half) (v : UInt8) : Gains h (h.setScrollDiv v) none := ⟨rfl, rfl⟩

omit [SettingsStore σ] in
theorem gains_act (h : Half) (a : KeyAction) (now : UInt32) : Gains h (h.act a now) none := by
  cases a with
  | resetSettings =>
    rw [act, resetSettings_eq]
    exact ⟨rfl, rfl⟩
  | cpiUp | cpiDown | cpiUpFar | cpiDownFar => exact gains_setCpi h _
  | scrollDivUp | scrollDivDown => exact gains_setScrollDiv h _
  | _ => exact ⟨rfl, rfl⟩

theorem gains_key (h : Half) (policy : Policy) (e : KeyEvent) (store : σ) (now : UInt32) :
    Gains h (h.key policy e store now).2.1 none := by
  rcases h.key_frame policy e store now with heq | ⟨on, heq⟩ | ⟨a, -, heq⟩
  · rw [heq]
    exact ⟨rfl, rfl⟩
  · rw [heq]
    exact ⟨rfl, rfl⟩
  · rw [heq]
    exact ⟨(gains_act _ a now).role, (gains_act _ a now).motion⟩

omit [SettingsStore σ] in
theorem gains_poll (h : Half) (cpi : Except SensorError Unit)
    (motion : Except SensorError (Option Motion)) :
    Gains h (h.poll (ScriptedSensor.mk cpi motion [])).2.1 (h.gain? (.poll cpi motion)) := by
  have hpolled := h.poll_cases ⟨cpi, motion, []⟩
  generalize h.poll (ScriptedSensor.mk cpi motion []) = o at hpolled ⊢
  cases hpolled with
  | idle ball =>
    have hnone : h.gain? (.poll cpi motion) = none := by
      rcases motion with e | _ | m
      all_goals simp [gain?, ball]
    rw [hnone]
    exact ⟨rfl, rfl⟩
  | refused e ball due refusal =>
    obtain rfl : cpi = .error e := refusal
    have hnone : h.gain? (.poll (.error e) motion) = none := by
      rcases motion with e' | _ | m
      all_goals simp [gain?, ball, due, Except.isOk, Except.toBool]
    rw [hnone]
    exact ⟨rfl, rfl⟩
  | read ball accepted own gained =>
    refine ⟨rfl, gained.trans ?_⟩
    have hset : (!h.cpiUnapplied || cpi.isOk) = true := by
      cases hdue : h.cpiUnapplied with
      | false => rfl
      | true =>
        obtain rfl : cpi = .ok () := accepted hdue
        rfl
    rcases motion with e | _ | m
    · rfl
    · rfl
    · simp [gain?, ball, hset]

/-- **An operation of the half that is not on USB adds to its own motion what it gains**, and
nothing else happens to that motion, unless a request is answered. -/
theorem gains_perform (hrole : h.role = .secondary) (c : Call σ)
    (hanswer : c.op.isAnswer = false) :
    Gains h (h.perform c).session.half (h.gain? c.op) := by
  have hne : h.role ≠ .primary := by simp [hrole]
  obtain ⟨policy, store, op⟩ := c
  cases op with
  | answer id request room => cases hanswer
  | boot ball =>
    have hload := gains_loadWord { h with ownBall := ball, cpiUnapplied := ball }
      (SettingsStore.keyboardWord? store)
    exact ⟨hload.role, hload.motion⟩
  | load => exact gains_loadWord h (SettingsStore.keyboardWord? store)
  | key e now => exact gains_key h policy e store now
  | poll cpi motion => exact gains_poll h cpi motion
  | accumulate ball m =>
    cases ball with
    | own => exact ⟨rfl, rfl⟩
    | peer => exact ⟨rfl, rfl⟩
  | report r now =>
    have hidle : h.makeReport policy r now = ⟨false, r, [], h⟩ := if_neg (fun hdue => hne hdue.1)
    simp only [perform, Session.step, hidle]
    exact ⟨rfl, rfl⟩
  | housekeeping link now =>
    have hidle : h.housekeeping link store now = ⟨h, link, store, [], []⟩ := if_neg hne
    simp only [perform, Session.step, hidle]
    exact ⟨rfl, rfl⟩
  | resetSettings =>
    simp only [perform, Session.step, resetSettings_eq]
    exact ⟨rfl, rfl⟩
  | applyRecord r =>
    simp only [perform, Session.step, applyRecord_eq]
    exact ⟨rfl, rfl⟩
  | save =>
    cases hsave : h.save store with
    | ok t =>
      simp only [perform, Session.step, hsave]
      exact ⟨rfl, rfl⟩
    | error e =>
      simp only [perform, Session.step, hsave]
      exact ⟨rfl, rfl⟩
  | _ => exact ⟨rfl, rfl⟩

end Half

end TwinBall
