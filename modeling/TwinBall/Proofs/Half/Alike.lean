import TwinBall.Proofs.Half.Draining
import TwinBall.Proofs.Half.Tuning

/-!
# Halves that differ in motion only

Two halves are `Alike` if they differ in nothing but their motion and what earlier motion left
behind, which is the memory of the snap filter and the last report.  Alike halves stay so if the
same happens to them, and they are asked the same if they also hold the same motion
(`Alike.perform`).  They even stay alike if what happens brings them different counts
(`Alike.recount`).
-/

namespace TwinBall

namespace Half

/-- The half with other motion and another snap filter and last report. -/
def recast (h : Half) (own peer : Accumulator) (snap : SnapFilter) (mouse : Report) : Half :=
  { h with ownMotion := own, peerMotion := peer, snap := snap, lastMouse := mouse }

/-- The two halves differ at most in their motion, their snap filters and their last reports.  They
hold the same motion if `same` holds. -/
structure Alike (same : Prop) (h g : Half) : Prop where
  rest : ∃ own peer snap mouse, g = h.recast own peer snap mouse
  motion : same → ∀ ball, g.motion ball = h.motion ball

theorem Alike.refl (same : Prop) (h : Half) : Alike same h h where
  rest := ⟨h.ownMotion, h.peerMotion, h.snap, h.lastMouse, rfl⟩
  motion _ _ := rfl

theorem recast_accumulate (h : Half) (ball : Ball) (m : Motion) (own peer : Accumulator)
    (snap : SnapFilter) (mouse : Report) :
    (h.accumulate ball m).recast own peer snap mouse = h.recast own peer snap mouse := by
  cases ball with
  | own => rfl
  | peer => rfl

theorem motion_accumulate (h : Half) (ball : Ball) (m : Motion) (other : Ball) :
    (h.accumulate ball m).motion other =
      if other = ball then (h.motion ball).add m else h.motion other := by
  cases ball with
  | own => cases other <;> rfl
  | peer => cases other <;> rfl

/-- The half after a poll told the sensor the resolution, if it did. -/
def told (h : Half) (cpi : Except SensorError Unit) : Half :=
  { h with cpiUnapplied := h.cpiUnapplied && !(h.ownBall && cpi.isOk) }

/-- The movement that a poll reads, if it reads any. -/
def reading? (h : Half) (cpi : Except SensorError Unit)
    (motion : Except SensorError (Option Motion)) : Option Motion :=
  if h.ownBall && (!h.cpiUnapplied || cpi.isOk) then motion.toOption.join else none

theorem told_eq_self {h : Half} {cpi : Except SensorError Unit}
    (hflag : (h.cpiUnapplied && !(h.ownBall && cpi.isOk)) = h.cpiUnapplied) : h.told cpi = h := by
  rw [told, hflag]

theorem half_poll (h : Half) (cpi : Except SensorError Unit)
    (motion : Except SensorError (Option Motion)) :
    (h.poll (ScriptedSensor.mk cpi motion [])).2.1 =
      (h.reading? cpi motion).elim (h.told cpi) ((h.told cpi).accumulate .own) := by
  have hpolled := h.poll_cases ⟨cpi, motion, []⟩
  generalize h.poll (ScriptedSensor.mk cpi motion []) = o at hpolled ⊢
  cases hpolled with
  | idle ball =>
    have hnone : h.reading? cpi motion = none := by simp [reading?, ball]
    rw [hnone, told_eq_self (by simp [ball])]
    rfl
  | refused e ball due refusal =>
    obtain rfl : cpi = .error e := refusal
    have hnone : h.reading? (.error e) motion = none := by
      simp [reading?, due, Except.isOk, Except.toBool]
    rw [hnone, told_eq_self (by simp [ball, Except.isOk, Except.toBool])]
    rfl
  | read ball accepted own gained =>
    have hset : (!h.cpiUnapplied || cpi.isOk) = true ∧
        (h.cpiUnapplied && !(h.ownBall && cpi.isOk)) = false := by
      cases hdue : h.cpiUnapplied with
      | false => exact ⟨rfl, rfl⟩
      | true =>
        obtain rfl : cpi = .ok () := accepted hdue
        simp [ball, Except.isOk, Except.toBool]
    have hread : h.reading? cpi motion = motion.toOption.join := by
      rw [reading?, ball, hset.1]
      rfl
    rw [hread, told, hset.2, gained]
    rcases motion with e | _ | m
    · rfl
    · rfl
    · rfl

namespace Alike

variable {same : Prop} {h g : Half}

/-- What leaves motion and its traces alone, but for the snap filter, keeps halves alike. -/
theorem map (ha : Alike same h g) (f : Half → Half)
    (hf : ∀ own peer snap mouse, ∃ snap',
      f (h.recast own peer snap mouse) = (f h).recast own peer snap' mouse) :
    Alike same (f h) (f g) := by
  obtain ⟨own, peer, snap, mouse, hg⟩ := ha.rest
  obtain ⟨snap', hfg⟩ := hf own peer snap mouse
  obtain ⟨_, hfh⟩ := hf h.ownMotion h.peerMotion h.snap h.lastMouse
  have hsame : f h = (f h).recast h.ownMotion h.peerMotion _ h.lastMouse := hfh
  have hmotion := ha.motion
  rw [hg] at hmotion ⊢
  refine ⟨⟨own, peer, snap', mouse, hfg⟩, fun htrue ball => ?_⟩
  rw [hfg, hsame]
  cases ball with
  | own => exact hmotion htrue .own
  | peer => exact hmotion htrue .peer

/-! ## Motion -/

/-- Each half is given a movement or none. -/
theorem accumulate? (ha : Alike same h g) (ball : Ball) {m? m?' : Option Motion}
    (hm : same → m?' = m?) :
    Alike same (m?.elim h (h.accumulate ball)) (m?'.elim g (g.accumulate ball)) := by
  obtain ⟨⟨own, peer, snap, mouse, rfl⟩, hmotion⟩ := ha
  constructor
  · obtain ⟨own', peer', hg⟩ : ∃ own' peer',
        m?'.elim (h.recast own peer snap mouse) ((h.recast own peer snap mouse).accumulate ball) =
          h.recast own' peer' snap mouse := by
      cases m?' with
      | none => exact ⟨own, peer, rfl⟩
      | some m =>
        cases ball with
        | own => exact ⟨own.add m, peer, rfl⟩
        | peer => exact ⟨own, peer.add m, rfl⟩
    refine ⟨own', peer', snap, mouse, hg.trans ?_⟩
    cases m? with
    | none => rfl
    | some m => exact (h.recast_accumulate ball m _ _ _ _).symm
  · intro hsame other
    rw [hm hsame]
    cases m? with
    | none => exact hmotion hsame other
    | some m =>
      change (accumulate _ ball m).motion other = (h.accumulate ball m).motion other
      rw [motion_accumulate, motion_accumulate, hmotion hsame, hmotion hsame]

theorem accumulate (ha : Alike same h g) (ball : Ball) {m m' : Motion} (hm : same → m' = m) :
    Alike same (h.accumulate ball m) (g.accumulate ball m') :=
  ha.accumulate? ball fun hsame => congrArg some (hm hsame)

theorem poll (ha : Alike same h g) (cpi : Except SensorError Unit)
    {motion motion' : Except SensorError (Option Motion)} (hm : same → motion' = motion) :
    Alike same (h.poll (ScriptedSensor.mk cpi motion [])).2.1
      (g.poll (ScriptedSensor.mk cpi motion' [])).2.1 := by
  have htold : Alike same (h.told cpi) (g.told cpi) :=
    ha.map (·.told cpi) fun _ _ _ _ => ⟨_, rfl⟩
  rw [half_poll, half_poll]
  refine htold.accumulate? .own fun hsame => ?_
  obtain ⟨own, peer, snap, mouse, rfl⟩ := ha.rest
  rw [hm hsame]
  rfl

/-! ## Settings and keys -/

theorem setCpi (ha : Alike same h g) (v : UInt8) : Alike same (h.setCpi v) (g.setCpi v) :=
  ha.map (·.setCpi v) fun _ _ _ _ => ⟨_, rfl⟩

theorem setScrollDiv (ha : Alike same h g) (v : UInt8) :
    Alike same (h.setScrollDiv v) (g.setScrollDiv v) :=
  ha.map (·.setScrollDiv v) fun _ _ _ _ => ⟨_, rfl⟩

theorem setScrolling (ha : Alike same h g) (on : Bool) (now : UInt32) :
    Alike same (h.setScrolling on now) (g.setScrolling on now) :=
  ha.map (·.setScrolling on now) fun _ _ _ _ => ⟨_, rfl⟩

theorem setSnapMode (ha : Alike same h g) (m : SnapMode) :
    Alike same (h.setSnapMode m) (g.setSnapMode m) :=
  ha.map (·.setSnapMode m) fun _ _ snap _ => ⟨snap.setMode m, rfl⟩

theorem changeAutoMouse (ha : Alike same h g) (change : AutoMouse → AutoMouse) :
    Alike same { h with autoMouse := change h.autoMouse }
      { g with autoMouse := change g.autoMouse } :=
  ha.map (fun k => { k with autoMouse := change k.autoMouse }) fun _ _ _ _ => ⟨_, rfl⟩

theorem resetSettings (ha : Alike same h g) : Alike same h.resetSettings g.resetSettings := by
  refine ha.map Half.resetSettings fun own peer snap mouse => ⟨snap, ?_⟩
  rw [resetSettings_eq, resetSettings_eq]
  rfl

theorem applyRecord (ha : Alike same h g) (r : SettingsRecord) :
    Alike same (h.applyRecord r) (g.applyRecord r) := by
  refine ha.map (·.applyRecord r) fun own peer snap mouse => ⟨?_, ?_⟩
  · exact if h.config.hasSnapLock then snap.setMode (.ofCode r.scrollSnap) else snap
  · rw [applyRecord_eq, applyRecord_eq]
    rfl

theorem loadWord (ha : Alike same h g) (word : Option UInt32) :
    Alike same (h.loadWord word) (g.loadWord word) := by
  cases word with
  | none => exact ha
  | some word => exact ha.applyRecord _

theorem act (ha : Alike same h g) (a : KeyAction) (now : UInt32) :
    Alike same (h.act a now) (g.act a now) := by
  obtain ⟨own, peer, snap, mouse, heq⟩ := ha.rest
  have hcpi : g.cpi = h.cpi := by
    rw [heq]
    rfl
  have hdiv : g.scrollDiv = h.scrollDiv := by
    rw [heq]
    rfl
  have hscrolling : g.scrolling = h.scrolling := by
    rw [heq]
    rfl
  cases a with
  | resetSettings => exact ha.resetSettings
  | saveSettings => exact ha
  | cpiUp | cpiDown | cpiUpFar | cpiDownFar =>
    rw [Half.act, Half.act, addCpi, addCpi, hcpi]
    exact ha.setCpi _
  | scrollToggle =>
    rw [Half.act, Half.act, hscrolling]
    exact ha.setScrolling _ now
  | scrollHold => exact ha.setScrolling true now
  | scrollDivUp | scrollDivDown =>
    rw [Half.act, Half.act, addScrollDiv, addScrollDiv, hdiv]
    exact ha.setScrollDiv _
  | autoMouseToggle => exact ha.changeAutoMouse fun a => a.setEnabled !a.enabled
  | autoMouseLonger => exact ha.changeAutoMouse (·.step true)
  | autoMouseShorter => exact ha.changeAutoMouse (·.step false)
  | snapVertical | snapHorizontal | snapFree => exact ha.setSnapMode _

theorem hasFeature (ha : Alike same h g) (a : KeyAction) : g.hasFeature a = h.hasFeature a := by
  obtain ⟨own, peer, snap, mouse, rfl⟩ := ha.rest
  simp only [Half.hasFeature, recast]

variable {σ : Type} [SettingsStore σ]

theorem dispatch (ha : Alike same h g) (e : KeyEvent) (store : σ) (now : UInt32) :
    Alike same (h.dispatch e store now).2.1 (g.dispatch e store now).2.1 := by
  cases haction : KeyAction.ofCode? e.code with
  | none =>
    rw [Half.dispatch, Half.dispatch, haction]
    exact ha
  | some a =>
    by_cases hhold : a = .scrollHold
    · subst hhold
      rw [Half.dispatch, Half.dispatch, haction]
      exact ha.setScrolling _ now
    · rw [half_dispatch h e store now haction hhold, half_dispatch g e store now haction hhold,
        ha.hasFeature]
      split
      · exact ha.act a now
      · exact ha

theorem key (ha : Alike same h g) (policy : Policy) (e : KeyEvent) (store : σ) (now : UInt32) :
    Alike same (h.key policy e store now).2.1 (g.key policy e store now).2.1 := by
  have hnoted : Alike same (h.noteKey e) (g.noteKey e) :=
    ha.map (·.noteKey e) fun _ _ _ _ => ⟨_, rfl⟩
  unfold Half.key
  split
  · exact hnoted.dispatch e store now
  · exact hnoted

/-! ## Reports -/

omit [SettingsStore σ]

theorem config (ha : Alike same h g) : g.config = h.config := by
  obtain ⟨own, peer, snap, mouse, rfl⟩ := ha.rest
  rfl

theorem isInhibited (ha : Alike same h g) (now : UInt32) :
    g.isInhibited now = h.isInhibited now := by
  obtain ⟨own, peer, snap, mouse, rfl⟩ := ha.rest
  rfl

theorem noteReport (ha : Alike same h g) (now : UInt32) :
    Alike same (h.noteReport now) (g.noteReport now) := by
  rw [Half.noteReport, Half.noteReport, ha.config]
  split
  · exact ha
  · exact ha.map (fun k => { k with config := h.config, lastReport := now })
      fun _ _ _ _ => ⟨_, rfl⟩

/-- Halves whose motion is discarded hold the same motion, whatever they held before. -/
theorem clearMotion (ha : Alike same h g) (same' : Prop) :
    Alike same' h.clearMotion g.clearMotion := by
  obtain ⟨own, peer, snap, mouse, rfl⟩ := ha.rest
  exact ⟨⟨.empty, .empty, snap, mouse, rfl⟩, fun _ _ => rfl⟩

theorem inhibit (ha : Alike same h g) (now : UInt32) :
    Alike same (h.inhibit now) (g.inhibit now) := by
  rw [Half.inhibit, Half.inhibit, ha.isInhibited]
  split
  · exact ha.clearMotion same
  · exact ha

theorem drained (ha : Alike same h g) (hsame : same) (ball : Ball) :
    g.drained ball = h.drained ball := by
  have hmotion := ha.motion hsame ball
  obtain ⟨own, peer, snap, mouse, rfl⟩ := ha.rest
  rw [Half.drained, Half.drained, hmotion]
  rfl

theorem mapping (ha : Alike same h g) (hsame : same) (ball : Ball) :
    g.mapping ball = h.mapping ball := by
  have hdrained := ha.drained hsame ball
  obtain ⟨own, peer, snap, mouse, rfl⟩ := ha.rest
  rw [Half.mapping, Half.mapping, hdrained]
  rfl

theorem drainBoth (ha : Alike same h g) (policy : Policy) (r : Report) (now : UInt32) :
    Alike same (h.drainBoth policy r now).half (g.drainBoth policy r now).half ∧
      (same → (g.drainBoth policy r now).notices = (h.drainBoth policy r now).notices) := by
  rw [drainBoth_eq, drainBoth_eq]
  constructor
  · constructor
    · obtain ⟨own, peer, snap, mouse, rfl⟩ := ha.rest
      exact ⟨_, _, _, _, rfl⟩
    · intro hsame ball
      cases ball with
      | own => exact congrArg Prod.snd (ha.drained hsame .own)
      | peer => exact congrArg Prod.snd (ha.drained hsame .peer)
  · intro hsame
    show [g.mapping .own, g.mapping .peer] = [h.mapping .own, h.mapping .peer]
    rw [ha.mapping hsame, ha.mapping hsame]

theorem makeReport (ha : Alike same h g) (policy : Policy) (r : Report) (now : UInt32) :
    (g.makeReport policy r now).emitted = (h.makeReport policy r now).emitted ∧
      Alike same (h.makeReport policy r now).half (g.makeReport policy r now).half ∧
      (same → (g.makeReport policy r now).notices = (h.makeReport policy r now).notices) := by
  have hwhen : (g.role = .primary ∧ g.isReportDue now = true) ↔
      h.role = .primary ∧ h.isReportDue now = true := by
    obtain ⟨own, peer, snap, mouse, rfl⟩ := ha.rest
    exact Iff.rfl
  by_cases hdue : h.role = .primary ∧ h.isReportDue now = true
  · obtain ⟨halike, hnotices⟩ := ((ha.noteReport now).inhibit now).drainBoth policy r now
    rw [Half.makeReport, Half.makeReport, if_pos hdue, if_pos (hwhen.mpr hdue)]
    exact ⟨by rw [drainBoth_eq, drainBoth_eq], halike, hnotices⟩
  · rw [Half.makeReport, Half.makeReport, if_neg hdue, if_neg fun hg => hdue (hwhen.mp hg)]
    exact ⟨rfl, ha, fun _ => rfl⟩

/-! ## The other half -/

theorem notePull (ha : Alike same h g) {answer answer' : Option Motion}
    (hm : same → answer' = answer) (now : UInt32) :
    Alike same (h.notePull answer now) (g.notePull answer' now) := by
  have hadded := ha.accumulate? .peer hm
  have hpull : ∀ (k : Half) (m? : Option Motion),
      k.notePull m? now = { m?.elim k (k.accumulate .peer) with lastPull := now } := by
    intro k m?
    cases m? with
    | none => rfl
    | some m => rfl
  rw [hpull, hpull]
  exact hadded.map (fun k => { k with lastPull := now }) fun _ _ _ _ => ⟨_, rfl⟩

theorem notePush (ha : Alike same h g) (outcome : Except LinkError Unit) :
    Alike same (h.notePush outcome) (g.notePush outcome) := by
  cases outcome with
  | error e => exact ha
  | ok _ => exact ha.map (fun k => { k with cpiUnsent := false }) fun _ _ _ _ => ⟨_, rfl⟩

theorem answer (ha : Alike same h g) (id : Transaction) (request : List UInt8) (room : Nat) :
    Alike same (h.answer id request room).half (g.answer id request room).half ∧
      (g.answer id request room).notices = (h.answer id request room).notices := by
  cases id with
  | info =>
    unfold Half.answer
    dsimp only
    split
    · exact ⟨ha, rfl⟩
    · exact ⟨ha, rfl⟩
  | motion =>
    unfold Half.answer
    dsimp only
    split
    · exact ⟨ha, rfl⟩
    · obtain ⟨⟨own, peer, snap, mouse, rfl⟩, hmotion⟩ := ha
      refine ⟨⟨⟨.empty, peer, snap, mouse, rfl⟩, fun hsame ball => ?_⟩, rfl⟩
      cases ball with
      | own => rfl
      | peer => exact hmotion hsame .peer
  | cpi =>
    unfold Half.answer
    dsimp only
    split
    · exact ⟨ha, rfl⟩
    · exact ⟨ha.setCpi _, rfl⟩

end Alike

end Half

/-! ## Periodic work -/

namespace Pass

variable {σ : Type} [SettingsStore σ]

/-- Two passes of periodic work with alike halves, and with links that take messages alike.  The
links also answer alike if `same` holds. -/
structure Alike (same : Prop) (p q : Pass ScriptedLink σ) : Prop where
  half : Half.Alike same p.half q.half
  sends : q.link.sends = p.link.sends
  answers : same → q.link.answers = p.link.answers
  notices : q.notices = p.notices

omit [SettingsStore σ] in
theorem Alike.handshake {same : Prop} {p q : Pass ScriptedLink σ} (ha : p.Alike same q) :
    q.half.handshake = p.half.handshake := by
  obtain ⟨own, peer, snap, mouse, heq⟩ := ha.half.rest
  rw [heq]
  rfl

theorem writeLayout_rest (p : Pass ScriptedLink σ) :
    p.writeLayout.half = p.half ∧ p.writeLayout.link = p.link := by
  unfold writeLayout
  split
  · exact ⟨rfl, rfl⟩
  · exact ⟨rfl, rfl⟩

namespace Alike

variable {same : Prop} {p q : Pass ScriptedLink σ}

theorem settle (ha : p.Alike same q) (answer : Option BallInfo) :
    (p.settle answer).Alike same (q.settle answer) := by
  cases hverdict : p.half.handshake.verdict (answer.map BallInfo.hasBall) with
  | none =>
    have hverdict' : q.half.handshake.verdict (answer.map BallInfo.hasBall) = none := by
      rw [ha.handshake, hverdict]
    rw [Half.settle_of_none hverdict, Half.settle_of_none hverdict']
    exact ha
  | some ball =>
    have hverdict' : q.half.handshake.verdict (answer.map BallInfo.hasBall) = some ball := by
      rw [ha.handshake, hverdict]
    rw [Half.settle_of_some hverdict, Half.settle_of_some hverdict']
    constructor
    · rw [(writeLayout_rest _).1, (writeLayout_rest _).1]
      exact ha.half.map
        (fun k => { k with
          handshake := { k.handshake with phase := .negotiated }
          peerBall := ball })
        fun _ _ _ _ => ⟨_, rfl⟩
    · rw [(writeLayout_rest _).2, (writeLayout_rest _).2]
      exact ha.sends
    · rw [(writeLayout_rest _).2, (writeLayout_rest _).2]
      exact ha.answers
    · exact congrArg (· ++ [.layout .primary]) ha.notices

theorem negotiate (ha : p.Alike same q) (now : UInt32)
    (hasked : p.half.handshake.isDue now = true → q.link.answers.head? = p.link.answers.head?) :
    (p.negotiate now).Alike same (q.negotiate now) := by
  rw [Pass.negotiate, Pass.negotiate, ha.handshake]
  split
  · next hdue =>
    have houtcome : q.link.answers.headD (.error .timeout) =
        p.link.answers.headD (.error .timeout) := by
      rw [List.headD_eq_head?_getD, List.headD_eq_head?_getD, hasked hdue]
    dsimp only [PeerLink.exec]
    rw [houtcome]
    apply settle
    refine ⟨?_, ha.sends, fun hsame => congrArg List.tail (ha.answers hsame), ha.notices⟩
    exact ha.half.map (fun k => { k with handshake := p.half.handshake.start now })
      fun _ _ _ _ => ⟨_, rfl⟩
  · exact ha

omit [SettingsStore σ] in
theorem pullMotion (ha : p.Alike same q) (now : UInt32) :
    (p.pullMotion now).Alike same (q.pullMotion now) := by
  have hdue : q.half.isPullDue now = p.half.isPullDue now := by
    obtain ⟨own, peer, snap, mouse, heq⟩ := ha.half.rest
    rw [heq]
    rfl
  rw [Pass.pullMotion, Pass.pullMotion, hdue]
  split
  · refine ⟨?_, ha.sends, fun hsame => congrArg List.tail (ha.answers hsame), ha.notices⟩
    exact ha.half.notePull (fun hsame => by rw [ha.answers hsame]) now
  · exact ha

omit [SettingsStore σ] in
theorem pushCpi (ha : p.Alike same q) : p.pushCpi.Alike same q.pushCpi := by
  have hdue : q.half.isPushDue = p.half.isPushDue := by
    obtain ⟨own, peer, snap, mouse, heq⟩ := ha.half.rest
    rw [heq]
    rfl
  rw [Pass.pushCpi, Pass.pushCpi, hdue]
  split
  · dsimp only [PeerLink.send]
    rw [ha.sends]
    exact ⟨ha.half.notePush _, rfl, ha.answers, ha.notices⟩
  · exact ha

end Alike

end Pass

namespace Half

/-- Two operations that differ at most in the counts of motion that they bring to a half: those that
are added, read from the sensor, or pulled from the other half. -/
inductive Recounts (h : Half) : Op → Op → Prop
  | same (op : Op) : Recounts h op op
  | accumulate (ball : Ball) (m m' : Motion) : Recounts h (.accumulate ball m) (.accumulate ball m')
  | poll (cpi : Except SensorError Unit) (motion motion' : Except SensorError (Option Motion)) :
    Recounts h (.poll cpi motion) (.poll cpi motion')
  /-- The links may answer differently, but not to the question of the handshake. -/
  | housekeeping (link link' : ScriptedLink) (now : UInt32) (sends : link'.sends = link.sends)
    (asked : h.handshake.isDue now = true → link'.answers.head? = link.answers.head?) :
    Recounts h (.housekeeping link now) (.housekeeping link' now)

namespace Alike

variable {same : Prop} {h g : Half} {σ : Type} [SettingsStore σ]

theorem housekeeping (ha : Alike same h g) {link link' : ScriptedLink} {now : UInt32}
    (hsends : link'.sends = link.sends) (hanswers : same → link'.answers = link.answers)
    (hasked : h.handshake.isDue now = true → link'.answers.head? = link.answers.head?) (store : σ) :
    Alike same (h.housekeeping link store now).half (g.housekeeping link' store now).half ∧
      (g.housekeeping link' store now).notices = (h.housekeeping link store now).notices := by
  have hrole : g.role = h.role := by
    obtain ⟨own, peer, snap, mouse, rfl⟩ := ha.rest
    rfl
  have hpass : (Pass.mk h link store [] []).Alike same (Pass.mk g link' store [] []) :=
    ⟨ha, hsends, hanswers, rfl⟩
  have hdone := ((hpass.negotiate now hasked).pullMotion now).pushCpi
  rw [Half.housekeeping, Half.housekeeping, hrole]
  split
  · exact ⟨hdone.half, hdone.notices⟩
  · exact ⟨ha, rfl⟩

/-! ## Calls -/

/-- **Alike halves stay alike if the same happens to them**, and are asked the same if they hold the
same motion. -/
theorem perform (ha : Alike same h g) (c : Call σ) :
    Alike same (h.perform c).session.half (g.perform c).session.half ∧
      (same → (g.perform c).notices = (h.perform c).notices) := by
  obtain ⟨policy, store, op⟩ := c
  cases op with
  | boot ball =>
    have hnew : Alike same { h with ownBall := ball, cpiUnapplied := ball }
        { g with ownBall := ball, cpiUnapplied := ball } :=
      ha.map (fun k => { k with ownBall := ball, cpiUnapplied := ball }) fun _ _ _ _ => ⟨_, rfl⟩
    exact ⟨hnew.loadWord _, fun _ => rfl⟩
  | accumulate ball m => exact ⟨ha.accumulate ball fun _ => rfl, fun _ => rfl⟩
  | poll cpi motion => exact ⟨ha.poll cpi fun _ => rfl, fun _ => rfl⟩
  | report r now => exact (ha.makeReport policy r now).2
  | housekeeping link now =>
    have hasked : h.handshake.isDue now = true → link.answers.head? = link.answers.head? :=
      fun _ => rfl
    obtain ⟨hhalf, hnotices⟩ := ha.housekeeping rfl (fun _ => rfl) hasked store
    exact ⟨hhalf, fun _ => hnotices⟩
  | answer id request room =>
    obtain ⟨hhalf, hnotices⟩ := ha.answer id request room
    exact ⟨hhalf, fun _ => hnotices⟩
  | setCpi v => exact ⟨ha.setCpi v, fun _ => rfl⟩
  | setScrollDiv v => exact ⟨ha.setScrollDiv v, fun _ => rfl⟩
  | setScrolling on now => exact ⟨ha.setScrolling on now, fun _ => rfl⟩
  | setSnapMode m => exact ⟨ha.setSnapMode m, fun _ => rfl⟩
  | setAutoMouse on => exact ⟨ha.changeAutoMouse (·.setEnabled on), fun _ => rfl⟩
  | setAutoMouseTimeout ms => exact ⟨ha.changeAutoMouse (·.setTimeout ms), fun _ => rfl⟩
  | stepAutoMouseTimeout up => exact ⟨ha.changeAutoMouse (·.step up), fun _ => rfl⟩
  | setAutoMouseTimeoutStep q => exact ⟨ha.changeAutoMouse (·.setTimeoutStep q), fun _ => rfl⟩
  | resetAutoMouse => exact ⟨ha.changeAutoMouse AutoMouse.reset, fun _ => rfl⟩
  | resetSettings => exact ⟨ha.resetSettings, fun _ => rfl⟩
  | applyRecord r => exact ⟨ha.applyRecord r, fun _ => rfl⟩
  | key e now => exact ⟨ha.key policy e store now, fun _ => rfl⟩
  | load => exact ⟨ha.loadWord _, fun _ => rfl⟩
  | save =>
    have hsaved : ∀ k : Half, (k.perform ⟨policy, store, .save⟩).session.half = k ∧
        (k.perform ⟨policy, store, .save⟩).notices = [] := by
      intro k
      unfold Half.perform
      dsimp only [Session.step]
      split
      · exact ⟨rfl, rfl⟩
      · exact ⟨rfl, rfl⟩
    rw [(hsaved h).1, (hsaved h).2, (hsaved g).1, (hsaved g).2]
    exact ⟨ha, fun _ => rfl⟩

/-- **Alike halves stay alike if they are brought different counts.** -/
theorem recount (ha : Alike False h g) {op op' : Op} (hop : Recounts h op op') (policy : Policy)
    (store : σ) :
    Alike False (h.perform ⟨policy, store, op⟩).session.half
      (g.perform ⟨policy, store, op'⟩).session.half := by
  cases hop with
  | same => exact (ha.perform _).1
  | accumulate ball m m' => exact ha.accumulate ball nofun
  | poll cpi motion motion' => exact ha.poll cpi nofun
  | housekeeping link link' now sends asked => exact (ha.housekeeping sends nofun asked store).1

end Alike

end Half

end TwinBall
