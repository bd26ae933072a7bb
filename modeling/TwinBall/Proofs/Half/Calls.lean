import TwinBall.Proofs.Half.Answering
import TwinBall.Session

/-!
# Calls of a half

A half is handed the store and the decisions of the keyboard anew with every operation, and others
may have written to the store in between.  A `Call` is an operation together with what it is handed,
so a statement about all lists of calls covers every such interference.  A session is the special
case in which each operation is handed the store that the last one left behind (`half_run`).

The frame lemmas say once, operation by operation, which fields of a half can change.
-/

namespace TwinBall

/-- An operation and what it is handed. -/
structure Call (σ : Type) where
  policy : Policy
  store : σ
  op : Op

namespace Half

variable {σ : Type}

/-! ## What an operation can change -/

theorem setMotion_frame (h : Half) (ball : Ball) (a : Accumulator) :
    ∃ own peer, h.setMotion ball a = { h with ownMotion := own, peerMotion := peer } := by
  cases ball
  · exact ⟨_, _, rfl⟩
  · exact ⟨_, _, rfl⟩

theorem applyCpi_frame [MotionSensor σ] (h : Half) (sensor : σ) :
    ∃ unapplied, (h.applyCpi sensor).2.1 = { h with cpiUnapplied := unapplied } := by
  unfold applyCpi
  split
  · split
    · exact ⟨_, rfl⟩
    · exact ⟨_, rfl⟩
  · exact ⟨_, rfl⟩

theorem poll_frame [MotionSensor σ] (h : Half) (sensor : σ) :
    ∃ motion unapplied,
      (h.poll sensor).2.1 = { h with ownMotion := motion, cpiUnapplied := unapplied } := by
  obtain ⟨unapplied, hunapplied⟩ := h.applyCpi_frame sensor
  unfold poll
  split
  · split
    · next heq =>
      rw [heq] at hunapplied
      exact ⟨_, unapplied, hunapplied⟩
    · next heq =>
      rw [heq] at hunapplied
      subst hunapplied
      split
      · exact ⟨_, unapplied, rfl⟩
      · exact ⟨_, unapplied, rfl⟩
      · exact ⟨_, unapplied, rfl⟩
  · exact ⟨_, _, rfl⟩

/-- Telling a scripted sensor the resolution is refused, or leaves nothing to tell. -/
theorem applyCpi_cases (h : Half) (s : ScriptedSensor) :
    (∃ e, h.cpiUnapplied = true ∧ s.cpi = .error e ∧
      h.applyCpi s = (.error e, h, { s with calls := s.calls ++ [.setCpi h.cpiRegister] })) ∨
    (h.cpiUnapplied = true → s.cpi = .ok ()) ∧
      h.applyCpi s = (.ok (), { h with cpiUnapplied := false },
        { s with calls :=
            s.calls ++ if h.cpiUnapplied then [.setCpi h.cpiRegister] else [] }) := by
  obtain ⟨cpi, motion, calls⟩ := s
  cases hdue : h.cpiUnapplied with
  | false =>
    have hsame : { h with cpiUnapplied := false } = h := by rw [← hdue]
    refine .inr ⟨nofun, ?_⟩
    simp [applyCpi, hdue, hsame]
  | true =>
    cases cpi with
    | error e => exact .inl ⟨e, rfl, rfl, by simp [applyCpi, MotionSensor.setCpi, hdue]⟩
    | ok _ => exact .inr ⟨fun _ => rfl, by simp [applyCpi, MotionSensor.setCpi, hdue]⟩

/-- What polling a scripted sensor comes to: nothing without a ball, a refusal of the resolution, or
a reading once nothing is left to tell. -/
inductive Polled (h : Half) (s : ScriptedSensor) :
    Except SensorError Unit × Half × ScriptedSensor → Prop
  | idle (ball : h.ownBall = false) : Polled h s (.ok (), h, s)
  | refused (e : SensorError) (ball : h.ownBall = true) (due : h.cpiUnapplied = true)
      (refusal : s.cpi = .error e) :
      Polled h s (.error e, h, { s with calls := s.calls ++ [.setCpi h.cpiRegister] })
  | read (ball : h.ownBall = true) (accepted : h.cpiUnapplied = true → s.cpi = .ok ())
      (own : Accumulator)
      (gained : own = match s.motion with
        | .ok (some m) => h.ownMotion.add m
        | _ => h.ownMotion) :
      Polled h s
        (s.motion.map fun _ => (), { h with ownMotion := own, cpiUnapplied := false },
          { s with calls :=
              s.calls ++ (if h.cpiUnapplied then [.setCpi h.cpiRegister] else []) ++
                [.readMotion] })

theorem poll_cases (h : Half) (s : ScriptedSensor) : Polled h s (h.poll s) := by
  cases hball : h.ownBall with
  | false =>
    have hidle : h.poll s = (.ok (), h, s) := by simp [poll, hball]
    rw [hidle]
    exact .idle hball
  | true =>
    rw [poll, if_pos hball]
    rcases h.applyCpi_cases s with ⟨e, hdue, hrefusal, heq⟩ | ⟨haccepted, heq⟩
    · rw [heq]
      exact .refused e hball hdue hrefusal
    · rw [heq]
      obtain ⟨cpi, motion, calls⟩ := s
      rcases motion with e | _ | m
      · exact .read hball haccepted _ rfl
      · exact .read hball haccepted _ rfl
      · exact .read hball haccepted _ rfl

theorem observe_frame (f : SnapFilter) (resetAfter : UInt32) (r : Report) (now : UInt32) :
    ∃ tension last,
      f.observe resetAfter r now = { f with tension := tension, lastScroll := last } := by
  unfold SnapFilter.observe
  split
  · exact ⟨_, _, rfl⟩
  · split
    · exact ⟨_, _, rfl⟩
    · exact ⟨_, _, rfl⟩

theorem snap_frame (f : SnapFilter) (r : Report) (now : UInt32) :
    ∃ tension last, (f.apply r now).1 = { f with tension := tension, lastScroll := last } := by
  unfold SnapFilter.apply
  split
  · exact ⟨_, _, rfl⟩
  · next threshold resetAfter _ =>
    obtain ⟨tension, last, heq⟩ := observe_frame f resetAfter r now
    simp only [heq]
    split
    · exact ⟨_, _, rfl⟩
    · exact ⟨_, _, rfl⟩

theorem drainInto_frame (h : Half) (policy : Policy) (ball : Ball) (r : Report) (now : UInt32) :
    ∃ own peer tension last, (h.drainInto policy ball r now).1 =
      { h with
        ownMotion := own
        peerMotion := peer
        snap := { h.snap with tension := tension, lastScroll := last } } := by
  unfold drainInto
  split
  · obtain ⟨own, peer, hmotion⟩ :=
      h.setMotion_frame ball ((h.motion ball).drainTicks h.scrollDivisor).2
    obtain ⟨tension, last, hsnap⟩ := snap_frame h.snap
      (policy.mapScroll ((h.motion ball).drainTicks h.scrollDivisor).1 r (h.isLeftBall ball)) now
    refine ⟨own, peer, tension, last, ?_⟩
    simp only [hmotion, hsnap]
  · obtain ⟨own, peer, hmotion⟩ := h.setMotion_frame ball (h.motion ball).drain.2
    refine ⟨own, peer, h.snap.tension, h.snap.lastScroll, ?_⟩
    simp only [hmotion]

theorem noteReport_frame (h : Half) (now : UInt32) :
    ∃ time, h.noteReport now = { h with lastReport := time } := by
  unfold noteReport
  split
  · exact ⟨_, rfl⟩
  · exact ⟨_, rfl⟩

theorem inhibit_frame (h : Half) (now : UInt32) :
    ∃ own peer, h.inhibit now = { h with ownMotion := own, peerMotion := peer } := by
  unfold inhibit
  split
  · exact ⟨_, _, rfl⟩
  · exact ⟨_, _, rfl⟩

theorem drainBoth_frame (h : Half) (policy : Policy) (r : Report) (now : UInt32) :
    ∃ own peer tension last mouse, (h.drainBoth policy r now).half =
      { h with
        ownMotion := own
        peerMotion := peer
        snap := { h.snap with tension := tension, lastScroll := last }
        lastMouse := mouse } := by
  unfold drainBoth
  obtain ⟨own₁, peer₁, tension₁, last₁, hfirst⟩ := h.drainInto_frame policy .own r now
  rcases hown : h.drainInto policy .own r now with ⟨g, r₁, n₁⟩
  rw [hown] at hfirst
  obtain ⟨own₂, peer₂, tension₂, last₂, hsecond⟩ := g.drainInto_frame policy .peer r₁ now
  rcases hpeer : g.drainInto policy .peer r₁ now with ⟨g₂, r₂, n₂⟩
  rw [hpeer] at hsecond
  refine ⟨own₂, peer₂, tension₂, last₂, r₂, ?_⟩
  simp only at hfirst hsecond ⊢
  rw [hpeer, hsecond, hfirst]

theorem makeReport_frame (h : Half) (policy : Policy) (r : Report) (now : UInt32) :
    ∃ time own peer tension last mouse, (h.makeReport policy r now).half =
      { h with
        lastReport := time
        ownMotion := own
        peerMotion := peer
        snap := { h.snap with tension := tension, lastScroll := last }
        lastMouse := mouse } := by
  unfold makeReport
  split
  · obtain ⟨time, hnote⟩ := h.noteReport_frame now
    obtain ⟨_, _, hinhibit⟩ := (h.noteReport now).inhibit_frame now
    obtain ⟨own, peer, tension, last, mouse, hdrain⟩ :=
      ((h.noteReport now).inhibit now).drainBoth_frame policy r now
    exact ⟨time, own, peer, tension, last, mouse, by rw [hdrain, hinhibit, hnote]⟩
  · exact ⟨_, _, _, _, _, _, rfl⟩

theorem answer_frame (h : Half) (id : Transaction) (request : List UInt8) (room : Nat) :
    (∃ motion, (h.answer id request room).half = { h with ownMotion := motion }) ∨
      ∃ v, (h.answer id request room).half = h.setCpi v := by
  have hreplied := h.replied_answer id request room
  generalize h.answer id request room = a at hreplied ⊢
  cases hreplied with
  | refused id why => exact .inl ⟨_, rfl⟩
  | info fits => exact .inl ⟨_, rfl⟩
  | motion fits => exact .inl ⟨_, rfl⟩
  | cpi first rest names => exact .inr ⟨first, rfl⟩

theorem key_frame [SettingsStore σ] (h : Half) (policy : Policy) (e : KeyEvent) (store : σ)
    (now : UInt32) :
    (h.key policy e store now).2.1 = h.noteKey e ∨
      (∃ on, (h.key policy e store now).2.1 = (h.noteKey e).setScrolling on now) ∨
      ∃ a, (h.noteKey e).hasFeature a = true ∧
        (h.key policy e store now).2.1 = (h.noteKey e).act a now := by
  unfold key
  split
  · unfold dispatch
    split
    · exact Or.inl rfl
    · exact Or.inr (Or.inl ⟨_, rfl⟩)
    · next a _ _ =>
      dsimp only
      split
      · next hact =>
        refine Or.inr (Or.inr ⟨a, ?_, rfl⟩)
        rw [Bool.and_eq_true] at hact
        exact hact.2
      · exact Or.inl rfl
  · exact Or.inl rfl

end Half

namespace Pass

variable {ℓ σ : Type}

theorem settle_frame [SettingsStore σ] (p : Pass ℓ σ) (answer : Option BallInfo) :
    ∃ handshake ball,
      (p.settle answer).half = { p.half with handshake := handshake, peerBall := ball } := by
  unfold Pass.settle
  split
  · exact ⟨_, _, rfl⟩
  · unfold Pass.writeLayout
    split
    · exact ⟨_, _, rfl⟩
    · exact ⟨_, _, rfl⟩

variable [PeerLink ℓ]

theorem negotiate_frame [SettingsStore σ] (p : Pass ℓ σ) (now : UInt32) :
    ∃ handshake ball,
      (p.negotiate now).half = { p.half with handshake := handshake, peerBall := ball } := by
  unfold Pass.negotiate
  split
  · obtain ⟨handshake, ball, heq⟩ := settle_frame (_ : Pass ℓ σ) _
    exact ⟨handshake, ball, heq⟩
  · exact ⟨_, _, rfl⟩

theorem pullMotion_frame (p : Pass ℓ σ) (now : UInt32) :
    ∃ motion time,
      (p.pullMotion now).half = { p.half with peerMotion := motion, lastPull := time } := by
  unfold Pass.pullMotion
  split
  · simp only [Half.notePull]
    split
    · exact ⟨_, _, rfl⟩
    · exact ⟨_, _, rfl⟩
  · exact ⟨_, _, rfl⟩

theorem pushCpi_frame (p : Pass ℓ σ) :
    ∃ unsent, p.pushCpi.half = { p.half with cpiUnsent := unsent } := by
  unfold Pass.pushCpi
  split
  · simp only [Half.notePush]
    split
    · exact ⟨_, rfl⟩
    · exact ⟨_, rfl⟩
  · exact ⟨_, rfl⟩

end Pass

namespace Half

theorem housekeeping_frame {ℓ : Type} [PeerLink ℓ] [SettingsStore σ] (h : Half) (link : ℓ)
    (store : σ) (now : UInt32) :
    ∃ handshake ball motion time unsent, (h.housekeeping link store now).half =
      { h with
        handshake := handshake
        peerBall := ball
        peerMotion := motion
        lastPull := time
        cpiUnsent := unsent } := by
  unfold housekeeping
  dsimp only
  split
  · obtain ⟨handshake, ball, hask⟩ := (Pass.mk h link store [] []).negotiate_frame now
    obtain ⟨motion, time, hpull⟩ :=
      ((Pass.mk h link store [] []).negotiate now).pullMotion_frame now
    obtain ⟨unsent, hpush⟩ :=
      (((Pass.mk h link store [] []).negotiate now).pullMotion now).pushCpi_frame
    exact ⟨handshake, ball, motion, time, unsent, by rw [hpush, hpull, hask]⟩
  · exact ⟨_, _, _, _, _, rfl⟩

/-! ## Calls -/

variable {σ : Type} [SettingsStore σ]

/-- What a call comes to. -/
def perform (h : Half) (c : Call σ) : Outcome σ := (Session.mk h c.store).step c.policy c.op

/-- The half after calls. -/
def after (h : Half) (calls : List (Call σ)) : Half :=
  calls.foldl (fun h c => (h.perform c).session.half) h

@[simp] theorem after_nil (h : Half) : h.after ([] : List (Call σ)) = h := rfl

@[simp] theorem after_cons (h : Half) (c : Call σ) (calls : List (Call σ)) :
    h.after (c :: calls) = (h.perform c).session.half.after calls := rfl

/-- A half that came about by calls, each with a store of any kind. -/
inductive Reachable (config : Config) : Half → Prop
  | new (role : Role) (side : Side) : Reachable config (.new config role side)
  | perform {τ : Type} [SettingsStore τ] {h : Half} (reached : Reachable config h) (c : Call τ) :
    Reachable config (h.perform c).session.half

theorem Reachable.after {config : Config} {h : Half} (reached : Reachable config h)
    (calls : List (Call σ)) : Reachable config (h.after calls) := by
  induction calls generalizing h with
  | nil => exact reached
  | cons c calls ih => exact ih (reached.perform c)

end Half

namespace Session

variable {σ : Type} [SettingsStore σ]

/-- The operations of a session as calls, each with the store that the last one left behind. -/
def calls (s : Session σ) : List (Policy × Op) → List (Call σ)
  | [] => []
  | o :: ops => ⟨o.1, s.store, o.2⟩ :: (s.step o.1 o.2).session.calls ops

/-- A session is a list of calls. -/
theorem half_run (s : Session σ) (ops : List (Policy × Op)) :
    (s.run ops).half = s.half.after (s.calls ops) := by
  induction ops generalizing s with
  | nil => rfl
  | cons o ops ih => exact ih (s.step o.1 o.2).session

end Session

end TwinBall
