import TwinBall.Proofs.Half.Calls

/-!
# One call and the handshake

What a call of the half on USB does to the handshake, and what can be seen of it: the questions
that it sends, the other exchanges, the writes of the layout options, and the adjustments of the
layout.  `Turn` lists the three possibilities, and `turn_of_perform` says that nothing else happens,
whatever the operation, the store and the answers of the link.
-/

namespace TwinBall

/-! ## What can be observed -/

/-- A question that was sent to the other half: when, and what came of it. -/
structure Question where
  time : UInt32
  outcome : Except LinkError (List UInt8)

/-- What the answer to a question says: whether its first byte is positive, and nothing if there is
no first byte. -/
def Question.ball? (q : Question) : Option Bool :=
  match q.outcome with
  | .ok (count :: _) => some (decide (0 < count))
  | _ => none

/-- A write of the layout options: the word that they held, and the word that was written. -/
structure LayoutWrite where
  current : UInt32
  word : UInt32

/-- A store of any kind that logs the writes of its layout options. -/
structure LayoutLog (σ : Type) where
  store : σ
  writes : List LayoutWrite

variable {σ : Type} [SettingsStore σ]

instance : SettingsStore (LayoutLog σ) where
  keyboardWord? s := SettingsStore.keyboardWord? s.store
  putKeyboardWord s word :=
    (SettingsStore.putKeyboardWord s.store word).map fun store => { s with store := store }
  layerWord? s n := SettingsStore.layerWord? s.store n
  putLayerWord s n word :=
    (SettingsStore.putLayerWord s.store n word).map fun store => { s with store := store }
  layoutWord s := SettingsStore.layoutWord s.store
  putLayoutWord s word :=
    { store := SettingsStore.putLayoutWord s.store word
      writes := s.writes ++ [⟨SettingsStore.layoutWord s.store, word⟩] }

theorem writes_putKeyboardWord {s t : LayoutLog σ} {word : UInt32}
    (h : SettingsStore.putKeyboardWord s word = .ok t) : t.writes = s.writes := by
  change (SettingsStore.putKeyboardWord s.store word).map (fun store => { s with store := store })
    = .ok t at h
  cases hput : SettingsStore.putKeyboardWord s.store word with
  | error e =>
    rw [hput] at h
    cases h
  | ok store =>
    rw [hput] at h
    cases h
    rfl

/-- What calls show of the handshake. -/
structure Trace where
  /-- The questions that were sent. -/
  questions : List Question
  /-- Everything else that went over the link. -/
  others : List LinkCall
  /-- The writes of the layout options. -/
  writes : List LayoutWrite
  /-- How often the keyboard was told to adjust its layout as the half on USB. -/
  adjustments : Nat

namespace Trace

def empty : Trace := ⟨[], [], [], 0⟩

/-- One trace and then another. -/
def append (t u : Trace) : Trace :=
  ⟨t.questions ++ u.questions, t.others ++ u.others, t.writes ++ u.writes,
    t.adjustments + u.adjustments⟩

@[simp] theorem append_empty (t : Trace) : t.append .empty = t := by
  simp [append, empty]

@[simp] theorem empty_append (t : Trace) : Trace.append .empty t = t := by
  simp [append, empty]

theorem append_assoc (t u v : Trace) : (t.append u).append v = t.append (u.append v) := by
  simp [append, Nat.add_assoc]

theorem append_others (t : Trace) (others : List LinkCall) :
    t.append ⟨[], others, [], 0⟩ = { t with others := t.others ++ others } := by
  simp [append]

/-- When the last question was sent; before the first one, the time that a half starts from. -/
def lastQuestion (t : Trace) : UInt32 := (t.questions.getLast?.map Question.time).getD 0

/-- The question that an exchange at a time is, if it is one. -/
def question? (now : UInt32) : LinkCall → Option Question
  | .exec .info _ _ outcome => some ⟨now, outcome⟩
  | _ => none

def isQuestion : LinkCall → Bool
  | .exec .info _ _ _ => true
  | _ => false

theorem question?_eq_none {call : LinkCall} (h : isQuestion call = false) (now : UInt32) :
    question? now call = none := by
  cases call with
  | send => rfl
  | exec id request room outcome =>
    cases id with
    | info => cases h
    | motion => rfl
    | cpi => rfl

/-- The questions that an operation sent. -/
def questionsOf : Op → Reply → List Question
  | .housekeeping _ now, .exchanged calls => calls.filterMap (question? now)
  | _, _ => []

/-- Everything else that an operation sent. -/
def othersOf : Reply → List LinkCall
  | .exchanged calls => calls.filter fun call => !isQuestion call
  | _ => []

/-- What one call shows. -/
def ofCall (c : Call (LayoutLog σ)) (o : Outcome (LayoutLog σ)) : Trace where
  questions := questionsOf c.op o.reply
  others := othersOf o.reply
  writes := o.session.store.writes.drop c.store.writes.length
  adjustments := o.notices.count (.layout .primary)

end Trace

namespace Half

/-- What calls show, one after the other. -/
def trace (h : Half) : List (Call (LayoutLog σ)) → Trace
  | [] => .empty
  | c :: calls =>
    (Trace.ofCall c (h.perform c)).append ((h.perform c).session.half.trace calls)

/-! ## One call -/

/-- The part of a half that the handshake is about. -/
structure Standing where
  config : Config
  role : Role
  side : Side
  handshake : Handshake
  peerBall : Bool

def standing (h : Half) : Standing := ⟨h.config, h.role, h.side, h.handshake, h.peerBall⟩

/-- What a call can do to the handshake of a half, and what it shows of it.  The call was handed a
store with the layout options `current`. -/
inductive Turn (h : Half) (current : UInt32) (g : Half) : Trace → Prop
  /-- No question is sent. -/
  | rest (same : g.standing = h.standing) (others : List LinkCall)
      (known : others ≠ [] → g.peerBall = true) : Turn h current g ⟨[], others, [], 0⟩
  /-- A question is sent, and the answer leaves the matter open. -/
  | retry (q : Question) (due : h.handshake.isDue q.time = true)
      (open_ : (h.handshake.start q.time).verdict q.ball? = none)
      (same : g.standing = { h.standing with handshake := h.handshake.start q.time })
      (others : List LinkCall) (known : others ≠ [] → g.peerBall = true) :
      Turn h current g ⟨[q], others, [], 0⟩
  /-- A question is sent, and the answer settles the matter. -/
  | settle (q : Question) (ball : Bool) (due : h.handshake.isDue q.time = true)
      (settled : (h.handshake.start q.time).verdict q.ball? = some ball)
      (same : g.standing =
        { h.standing with
          handshake := { h.handshake.start q.time with phase := .negotiated }
          peerBall := ball })
      (others : List LinkCall) (known : others ≠ [] → g.peerBall = true) :
      Turn h current g
        ⟨[q], others, (Layout.merge? current g.layoutMask).toList.map (⟨current, ·⟩), 1⟩

/-! ### Operations without a question -/

section Standing

variable (h : Half)

theorem standing_setMotion (ball : Ball) (a : Accumulator) :
    (h.setMotion ball a).standing = h.standing := by
  obtain ⟨own, peer, heq⟩ := h.setMotion_frame ball a
  rw [heq]
  rfl

theorem standing_poll {τ : Type} [MotionSensor τ] (sensor : τ) :
    (h.poll sensor).2.1.standing = h.standing := by
  obtain ⟨motion, unapplied, heq⟩ := h.poll_frame sensor
  rw [heq]
  rfl

theorem standing_makeReport (policy : Policy) (r : Report) (now : UInt32) :
    (h.makeReport policy r now).half.standing = h.standing := by
  obtain ⟨time, own, peer, tension, last, mouse, heq⟩ := h.makeReport_frame policy r now
  rw [heq]
  rfl

theorem standing_setCpi (v : UInt8) : (h.setCpi v).standing = h.standing := rfl

theorem standing_setScrollDiv (v : UInt8) : (h.setScrollDiv v).standing = h.standing := rfl

theorem standing_answer (id : Transaction) (request : List UInt8) (room : Nat) :
    (h.answer id request room).half.standing = h.standing := by
  rcases h.answer_frame id request room with ⟨motion, heq⟩ | ⟨v, heq⟩
  · rw [heq]
    rfl
  · rw [heq, standing_setCpi]

theorem standing_resetSettings : h.resetSettings.standing = h.standing := by
  rw [resetSettings_eq]
  rfl

theorem standing_act (a : KeyAction) (now : UInt32) : (h.act a now).standing = h.standing := by
  cases a with
  | resetSettings => exact h.standing_resetSettings
  | cpiUp | cpiDown | cpiUpFar | cpiDownFar => exact h.standing_setCpi _
  | scrollDivUp | scrollDivDown => exact h.standing_setScrollDiv _
  | _ => rfl

theorem standing_key (policy : Policy) (e : KeyEvent) (store : σ) (now : UInt32) :
    (h.key policy e store now).2.1.standing = h.standing := by
  rcases h.key_frame policy e store now with heq | ⟨on, heq⟩ | ⟨a, -, heq⟩
  · rw [heq]
    rfl
  · rw [heq]
    rfl
  · rw [heq, standing_act]
    rfl

theorem standing_applyRecord (r : SettingsRecord) :
    (h.applyRecord r).standing = h.standing := by
  rw [applyRecord_eq]
  rfl

theorem standing_loadWord (word : Option UInt32) : (h.loadWord word).standing = h.standing := by
  cases word with
  | none => rfl
  | some word => exact h.standing_applyRecord _

end Standing

theorem writes_actStore (h : Half) (a : KeyAction) (store : LayoutLog σ) :
    (h.actStore a store).writes = store.writes := by
  unfold actStore
  split
  · split
    · next hsave => exact writes_putKeyboardWord hsave
    · rfl
  · rfl

theorem writes_key (h : Half) (policy : Policy) (e : KeyEvent) (store : LayoutLog σ)
    (now : UInt32) : (h.key policy e store now).2.2.writes = store.writes := by
  unfold key
  split
  · unfold dispatch
    split
    · rfl
    · rfl
    · dsimp only
      split
      · exact writes_actStore _ _ store
      · rfl
  · rfl

theorem drainInto_ne_layout (h : Half) (policy : Policy) (ball : Ball) (r : Report)
    (now : UInt32) (stage : LayoutStage) : (h.drainInto policy ball r now).2.2 ≠ .layout stage := by
  unfold drainInto
  split
  · exact nofun
  · exact nofun

theorem count_layout_makeReport (h : Half) (policy : Policy) (r : Report) (now : UInt32)
    (stage : LayoutStage) : (h.makeReport policy r now).notices.count (.layout stage) = 0 := by
  unfold makeReport
  split
  · refine List.count_eq_zero.mpr fun hmem => ?_
    rcases List.mem_cons.mp hmem with heq | hmem
    · exact drainInto_ne_layout _ _ _ _ _ _ heq.symm
    · exact drainInto_ne_layout _ _ _ _ _ _ (List.mem_singleton.mp hmem).symm
  · rfl

theorem count_primary_answer (h : Half) (id : Transaction) (request : List UInt8) (room : Nat) :
    (h.answer id request room).notices.count (.layout .primary) = 0 := by
  unfold answer
  split
  · split
    · rfl
    · rfl
  · split
    · rfl
    · rfl
  · split
    · rfl
    · rfl

/-! ### The pass of periodic work -/

section Upkeep

variable {ℓ : Type}

/-- From `p` to `q` the handshake and the store are left alone, no question is asked, and there are
exchanges only with a peer that has a ball. -/
structure Upkeep (p q : Pass ℓ σ) : Prop where
  standing : q.half.standing = p.half.standing
  ownBall : q.half.ownBall = p.half.ownBall
  store : q.store = p.store
  notices : q.notices = p.notices
  calls : ∃ others, q.calls = p.calls ++ others ∧
    (∀ call ∈ others, Trace.isQuestion call = false) ∧
    (others ≠ [] → p.half.peerBall = true)

omit [SettingsStore σ]

theorem Upkeep.refl (p : Pass ℓ σ) : Upkeep p p :=
  ⟨rfl, rfl, rfl, rfl, [], by simp, by simp, fun hne => absurd rfl hne⟩

theorem Upkeep.trans {p q r : Pass ℓ σ} (hpq : Upkeep p q) (hqr : Upkeep q r) : Upkeep p r := by
  obtain ⟨others₁, hcalls₁, hno₁, hknown₁⟩ := hpq.calls
  obtain ⟨others₂, hcalls₂, hno₂, hknown₂⟩ := hqr.calls
  have hpeer : q.half.peerBall = p.half.peerBall := congrArg Standing.peerBall hpq.standing
  refine ⟨hqr.standing.trans hpq.standing, hqr.ownBall.trans hpq.ownBall,
    hqr.store.trans hpq.store, hqr.notices.trans hpq.notices, others₁ ++ others₂, ?_, ?_, ?_⟩
  · rw [hcalls₂, hcalls₁, List.append_assoc]
  · intro call hmem
    rcases List.mem_append.mp hmem with hmem | hmem
    · exact hno₁ call hmem
    · exact hno₂ call hmem
  · intro hne
    by_cases hnil : others₁ = []
    · exact hpeer ▸ hknown₂ (by simpa [hnil] using hne)
    · exact hknown₁ hnil

variable [PeerLink ℓ]

theorem upkeep_pullMotion (p : Pass ℓ σ) (now : UInt32) : Upkeep p (p.pullMotion now) := by
  obtain ⟨motion, time, hhalf⟩ := p.pullMotion_frame now
  by_cases hdue : p.half.isPullDue now = true
  · refine ⟨?_, ?_, ?_, ?_, ?_⟩
    · rw [hhalf]
      rfl
    · rw [hhalf]
    · rw [Pass.pullMotion, if_pos hdue]
    · rw [Pass.pullMotion, if_pos hdue]
    · rw [Pass.pullMotion, if_pos hdue]
      refine ⟨_, rfl, by simp [Trace.isQuestion], fun _ => ?_⟩
      rw [isPullDue, Bool.and_eq_true] at hdue
      exact hdue.1
  · rw [Pass.pullMotion, if_neg hdue]
    exact .refl p

theorem upkeep_pushCpi (p : Pass ℓ σ) : Upkeep p p.pushCpi := by
  obtain ⟨unsent, hhalf⟩ := p.pushCpi_frame
  by_cases hdue : p.half.isPushDue = true
  · refine ⟨?_, ?_, ?_, ?_, ?_⟩
    · rw [hhalf]
      rfl
    · rw [hhalf]
    · rw [Pass.pushCpi, if_pos hdue]
    · rw [Pass.pushCpi, if_pos hdue]
    · rw [Pass.pushCpi, if_pos hdue]
      refine ⟨_, rfl, by simp [Trace.isQuestion], fun _ => ?_⟩
      rw [isPushDue, Bool.and_eq_true] at hdue
      exact hdue.1
  · rw [Pass.pushCpi, if_neg hdue]
    exact .refl p

end Upkeep

theorem calls_settle {ℓ : Type} (p : Pass ℓ σ) (answer : Option BallInfo) :
    (p.settle answer).calls = p.calls := by
  unfold Pass.settle
  split
  · rfl
  · unfold Pass.writeLayout
    split
    · rfl
    · rfl

theorem link_settle {ℓ : Type} (p : Pass ℓ σ) (answer : Option BallInfo) :
    (p.settle answer).link = p.link := by
  unfold Pass.settle
  split
  · rfl
  · unfold Pass.writeLayout
    split
    · rfl
    · rfl

/-- The answer to a question is read as `Question.ball?` says. -/
theorem readAnswer_ball (now : UInt32) (outcome : Except LinkError (List UInt8)) :
    (readAnswer BallInfo.ofBytes BallInfo.size outcome).map BallInfo.hasBall =
      (Question.mk now outcome).ball? := by
  cases outcome with
  | error e => rfl
  | ok bytes =>
    cases bytes with
    | nil => rfl
    | cons count bytes => rfl

theorem settle_of_none {ℓ : Type} {p : Pass ℓ σ} {answer : Option BallInfo}
    (h : p.half.handshake.verdict (answer.map BallInfo.hasBall) = none) : p.settle answer = p := by
  unfold Pass.settle Handshake.finish
  rw [h]

theorem settle_of_some {ℓ : Type} {p : Pass ℓ σ} {answer : Option BallInfo} {ball : Bool}
    (h : p.half.handshake.verdict (answer.map BallInfo.hasBall) = some ball) :
    p.settle answer =
      { ({ p with
            half := { p.half with
              handshake := { p.half.handshake with phase := .negotiated }
              peerBall := ball } } : Pass ℓ σ).writeLayout with
        notices := p.notices ++ [.layout .primary] } := by
  unfold Pass.settle Handshake.finish
  rw [h]
  unfold Pass.writeLayout
  dsimp only
  split
  · rfl
  · rfl

theorem writeLayout_log {ℓ : Type} (p : Pass ℓ (LayoutLog σ)) :
    p.writeLayout.half = p.half ∧ p.writeLayout.calls = p.calls ∧
      p.writeLayout.store.writes = p.store.writes ++
        (Layout.merge? (SettingsStore.layoutWord p.store) p.half.layoutMask).toList.map
          (⟨SettingsStore.layoutWord p.store, ·⟩) := by
  unfold Pass.writeLayout
  split
  · next word heq =>
    rw [heq]
    exact ⟨rfl, rfl, rfl⟩
  · next heq =>
    rw [heq]
    exact ⟨rfl, rfl, by simp⟩

/-- The trace of a pass of periodic work is the trace of the handshake, and what was pulled and
pushed. -/
theorem ofCall_housekeeping (h : Half) (policy : Policy) (store : LayoutLog σ)
    (link : ScriptedLink) (now : UInt32) (hrole : h.role = .primary) :
    ∃ others, (others ≠ [] →
        (h.housekeeping link store now).half.peerBall = true) ∧
      let p := (Pass.mk h link store [] []).negotiate now
      (h.housekeeping link store now).half.standing = p.half.standing ∧
      (h.housekeeping link store now).half.layoutMask = p.half.layoutMask ∧
      Trace.ofCall ⟨policy, store, .housekeeping link now⟩
          (h.perform ⟨policy, store, .housekeeping link now⟩) =
        ⟨p.calls.filterMap (Trace.question? now),
          p.calls.filter (fun call => !Trace.isQuestion call) ++ others,
          p.store.writes.drop store.writes.length, p.notices.count (.layout .primary)⟩ := by
  have hpass : h.housekeeping link store now =
      (((Pass.mk h link store [] []).negotiate now).pullMotion now).pushCpi := by
    rw [housekeeping, if_pos hrole]
  obtain ⟨hstanding, hball, hstore, hnotices, others, hcalls, hno, hknown⟩ :=
    (upkeep_pullMotion ((Pass.mk h link store [] []).negotiate now) now).trans
      (upkeep_pushCpi _)
  rw [← hpass] at hstanding hball hstore hnotices hcalls
  have hpeer : (h.housekeeping link store now).half.peerBall =
      ((Pass.mk h link store [] []).negotiate now).half.peerBall :=
    congrArg Standing.peerBall hstanding
  have hside : (h.housekeeping link store now).half.side =
      ((Pass.mk h link store [] []).negotiate now).half.side :=
    congrArg Standing.side hstanding
  refine ⟨others, fun hne => hpeer.trans (hknown hne), hstanding, ?_, ?_⟩
  · unfold layoutMask isLeft
    rw [hball, hpeer, hside]
  · have hnone : others.filterMap (Trace.question? now) = [] := by
      refine List.filterMap_eq_nil_iff.mpr fun call hmem => ?_
      exact Trace.question?_eq_none (hno call hmem) now
    have hall : others.filter (fun call => !Trace.isQuestion call) = others := by
      refine List.filter_eq_self.mpr fun call hmem => ?_
      rw [hno call hmem]
      rfl
    change Trace.mk ((h.housekeeping link store now).calls.filterMap (Trace.question? now))
      ((h.housekeeping link store now).calls.filter fun call => !Trace.isQuestion call)
      ((h.housekeeping link store now).store.writes.drop store.writes.length)
      ((h.housekeeping link store now).notices.count (.layout .primary)) = _
    rw [hcalls, hstore, hnotices, List.filterMap_append, List.filter_append, hnone, hall,
      List.append_nil]

/-- A question is sent whenever one is due. -/
theorem times_housekeeping (h : Half) (policy : Policy) (store : LayoutLog σ)
    (link : ScriptedLink) (now : UInt32) (hrole : h.role = .primary) :
    (Trace.ofCall ⟨policy, store, .housekeeping link now⟩
        (h.perform ⟨policy, store, .housekeeping link now⟩)).questions.map Question.time =
      if h.handshake.isDue now then [now] else [] := by
  obtain ⟨others, -, -, -, htrace⟩ := ofCall_housekeeping h policy store link now hrole
  rw [htrace]
  unfold Pass.negotiate
  split
  · simp [calls_settle, Trace.question?]
  · rfl

theorem turn_housekeeping (h : Half) (policy : Policy) (store : LayoutLog σ)
    (link : ScriptedLink) (now : UInt32) (hrole : h.role = .primary) :
    Turn h (SettingsStore.layoutWord store)
      (h.perform ⟨policy, store, .housekeeping link now⟩).session.half
      (Trace.ofCall ⟨policy, store, .housekeeping link now⟩
        (h.perform ⟨policy, store, .housekeeping link now⟩)) := by
  obtain ⟨others, hknown, hstanding, hmask, htrace⟩ :=
    ofCall_housekeeping h policy store link now hrole
  change Turn h _ (h.housekeeping link store now).half _
  rw [htrace]
  clear htrace
  by_cases hdue : h.handshake.isDue now = true
  · rcases hexec : PeerLink.exec link .info [] BallInfo.size with ⟨outcome, link'⟩
    have hread := readAnswer_ball now outcome
    have hnegotiate : (Pass.mk h link store [] []).negotiate now =
        (Pass.mk { h with handshake := h.handshake.start now } link' store
          [.exec .info [] BallInfo.size outcome] []).settle
            (readAnswer BallInfo.ofBytes BallInfo.size outcome) := by
      rw [Pass.negotiate, if_pos hdue, hexec]
      rfl
    rw [hnegotiate] at hstanding hmask ⊢
    -- A question is sent.  What it comes to is decided by the verdict on the answer alone.
    cases hverdict : (h.handshake.start now).verdict (Question.mk now outcome).ball? with
    | none =>
      rw [settle_of_none (by rw [hread]; exact hverdict)] at hstanding hmask ⊢
      simp only [List.drop_length]
      exact .retry ⟨now, outcome⟩ hdue hverdict hstanding others hknown
    | some ball =>
      have hsettle : (Pass.mk { h with handshake := h.handshake.start now } link' store
          [.exec .info [] BallInfo.size outcome] []).half.handshake.verdict
            ((readAnswer BallInfo.ofBytes BallInfo.size outcome).map BallInfo.hasBall) =
          some ball := by
        rw [hread]
        exact hverdict
      rw [settle_of_some hsettle] at hstanding hmask ⊢
      obtain ⟨hhalf, hcalls, hwrites⟩ := writeLayout_log (Pass.mk
        { h with
          handshake := { h.handshake.start now with phase := .negotiated }
          peerBall := ball }
        link' store [.exec .info [] BallInfo.size outcome] [])
      simp only [hhalf, hcalls, hwrites, List.drop_left] at hstanding hmask ⊢
      rw [← hmask]
      exact .settle ⟨now, outcome⟩ ball hdue hverdict hstanding others hknown
  · have hnegotiate : (Pass.mk h link store [] []).negotiate now = Pass.mk h link store [] [] := by
      rw [Pass.negotiate, if_neg hdue]
    rw [hnegotiate] at hstanding ⊢
    simp only [List.drop_length]
    exact .rest hstanding others hknown

/-- **A call of the half on USB is one of the three turns.** -/
theorem turn_of_perform (h : Half) (c : Call (LayoutLog σ)) (hrole : h.role = .primary) :
    Turn h (SettingsStore.layoutWord c.store) (h.perform c).session.half
      (Trace.ofCall c (h.perform c)) := by
  obtain ⟨policy, store, op⟩ := c
  -- All operations but the periodic work leave the link and the layout options alone.
  have rest : ∀ (reply : Reply) (notices : List Notice) (g : Half) (s : LayoutLog σ),
      h.perform ⟨policy, store, op⟩ = ⟨⟨g, s⟩, reply, notices⟩ → g.standing = h.standing →
      Trace.questionsOf op reply = [] → Trace.othersOf reply = [] → s.writes = store.writes →
      notices.count (.layout .primary) = 0 →
      Turn h (SettingsStore.layoutWord store) (h.perform ⟨policy, store, op⟩).session.half
        (Trace.ofCall ⟨policy, store, op⟩ (h.perform ⟨policy, store, op⟩)) := by
    intro reply notices g s heq hstanding hquestions hothers hwrites hcount
    rw [heq]
    simp only [Trace.ofCall, hquestions, hothers, hwrites, hcount, List.drop_length]
    exact .rest hstanding [] (fun hne => absurd rfl hne)
  cases op with
  | housekeeping link now => exact h.turn_housekeeping policy store link now hrole
  | boot ball =>
    exact rest _ _ _ _ rfl (standing_loadWord _ _) rfl rfl rfl rfl
  | accumulate ball m =>
    exact rest _ _ _ _ rfl (standing_setMotion _ _ _) rfl rfl rfl rfl
  | poll cpi motion =>
    exact rest _ _ _ _ rfl (standing_poll _ _) rfl rfl rfl rfl
  | report r now =>
    exact rest _ _ _ _ rfl (standing_makeReport _ _ _ _) rfl rfl rfl
      (count_layout_makeReport _ _ _ _ _)
  | answer id request room =>
    exact rest _ _ _ _ rfl (standing_answer _ _ _ _) rfl rfl rfl (count_primary_answer _ _ _ _)
  | setCpi v => exact rest _ _ _ _ rfl rfl rfl rfl rfl rfl
  | setScrollDiv v => exact rest _ _ _ _ rfl rfl rfl rfl rfl rfl
  | setScrolling on now => exact rest _ _ _ _ rfl rfl rfl rfl rfl rfl
  | setSnapMode m => exact rest _ _ _ _ rfl rfl rfl rfl rfl rfl
  | setAutoMouse on => exact rest _ _ _ _ rfl rfl rfl rfl rfl rfl
  | setAutoMouseTimeout ms => exact rest _ _ _ _ rfl rfl rfl rfl rfl rfl
  | stepAutoMouseTimeout up => exact rest _ _ _ _ rfl rfl rfl rfl rfl rfl
  | setAutoMouseTimeoutStep q => exact rest _ _ _ _ rfl rfl rfl rfl rfl rfl
  | resetAutoMouse => exact rest _ _ _ _ rfl rfl rfl rfl rfl rfl
  | resetSettings => exact rest _ _ _ _ rfl (standing_resetSettings _) rfl rfl rfl rfl
  | applyRecord r => exact rest _ _ _ _ rfl (standing_applyRecord _ _) rfl rfl rfl rfl
  | key e now =>
    exact rest _ _ _ _ rfl (standing_key _ _ _ _ _) rfl rfl (writes_key _ _ _ _ _) rfl
  | load => exact rest _ _ _ _ rfl (standing_loadWord _ _) rfl rfl rfl rfl
  | save =>
    cases hsave : h.save store with
    | ok t =>
      refine rest (.saved (.ok ())) [] h t ?_ rfl rfl rfl (writes_putKeyboardWord hsave) rfl
      simp only [perform, Session.step, hsave]
    | error e =>
      refine rest (.saved (.error e)) [] h store ?_ rfl rfl rfl rfl rfl
      simp only [perform, Session.step, hsave]

end Half

end TwinBall
