import TwinBall.Proofs.Half.Turn
import Mathlib.Data.List.Chain

/-!
# Finding out whether the other half has a ball

The half on USB asks the other half for its balls until the handshake settles.  This module follows
the handshake over all calls of such a half, whatever the link answers, whatever else happens in
between, and whoever else writes to the store.

`Tracks` ties the state of the half to what its calls showed.  A turn keeps it (`Tracks.turn`), so
all calls do (`tracks_after`), and the statement about the whole run is read off it.
-/

namespace TwinBall

variable {σ : Type} [SettingsStore σ]

/-- The number of questions that are sent at most: a build that allows none sends one. -/
def Config.questionLimit (config : Config) : Nat := max 1 config.infoAttempts.toNat

namespace Half

/-- The handshake is open: no question was answered, and there are questions left. -/
structure Waiting (config : Config) (t : Trace) (h : Half) : Prop where
  isNegotiated : h.handshake.isNegotiated = false
  peerBall : h.peerBall = false
  silent : ∀ q ∈ t.questions, q.ball? = none
  few : t.questions.length < config.questionLimit
  writes : t.writes = []
  adjustments : t.adjustments = 0

/-- The handshake has settled with the last question: it was answered, or it was the last one
allowed. -/
structure Concluded (config : Config) (t : Trace) (h : Half) : Prop where
  isNegotiated : h.handshake.isNegotiated = true
  settled : ∃ earlier q, t.questions = earlier ++ [q] ∧ (∀ r ∈ earlier, r.ball? = none) ∧
    h.peerBall = q.ball?.getD false ∧
    (q.ball? = none → t.questions.length = config.questionLimit)
  few : t.questions.length ≤ config.questionLimit
  writes : t.writes.length ≤ 1
  adjustments : t.adjustments = 1

/-- The questions so far are what the handshake of a half remembers of them. -/
structure Paced (config : Config) (side : Side) (t : Trace) (h : Half) : Prop where
  role : h.role = .primary
  side : h.side = side
  interval : h.handshake.interval = config.infoInterval
  maxAttempts : h.handshake.maxAttempts = config.infoAttempts
  attempts : h.handshake.attempts.toNat = t.questions.length
  last : h.handshake.lastAttempt = t.lastQuestion
  spaced : t.questions.IsChain fun q r => config.infoInterval ≤ r.time - q.time

/-- The state of a half agrees with what its calls showed. -/
structure Tracks (config : Config) (side : Side) (t : Trace) (h : Half) : Prop
    extends Paced config side t h where
  phase : Waiting config t h ∨ Concluded config t h

variable {config : Config} {side : Side} {t u : Trace} {h g : Half} {current : UInt32}

theorem tracks_new (config : Config) (side : Side) :
    Tracks config side .empty (.new config .primary side) where
  role := rfl
  side := rfl
  interval := rfl
  maxAttempts := rfl
  attempts := rfl
  last := rfl
  spaced := .nil
  phase := .inl
    { isNegotiated := rfl
      peerBall := rfl
      silent := nofun
      few := Nat.lt_of_lt_of_le Nat.zero_lt_one (Nat.le_max_left _ _)
      writes := rfl
      adjustments := rfl }

/-! ## One turn -/

theorem Tracks.rest (ht : Tracks config side t h) (same : g.standing = h.standing)
    (others : List LinkCall) : Tracks config side (t.append ⟨[], others, [], 0⟩) g := by
  have hhandshake : g.handshake = h.handshake := congrArg Standing.handshake same
  have hnegotiated : g.handshake.isNegotiated = h.handshake.isNegotiated :=
    congrArg Handshake.isNegotiated hhandshake
  have hpeer : g.peerBall = h.peerBall := congrArg Standing.peerBall same
  obtain ⟨⟨hrole, hside, hinterval, hmax, hattempts, hlast, hspaced⟩, hphase⟩ := ht
  rw [← hhandshake] at hinterval hmax hattempts hlast
  rw [Trace.append_others]
  refine ⟨⟨(congrArg Standing.role same).trans hrole, (congrArg Standing.side same).trans hside,
    hinterval, hmax, hattempts, hlast, hspaced⟩, ?_⟩
  rcases hphase with hw | hc
  · exact .inl
      { hw with
        isNegotiated := hnegotiated.trans hw.isNegotiated
        peerBall := hpeer.trans hw.peerBall }
  · exact .inr
      { hc with
        isNegotiated := hnegotiated.trans hc.isNegotiated
        settled := hpeer ▸ hc.settled }

/-- Questions are only asked while the handshake is open. -/
theorem Tracks.waiting (ht : Tracks config side t h) {now : UInt32}
    (due : h.handshake.isDue now = true) : Waiting config t h := by
  rcases ht.phase with hw | hc
  · exact hw
  · obtain ⟨hopen, -⟩ := Handshake.isDue_iff.mp due
    rw [hc.isNegotiated] at hopen
    cases hopen

/-- The count of attempts does not get stuck before the limit. -/
theorem Tracks.attempts_start (ht : Tracks config side t h) {now : UInt32}
    (due : h.handshake.isDue now = true) :
    (h.handshake.start now).attempts.toNat = t.questions.length + 1 := by
  have hfew := (ht.waiting due).few
  -- The limit is a byte or `1`, so the saturation at `255` is out of reach.
  have hlimit : config.questionLimit ≤ 255 := by
    have hbyte := config.infoAttempts.toNat_lt
    unfold Config.questionLimit
    omega
  have hlt : h.handshake.attempts.toNat < 255 := by
    rw [ht.attempts]
    exact Nat.lt_of_lt_of_le hfew hlimit
  exact (Handshake.toNat_nextAttempt hlt).trans (congrArg (· + 1) ht.attempts)

/-- A question is noted, whether or not its answer settles the handshake. -/
theorem Tracks.ask (ht : Tracks config side t h) {q : Question} {phase : HandshakePhase}
    {ball : Bool} (due : h.handshake.isDue q.time = true)
    (same : g.standing =
      { h.standing with
        handshake := { h.handshake.start q.time with phase := phase }
        peerBall := ball })
    (others : List LinkCall) (writes : List LayoutWrite) (adjustments : Nat) :
    Paced config side (t.append ⟨[q], others, writes, adjustments⟩) g := by
  have hhandshake : g.handshake = { h.handshake.start q.time with phase := phase } :=
    congrArg Standing.handshake same
  refine ⟨(congrArg Standing.role same).trans ht.role, (congrArg Standing.side same).trans ht.side,
    ?_, ?_, ?_, ?_, ?_⟩
  · rw [hhandshake]
    exact ht.interval
  · rw [hhandshake]
    exact ht.maxAttempts
  · rw [hhandshake]
    simpa [Trace.append] using ht.attempts_start due
  · simp [Trace.append, Trace.lastQuestion, hhandshake, Handshake.start]
  · refine List.isChain_append.mpr ⟨ht.spaced, .singleton q, fun earlier hearlier r hr => ?_⟩
    obtain ⟨-, hinterval⟩ := Handshake.isDue_iff.mp due
    have hlast : t.lastQuestion = earlier.time := by
      rw [Trace.lastQuestion, Option.mem_def.mp hearlier]
      rfl
    cases hr
    rw [ht.interval, ht.last, hlast] at hinterval
    exact hinterval

theorem Tracks.retry (ht : Tracks config side t h) {q : Question}
    (due : h.handshake.isDue q.time = true)
    (open_ : (h.handshake.start q.time).verdict q.ball? = none)
    (same : g.standing = { h.standing with handshake := h.handshake.start q.time })
    (others : List LinkCall) : Tracks config side (t.append ⟨[q], others, [], 0⟩) g := by
  have hwaiting := ht.waiting due
  -- The matter stays open only after silence, and only while the count is below the limit.
  obtain ⟨hsilent, hlt⟩ := Handshake.verdict_eq_none_iff.mp open_
  have hfew : t.questions.length + 1 < config.questionLimit := by
    have hmax : (h.handshake.start q.time).maxAttempts = config.infoAttempts := ht.maxAttempts
    rw [UInt8.lt_iff_toNat_lt, ht.attempts_start due, hmax] at hlt
    exact Nat.lt_of_lt_of_le hlt (Nat.le_max_right _ _)
  refine ⟨ht.ask due same others [] 0, .inl ⟨?_, ?_, ?_, ?_, ?_, ?_⟩⟩
  · exact congrArg (fun s => s.handshake.isNegotiated) same
  · exact (congrArg Standing.peerBall same).trans hwaiting.peerBall
  · intro r hr
    rcases List.mem_append.mp hr with hr | hr
    · exact hwaiting.silent r hr
    · cases List.mem_singleton.mp hr
      exact hsilent
  · simpa [Trace.append] using hfew
  · simpa [Trace.append] using hwaiting.writes
  · simpa [Trace.append] using hwaiting.adjustments

theorem Tracks.settle (ht : Tracks config side t h) {q : Question} {ball : Bool}
    (due : h.handshake.isDue q.time = true)
    (settled : (h.handshake.start q.time).verdict q.ball? = some ball)
    (same : g.standing =
      { h.standing with
        handshake := { h.handshake.start q.time with phase := .negotiated }
        peerBall := ball })
    (others : List LinkCall) {writes : List LayoutWrite} (once : writes.length ≤ 1) :
    Tracks config side (t.append ⟨[q], others, writes, 1⟩) g := by
  have hwaiting := ht.waiting due
  have hball : g.peerBall = ball := congrArg Standing.peerBall same
  -- An answer settles at once; silence settles when the count has reached the limit.
  have hanswer : ball = q.ball?.getD false ∧
      (q.ball? = none → config.questionLimit ≤ t.questions.length + 1) := by
    rcases Handshake.verdict_eq_some_iff.mp settled with heard | ⟨hsilent, rfl, hle⟩
    · rw [heard]
      exact ⟨rfl, nofun⟩
    · have hmax : (h.handshake.start q.time).maxAttempts = config.infoAttempts := ht.maxAttempts
      rw [UInt8.le_iff_toNat_le, ht.attempts_start due, hmax] at hle
      rw [hsilent]
      exact ⟨rfl, fun _ => Nat.max_le.mpr ⟨Nat.le_add_left _ _, hle⟩⟩
  refine ⟨ht.ask due same others writes 1,
    .inr ⟨?_, ⟨t.questions, q, rfl, hwaiting.silent, ?_, ?_⟩, ?_, ?_, ?_⟩⟩
  · exact congrArg (fun s => s.handshake.isNegotiated) same
  · exact hball.trans hanswer.1
  · intro hsilent
    have hfull := hanswer.2 hsilent
    have hfew := hwaiting.few
    simp only [Trace.append, List.length_append, List.length_singleton]
    omega
  · simpa [Trace.append] using Nat.succ_le_of_lt hwaiting.few
  · simpa [Trace.append, hwaiting.writes] using once
  · simp [Trace.append, hwaiting.adjustments]

theorem Tracks.turn (ht : Tracks config side t h) (hturn : Turn h current g u) :
    Tracks config side (t.append u) g := by
  cases hturn with
  | rest same others => exact ht.rest same others
  | retry q due open_ same others => exact ht.retry due open_ same others
  | settle q ball due settled same others =>
    refine ht.settle due settled same others ?_
    -- The list of writes comes from an option, so it has at most one entry.
    cases Layout.merge? current g.layoutMask with
    | none => exact Nat.zero_le 1
    | some word => exact Nat.le_refl 1

/-! ## All calls -/

theorem Tracks.after (ht : Tracks config side t h) (calls : List (Call (LayoutLog σ))) :
    Tracks config side (t.append (h.trace calls)) (h.after calls) := by
  induction calls generalizing t h with
  | nil =>
    rw [trace, Trace.append_empty]
    exact ht
  | cons c calls ih =>
    have hnext := ih (ht.turn (h.turn_of_perform c ht.role))
    rw [Trace.append_assoc] at hnext
    exact hnext

theorem tracks_after (config : Config) (side : Side) (calls : List (Call (LayoutLog σ))) :
    Tracks config side ((new config .primary side).trace calls)
      ((new config .primary side).after calls) := by
  have htracks := (tracks_new config side).after calls
  rw [Trace.empty_append] at htracks
  exact htracks

theorem Tracks.isNegotiated_iff (ht : Tracks config side t h) :
    h.handshake.isNegotiated = true ↔
      (∃ q ∈ t.questions, q.ball?.isSome = true) ∨
        t.questions.countP (·.ball?.isNone) = config.questionLimit := by
  rcases ht.phase with hw | hc
  · rw [hw.isNegotiated]
    refine ⟨nofun, ?_⟩
    rintro (⟨q, hq, hsome⟩ | hfull)
    · rw [hw.silent q hq] at hsome
      cases hsome
    · have hle : t.questions.countP (·.ball?.isNone) ≤ t.questions.length :=
        List.countP_le_length
      exact absurd hw.few (Nat.not_lt.mpr (hfull ▸ hle))
  · refine ⟨fun _ => ?_, fun _ => hc.isNegotiated⟩
    obtain ⟨earlier, q, hquestions, hsilent, -, hfull⟩ := hc.settled
    -- The last question was answered, or it was one more failure and there were enough of them.
    cases hball : q.ball? with
    | some ball =>
      refine .inl ⟨q, ?_, ?_⟩
      · rw [hquestions]
        exact List.mem_append_right _ (List.mem_singleton_self q)
      · rw [hball]
        rfl
    | none =>
      refine .inr ((List.countP_eq_length.mpr fun r hr => ?_).trans (hfull hball))
      rw [hquestions] at hr
      rcases List.mem_append.mp hr with hr | hr
      · rw [hsilent r hr]
        rfl
      · rw [List.mem_singleton.mp hr, hball]
        rfl

/-! ## After the handshake -/

theorem turn_of_isNegotiated (hn : h.handshake.isNegotiated = true) (hturn : Turn h current g u) :
    g.standing = h.standing ∧ u.questions = [] ∧ u.writes = [] ∧ u.adjustments = 0 := by
  have hnever : ∀ now, ¬ h.handshake.isDue now = true := by
    intro now due
    rw [(Handshake.isDue_iff.mp due).1] at hn
    cases hn
  cases hturn with
  | rest same => exact ⟨same, rfl, rfl, rfl⟩
  | retry q due => exact absurd due (hnever _)
  | settle q ball due => exact absurd due (hnever _)

/-- Nothing about the handshake changes once it has settled. -/
theorem after_of_isNegotiated (hrole : h.role = .primary) (hn : h.handshake.isNegotiated = true)
    (more : List (Call (LayoutLog σ))) :
    (h.after more).standing = h.standing ∧ (h.trace more).questions = [] ∧
      (h.trace more).writes = [] ∧ (h.trace more).adjustments = 0 := by
  induction more generalizing h with
  | nil => exact ⟨rfl, rfl, rfl, rfl⟩
  | cons c more ih =>
    obtain ⟨hsame, hquestions, hwrites, hadjustments⟩ :=
      turn_of_isNegotiated hn (h.turn_of_perform c hrole)
    obtain ⟨hsame', hquestions', hwrites', hadjustments'⟩ :=
      ih ((congrArg Standing.role hsame).trans hrole)
        ((congrArg (fun s => s.handshake.isNegotiated) hsame).trans hn)
    refine ⟨hsame'.trans hsame, ?_, ?_, ?_⟩
    · simp [trace, Trace.append, hquestions, hquestions']
    · simp [trace, Trace.append, hwrites, hwrites']
    · simp [trace, Trace.append, hadjustments, hadjustments']

/-! ## The layout options -/

/-- Every write puts the two bits in place, keeps the others, and changes the word. -/
theorem writes_of_turn (hturn : Turn h current g u) {w : LayoutWrite} (hw : w ∈ u.writes) :
    w.current = current ∧ w.word ≠ current ∧ w.word &&& 3 = g.layoutMask ∧
      w.word &&& ~~~3 = current &&& ~~~3 := by
  have hmask : g.layoutMask &&& 3 = g.layoutMask := Layout.mask_and_three _ _ _
  cases hturn with
  | rest => cases hw
  | retry => cases hw
  | settle =>
    obtain ⟨word, hword, rfl⟩ := List.mem_map.mp hw
    obtain ⟨hne, rfl⟩ := Layout.merge?_eq_some_iff.mp (Option.mem_toList.mp hword)
    exact ⟨rfl, hne, Layout.and_three_withMask hmask, Layout.and_not_three_withMask hmask⟩

/-- Without a write the two bits were in place already. -/
theorem layoutMask_of_unwritten (hturn : Turn h current g u) (hadjusted : u.adjustments ≠ 0)
    (hwrites : u.writes = []) : current &&& 3 = g.layoutMask := by
  cases hturn with
  | rest => exact absurd rfl hadjusted
  | retry => exact absurd rfl hadjusted
  | settle =>
    cases hmerge : Layout.merge? current g.layoutMask with
    | some word =>
      rw [hmerge] at hwrites
      cases hwrites
    | none =>
      rw [← Layout.merge?_eq_none_iff.mp hmerge]
      exact Layout.and_three_withMask (Layout.mask_and_three _ _ _)

/-- Motion is pulled and settings are pushed only when the handshake found a ball. -/
theorem Tracks.known (ht : Tracks config side t h) (hturn : Turn h current g u)
    (hothers : u.others ≠ []) : g.handshake.isNegotiated = true ∧ g.peerBall = true := by
  have hball : g.peerBall = true := by
    cases hturn with
    | rest _ _ known => exact known hothers
    | retry _ _ _ _ _ known => exact known hothers
    | settle _ _ _ _ _ _ known => exact known hothers
  rcases (ht.turn hturn).phase with hw | hc
  · rw [hw.peerBall] at hball
    cases hball
  · exact ⟨hc.isNegotiated, hball⟩

/-! ## The handshake over all calls -/

/-- Periodic work asks whenever the handshake is open and the last question is long enough ago. -/
theorem Tracks.times_housekeeping (ht : Tracks config side t h) (policy : Policy)
    (store : LayoutLog σ) (link : ScriptedLink) (now : UInt32) :
    (Trace.ofCall ⟨policy, store, .housekeeping link now⟩
        (h.perform ⟨policy, store, .housekeeping link now⟩)).questions.map Question.time =
      if h.handshake.isNegotiated = false ∧ config.infoInterval ≤ now - t.lastQuestion then [now]
      else [] := by
  rw [Half.times_housekeeping h policy store link now ht.role]
  refine if_congr ?_ rfl rfl
  rw [Handshake.isDue_iff, ht.interval, ht.last]

theorem Tracks.peerBall_eq (ht : Tracks config side t h) :
    h.peerBall = (t.questions.getLast?.bind Question.ball?).getD false := by
  rcases ht.phase with hw | hc
  · rw [hw.peerBall]
    cases hlast : t.questions.getLast? with
    | none => rfl
    | some q =>
      rw [Option.bind_some, hw.silent q (List.mem_of_getLast? hlast)]
      rfl
  · obtain ⟨earlier, q, hquestions, -, hball, -⟩ := hc.settled
    rw [hball, hquestions, List.getLast?_concat]
    rfl

theorem Tracks.adjustments_eq (ht : Tracks config side t h) :
    t.writes.length ≤ 1 ∧ t.adjustments = if h.handshake.isNegotiated then 1 else 0 := by
  rcases ht.phase with hw | hc
  · rw [hw.isNegotiated, hw.writes, hw.adjustments]
    exact ⟨Nat.zero_le 1, rfl⟩
  · rw [hc.isNegotiated, hc.adjustments]
    exact ⟨hc.writes, rfl⟩

/-- **The handshake of the half on USB, over any calls.**  Questions are limited in number and
spaced, and one is sent whenever it may be.  The handshake settles with the first answer or with
the last failure that is allowed, and for good.  What is known of the peer is what the last
question brought.  The layout options are written at most once, where that changes them, and the
layout is adjusted once, when the handshake settles.  A write says in bit 1 whether the left half
carries a ball, in bit 0 whether the right half does, and leaves the other bits. -/
theorem handshake_over_calls (config : Config) (side : Side)
    (calls : List (Call (LayoutLog σ))) :
    let t := (new config .primary side).trace calls
    let h := (new config .primary side).after calls
    (t.questions.length ≤ config.questionLimit ∧
      (t.questions.IsChain fun q r => config.infoInterval ≤ r.time - q.time) ∧
      ∀ policy store link now,
        let c : Call (LayoutLog σ) := ⟨policy, store, .housekeeping link now⟩
        (Trace.ofCall c (h.perform c)).questions.map Question.time =
          if h.handshake.isNegotiated = false ∧ config.infoInterval ≤ now - t.lastQuestion then
            [now]
          else []) ∧
    ((h.handshake.isNegotiated = true ↔
        (∃ q ∈ t.questions, q.ball?.isSome = true) ∨
          t.questions.countP (·.ball?.isNone) = config.questionLimit) ∧
      (h.handshake.isNegotiated = true → ∀ more : List (Call (LayoutLog σ)),
        (h.after more).handshake = h.handshake ∧ (h.after more).peerBall = h.peerBall ∧
          (h.trace more).questions = [] ∧ (h.trace more).writes = [] ∧
          (h.trace more).adjustments = 0)) ∧
    h.peerBall = (t.questions.getLast?.bind Question.ball?).getD false ∧
    (t.writes.length ≤ 1 ∧ (t.adjustments = if h.handshake.isNegotiated then 1 else 0) ∧
      ∀ c : Call (LayoutLog σ),
        let u := Trace.ofCall c (h.perform c)
        let g := (h.perform c).session.half
        let current := SettingsStore.layoutWord c.store
        let mask := Layout.mask g.ownBall g.peerBall (side == .left)
        (mask.toBitVec.getLsbD 1 = (if side = .left then g.ownBall else g.peerBall) ∧
          mask.toBitVec.getLsbD 0 = (if side = .left then g.peerBall else g.ownBall)) ∧
        (∀ w ∈ u.writes, w.current = current ∧ w.word ≠ current ∧ w.word &&& 3 = mask ∧
          w.word &&& ~~~3 = current &&& ~~~3) ∧
        (u.adjustments ≠ 0 → u.writes = [] → current &&& 3 = mask) ∧
        (u.others ≠ [] → g.handshake.isNegotiated = true ∧ g.peerBall = true)) := by
  intro t h
  have ht : Tracks config side t h := tracks_after config side calls
  refine ⟨⟨?_, ht.spaced, ht.times_housekeeping⟩, ⟨ht.isNegotiated_iff, fun hn more => ?_⟩,
    ht.peerBall_eq, ht.adjustments_eq.1, ht.adjustments_eq.2, fun c => ?_⟩
  · rcases ht.phase with hw | hc
    · exact Nat.le_of_lt hw.few
    · exact hc.few
  · obtain ⟨hsame, hrest⟩ := after_of_isNegotiated ht.role hn more
    exact ⟨congrArg Standing.handshake hsame, congrArg Standing.peerBall hsame, hrest⟩
  · intro u g current mask
    have hturn : Turn h current g u := h.turn_of_perform c ht.role
    have hmask : g.layoutMask = mask := by
      unfold layoutMask isLeft
      rw [(ht.turn hturn).side]
    have hleft : (side == .left) = true ↔ side = .left := beq_iff_eq
    have hbits := Layout.getLsbD_mask g.ownBall g.peerBall (side == .left)
    simp only [hleft] at hbits
    refine ⟨hbits, fun w hw => ?_, fun hadjusted hwrites => ?_, ht.known hturn⟩
    · rw [← hmask]
      exact writes_of_turn hturn hw
    · rw [← hmask]
      exact layoutMask_of_unwritten hturn hadjusted hwrites

end Half

end TwinBall
