import TwinBall.Proofs.Half.Ranges
import TwinBall.Proofs.Half.Resolution

/-!
# Both halves at one resolution

The half on USB tells the other half its resolution.  Between the two, messages that went out wait
until they are answered, in order; a message that failed never arrives.  `Follows` says what the
other half has come to once all of them have arrived: the last resolution that it was told, or the
one that it booted with.  Each move of a run keeps it.

From this comes `halves_agree_when_quiet`: once the link is quiet, the halves agree if a resolution
was ever set on the half on USB, be it by its saved settings.  A half on USB without saved settings
keeps its default to itself, and the other half goes on with the resolution that it had saved
(`apart_without_saved_settings`).
-/

namespace TwinBall

variable {σ : Type} [SettingsStore σ]

/-- The messages that went out. -/
def CpiTrace.sent (t : CpiTrace) : List (List UInt8) := (t.messages.filter (·.2)).map Prod.fst

namespace CpiTrace

variable (t u : CpiTrace)

theorem lastSent_eq : t.lastSent = t.sent.getLast? := by
  rw [lastSent, sent, List.getLast?_map]

theorem sent_append : (t.append u).sent = t.sent ++ u.sent := by
  simp [append, sent]

end CpiTrace

namespace Half

omit [SettingsStore σ]

/-- The half after a message about the resolution has arrived. -/
def tell (h : Half) (message : List UInt8) : Half := (h.answer .cpi message maxPayload).half

variable {g h : Half}

theorem tell_cons (h : Half) (v : UInt8) (others : List UInt8) :
    h.tell (v :: others) = h.setCpi v := rfl

theorem config_tell (h : Half) (message : List UInt8) : (h.tell message).config = h.config := by
  cases message with
  | nil => rfl
  | cons v others => rfl

theorem config_foldl_tell (messages : List (List UInt8)) (h : Half) :
    (messages.foldl tell h).config = h.config := by
  induction messages generalizing h with
  | nil => rfl
  | cons m messages ih => rw [List.foldl_cons, ih, config_tell]

/-- What a half makes of messages depends on its limit and its resolution alone. -/
theorem cpiStored_foldl_tell (messages : List (List UInt8)) (hconfig : g.config = h.config)
    (hstored : g.cpiStored = h.cpiStored) :
    (messages.foldl tell g).cpiStored = (messages.foldl tell h).cpiStored := by
  induction messages generalizing g h with
  | nil => exact hstored
  | cons m messages ih =>
    refine ih ?_ ?_
    · rw [config_tell, config_tell, hconfig]
    · cases m with
      | nil => exact hstored
      | cons v others =>
        show min v g.config.cpiMax = min v h.config.cpiMax
        rw [hconfig]

end Half

/-! ## The two halves -/

/-- The half on USB, the other half, and the messages on their way to it. -/
structure Accord where
  primary : Half
  secondary : Half
  pending : List (List UInt8)

/-- What can happen to the two halves.  The resolution of the other half is set by messages only. -/
inductive AccordMove (σ : Type) [SettingsStore σ]
  /-- The half on USB performs a call. -/
  | primary (c : Call σ)
  /-- The other half performs a call that does not set its resolution. -/
  | secondary (c : Call σ) (quiet : c.setsCpi = false)
  /-- The oldest message arrives. -/
  | deliver

namespace AccordMove

/-- Whether a move sets the resolution of the half on USB. -/
def setsCpi : AccordMove σ → Bool
  | primary c => c.setsCpi
  | secondary _ _ | deliver => false

end AccordMove

namespace Accord

/-- The two halves of a build when they have booted. -/
def boot (config : Config) (side : Role → Side) (ball : Role → Bool) (store : Role → σ) :
    Accord :=
  let booted (role : Role) : Half :=
    ((Half.new config role (side role)).boot (ball role) (store role)).1
  ⟨booted .primary, booted .secondary, []⟩

/-- The halves after a move. -/
def move (s : Accord) : AccordMove σ → Accord
  | .primary c =>
    { s with
      primary := (s.primary.perform c).session.half
      pending := s.pending ++ (s.primary.shows c).sent }
  | .secondary c _ => { s with secondary := (s.secondary.perform c).session.half }
  | .deliver =>
    match s.pending with
    | [] => s
    | m :: others => { s with secondary := s.secondary.tell m, pending := others }

/-- The halves after moves. -/
def run (s : Accord) (moves : List (AccordMove σ)) : Accord := moves.foldl move s

/-- What the half on USB shows of its resolution during a move. -/
def shows (s : Accord) : AccordMove σ → CpiTrace
  | .primary c => s.primary.shows c
  | .secondary _ _ | .deliver => .empty

/-- What it shows during moves. -/
def trace (s : Accord) : List (AccordMove σ) → CpiTrace
  | [] => .empty
  | m :: moves => (s.shows m).append ((s.move m).trace moves)

@[simp] theorem run_nil (s : Accord) : s.run ([] : List (AccordMove σ)) = s := rfl

@[simp] theorem run_cons (s : Accord) (m : AccordMove σ) (moves : List (AccordMove σ)) :
    s.run (m :: moves) = (s.move m).run moves := rfl

theorem run_append (s : Accord) (moves more : List (AccordMove σ)) :
    s.run (moves ++ more) = (s.run moves).run more :=
  List.foldl_append

theorem isSet_trace (s : Accord) (moves : List (AccordMove σ)) :
    (s.trace moves).isSet = moves.any (·.setsCpi) := by
  induction moves generalizing s with
  | nil => rfl
  | cons m moves ih =>
    have hshown : (s.shows m).isSet = m.setsCpi := by
      cases m with
      | _ => rfl
    rw [trace, List.any_cons, ← hshown, ← ih (s.move m)]
    rfl

omit [SettingsStore σ] in
/-- The other half once all messages have arrived. -/
def settled (s : Accord) : Half := s.pending.foldl Half.tell s.secondary

end Accord

/-! ## What a call of either half does -/

namespace Half

omit [SettingsStore σ]

section Tuned

variable {h g : Half} {op : Op} {u : CpiTrace}

theorem Tuned.stored (hturn : Tuned h op g u) (hset : u.isSet = false) :
    g.config = h.config ∧ g.cpiStored = h.cpiStored := by
  have hlooked : (h.looked op).config = h.config ∧ (h.looked op).cpiStored = h.cpiStored := by
    cases op with
    | _ => exact ⟨rfl, rfl⟩
  cases hturn with
  | rest same =>
    exact ⟨(congrArg Tuning.config same).trans hlooked.1,
      (congrArg Tuning.cpiStored same).trans hlooked.2⟩
  | set v same => cases hset
  | apply ok ball due same =>
    exact ⟨congrArg Tuning.config same, congrArg Tuning.cpiStored same⟩
  | push ok due same => exact ⟨congrArg Tuning.config same, congrArg Tuning.cpiStored same⟩

/-- A call sends the resolution of the half, if anything. -/
theorem Tuned.sent (hturn : Tuned h op g u) : u.sent = [] ∨ u.sent = [[h.cpiStored]] := by
  cases hturn with
  | rest same | set v same | apply ok ball due same => exact .inl rfl
  | push ok due same =>
    cases ok with
    | false => exact .inl rfl
    | true => exact .inr rfl

end Tuned

end Half

/-! ## What the other half has come to -/

/-- After the trace `t` of the half on USB: once all messages have arrived, the other half has the
last resolution that was sent to it, or the one that it booted with. -/
structure Follows (config : Config) (booted : UInt8) (t : CpiTrace) (s : Accord) : Prop where
  known : s.primary.Known
  told : s.primary.Told t
  inRange : s.primary.InRange config
  build : s.secondary.config = config
  settled : [s.settled.cpiStored] = t.lastSent.getD [booted]
  unset : t.isSet = false →
    s.primary.cpiStored = 0 ∧ s.primary.cpiUnsent = false ∧ t.sent = []

namespace Follows

variable {config : Config} {booted : UInt8} {t : CpiTrace} {s : Accord}

theorem boot (config : Config) (side : Role → Side) (ball : Role → Bool) (store : Role → σ) :
    let s := Accord.boot config side ball store
    let h := Half.new config .primary (side .primary)
    let c : Call σ := ⟨.standard, store .primary, .boot (ball .primary)⟩
    Follows config s.secondary.cpiStored (h.shows c) s := by
  intro s h c
  have hturn := h.tuned_of_perform c
  have htold : Half.Told (CpiTrace.empty.append (h.shows c)) (h.perform c).session.half :=
    (Half.told_new config .primary (side .primary)).tuned hturn
  rw [CpiTrace.empty_append] at htold
  refine ⟨(Half.keeps_perform (Half.known_new _ _ _) c).known, htold,
    (Half.inRange_new config _ _).perform c, ?_, rfl, fun hset => ⟨?_, ?_, rfl⟩⟩
  · exact ((Half.inRange_new config .secondary (side .secondary)).perform
      (⟨.standard, store .secondary, .boot (ball .secondary)⟩ : Call σ)).build
  · exact (hturn.stored hset).2
  · exact (hturn.silent hset rfl).2

/-- A call of the half on USB keeps it: a message that went out says what this half had. -/
theorem primary (hf : Follows config booted t s) (c : Call σ) :
    Follows config booted (t.append (s.primary.shows c)) (s.move (.primary c)) := by
  have hturn := s.primary.tuned_of_perform c
  have hsettled : (s.move (.primary c)).settled =
      (s.primary.shows c).sent.foldl Half.tell s.settled := List.foldl_append
  refine ⟨(Half.keeps_perform hf.known c).known, hf.told.tuned hturn, hf.inRange.perform c,
    hf.build, ?_, fun hset => ?_⟩
  · rw [hsettled, CpiTrace.lastSent_eq, CpiTrace.sent_append]
    rcases hturn.sent with hsent | hsent
    · rw [hsent, List.append_nil, ← CpiTrace.lastSent_eq]
      exact hf.settled
    · -- Both halves have the limit of the build, so the message is not clamped when it arrives.
      have hcap : s.primary.cpiStored ≤ s.settled.config.cpiMax := by
        rw [Accord.settled, Half.config_foldl_tell, hf.build]
        exact hf.inRange.cpi
      have htold : (s.settled.tell [s.primary.cpiStored]).cpiStored = s.primary.cpiStored := by
        rw [Half.tell_cons]
        exact if_pos hcap
      rw [hsent, List.getLast?_concat, List.foldl_cons, List.foldl_nil, htold]
      rfl
  · obtain ⟨hbefore, hnow⟩ := Bool.or_eq_false_iff.mp hset
    obtain ⟨hzero, hpaid, hsent⟩ := hf.unset hbefore
    obtain ⟨hmessages, hsilent⟩ := hturn.silent hnow hpaid
    refine ⟨(hturn.stored hnow).2.trans hzero, hsilent, ?_⟩
    rw [CpiTrace.sent_append, hsent, CpiTrace.sent, hmessages]
    rfl

/-- A call of the other half that does not set its resolution keeps it. -/
theorem secondary (hf : Follows config booted t s) (c : Call σ) (quiet : c.setsCpi = false) :
    Follows config booted t (s.move (.secondary c quiet)) := by
  obtain ⟨hconfig, hstored⟩ := (s.secondary.tuned_of_perform c).stored quiet
  refine { hf with build := hconfig.trans hf.build, settled := ?_ }
  rw [← hf.settled]
  exact congrArg ([·]) (Half.cpiStored_foldl_tell s.pending hconfig hstored)

theorem deliver (hf : Follows config booted t s) :
    Follows config booted t (s.move (.deliver : AccordMove σ)) := by
  obtain ⟨primary, secondary, pending⟩ := s
  cases pending with
  | nil => exact hf
  | cons m others =>
    exact { hf with
      build := (secondary.config_tell m).trans hf.build
      settled := hf.settled }

/-- **Each move keeps what the other half will have come to.** -/
theorem move (hf : Follows config booted t s) (m : AccordMove σ) :
    Follows config booted (t.append (s.shows m)) (s.move m) := by
  cases m with
  | primary c => exact hf.primary c
  | secondary c quiet =>
    rw [Accord.shows, CpiTrace.append_empty]
    exact hf.secondary c quiet
  | deliver =>
    rw [Accord.shows, CpiTrace.append_empty]
    exact hf.deliver

theorem run (hf : Follows config booted t s) (moves : List (AccordMove σ)) :
    Follows config booted (t.append (s.trace moves)) (s.run moves) := by
  induction moves generalizing t s with
  | nil =>
    rw [Accord.trace, CpiTrace.append_empty]
    exact hf
  | cons m moves ih =>
    rw [Accord.trace, ← CpiTrace.append_assoc]
    exact ih (hf.move m)

/-- Nothing is owed to the other half as long as the resolution is not set again. -/
theorem silent_run (hpaid : s.primary.cpiUnsent = false) (moves : List (AccordMove σ))
    (hset : moves.any (·.setsCpi) = false) : (s.run moves).primary.cpiUnsent = false := by
  induction moves generalizing s with
  | nil => exact hpaid
  | cons m moves ih =>
    rw [List.any_cons, Bool.or_eq_false_iff] at hset
    refine ih ?_ hset.2
    cases m with
    | primary c => exact ((s.primary.tuned_of_perform c).silent hset.1 hpaid).2
    | secondary c quiet => exact hpaid
    | deliver =>
      obtain ⟨primary, secondary, pending⟩ := s
      cases pending with
      | nil => exact hpaid
      | cons m others => exact hpaid

/-- Where nothing is owed and nothing on its way, the other half has the resolution of the half on
USB, unless none was ever set there. -/
theorem quiet (hf : Follows config booted t s) (hpaid : s.primary.cpiUnsent = false)
    (hpending : s.pending = []) :
    if t.isSet then s.secondary.cpiStored = s.primary.cpiStored
    else s.primary.cpiStored = 0 ∧ s.secondary.cpiStored = booted := by
  have harrived := hf.settled
  rw [Accord.settled, hpending, List.foldl_nil] at harrived
  split
  · next hset =>
    rcases hf.told.peer hpaid with hunset | hlast
    · exact absurd (hset.symm.trans hunset) (by decide)
    · rw [hlast] at harrived
      exact List.head_eq_of_cons_eq harrived
  · next hset =>
    obtain ⟨hzero, -, hsent⟩ := hf.unset (Bool.eq_false_iff.mpr hset)
    rw [CpiTrace.lastSent_eq, hsent] at harrived
    exact ⟨hzero, List.head_eq_of_cons_eq harrived⟩

end Follows

namespace Accord

/-- **Once the link is quiet, the halves agree on a resolution that was set.**  Both halves of a
build boot, each with its own saved settings or none, and go through any moves.  After periodic work
in which no message was lost and the peer is known to have a ball, as long as the resolution is not
set again on the half on USB, and when no message is on its way: if a resolution was ever set on the
half on USB, by saved settings or later, the other half has the same; otherwise the half on USB has
the default, and the other half still has what it booted with. -/
theorem halves_agree_when_quiet (config : Config) (side : Role → Side) (ball : Role → Bool)
    (store : Role → σ) (before after : List (AccordMove σ)) (policy : Policy) (saved : σ)
    (link : ScriptedLink) (now : UInt32) :
    let start := boot config side ball store
    let s := start.run before
    let c : Call σ := ⟨policy, saved, .housekeeping link now⟩
    let t := (s.move (.primary c)).run after
    let isSet := (SettingsStore.keyboardWord? (store .primary)).isSome || before.any (·.setsCpi)
    (s.primary.shows c).isLost = false → (s.move (.primary c)).primary.peerBall = true →
      after.any (·.setsCpi) = false → t.pending = [] →
      (isSet = true → t.secondary.cpiStored = t.primary.cpiStored) ∧
        (isSet = false → t.primary.cpiStored = 0 ∧
          t.secondary.cpiStored = start.secondary.cpiStored) := by
  intro start s c t isSet hlost hball hquiet hpending
  have hbefore := (Follows.boot config side ball store).run before
  have hpaid : (s.move (.primary c)).primary.cpiUnsent = false :=
    (Half.cpiUnsent_housekeeping policy saved link now hbefore.known hball).trans hlost
  have hend := (hbefore.move (.primary c)).run after
  -- Neither the periodic work nor what follows it sets the resolution.
  have hset : (((((Half.new config .primary (side .primary)).shows
      ⟨.standard, store .primary, .boot (ball .primary)⟩).append (start.trace before)).append
        (s.shows (.primary c))).append ((s.move (.primary c)).trace after)).isSet = isSet := by
    show (((SettingsStore.keyboardWord? (store .primary)).isSome || (start.trace before).isSet) ||
      false || ((s.move (.primary c)).trace after).isSet) = isSet
    rw [isSet_trace, isSet_trace, hquiet, Bool.or_false, Bool.or_false]
  have hagree := hend.quiet (Follows.silent_run hpaid after hquiet) hpending
  rw [hset] at hagree
  refine ⟨fun hyes => ?_, fun hno => ?_⟩
  · rwa [if_pos hyes] at hagree
  · rwa [hno] at hagree

/-- The half on USB boots without saved settings, is set to `12`, and loses the first message; the
other half boots with `20` saved, and comes to `12` when the second message arrives. -/
theorem halves_agree_when_quiet_after_loss :
    let store (role : Role) : MemoryStore :=
      { MemoryStore.empty with keyboard := if role = .primary then none else some 20 }
    let start := boot .default (fun _ => .left) (fun _ => true) store
    let before : List (AccordMove MemoryStore) :=
      [.primary ⟨.standard, .empty, .setCpi 12⟩,
        .primary ⟨.standard, .empty, .housekeeping ⟨[.ok [1]], [.error .busy]⟩ 500⟩]
    let s := start.run before
    let c : Call MemoryStore := ⟨.standard, .empty, .housekeeping ⟨[], []⟩ 504⟩
    let t := (s.move (.primary c)).run [(.deliver : AccordMove MemoryStore)]
    (s.primary.shows c).isLost = false ∧ (s.move (.primary c)).primary.peerBall = true ∧
      t.pending = [] ∧ start.secondary.cpiStored = 20 ∧ t.primary.cpiStored = 12 ∧
      t.secondary.cpiStored = 12 := by
  intro store start before s c t
  have hagree := halves_agree_when_quiet .default (fun _ => .left) (fun _ => true) store before
    [.deliver] .standard .empty ⟨[], []⟩ 504
  -- The abbreviations are written out on both sides, so that nothing is run to compare them.
  dsimp only at hagree
  dsimp only [t, s, c, start]
  have hsame := (hagree (by decide) (by decide) rfl (by decide)).1 (by decide)
  exact ⟨by decide, by decide, by decide, by decide, by decide, hsame.trans (by decide)⟩

/-- Without saved settings the half on USB keeps its default to itself: two passes of periodic work
send no message, none is on its way, and the other half goes on with the resolution that it had
saved. -/
theorem apart_without_saved_settings :
    let store (role : Role) : MemoryStore :=
      { MemoryStore.empty with keyboard := if role = .primary then none else some 20 }
    let start := boot .default (fun _ => .left) (fun role => role = .secondary) store
    let c (now : UInt32) : Call MemoryStore :=
      ⟨.standard, .empty, .housekeeping ⟨[.ok [1]], []⟩ now⟩
    let s := start.move (.primary (c 500))
    let t := s.move (.primary (c 1000))
    s.primary.peerBall = true ∧ (s.primary.shows (c 1000)).isLost = false ∧ t.pending = [] ∧
      t.primary.cpiStored = 0 ∧ t.secondary.cpiStored = 20 := by
  decide

end Accord

end TwinBall
