import TwinBall.Proofs.Half.Tuning

/-!
# Every resolution reaches the sensor and the other half

The flags of a half against what was really said: `Told` says that a half that owes nothing to its
sensor has its register there, and that a half that owes nothing to the other half has sent its
resolution or never set one.  Each of the four things that a call can do keeps it, so it holds after
any calls.

What is owed stays owed until it is accepted, and what was accepted is not said again until the
resolution is set anew.
-/

namespace TwinBall

variable {σ : Type} [SettingsStore σ]

namespace Half

/-- What the flags of a half say of what was shown so far. -/
structure Told (t : CpiTrace) (h : Half) : Prop where
  sensor : h.ownBall = true → h.cpiUnapplied = false → t.lastAccepted = some h.cpiRegister
  peer : h.cpiUnsent = false → t.isSet = false ∨ t.lastSent = some [h.cpiStored]

omit [SettingsStore σ] in
theorem told_new (config : Config) (role : Role) (side : Side) :
    Told .empty (.new config role side) :=
  ⟨nofun, fun _ => .inl rfl⟩

section Flags

variable {t u : CpiTrace} {op : Op} {h g : Half}

omit [SettingsStore σ]

theorem cpiRegister_congr (hconfig : g.config = h.config) (hstored : g.cpiStored = h.cpiStored) :
    g.cpiRegister = h.cpiRegister := by
  unfold cpiRegister cpi
  rw [hconfig, hstored]

theorem Told.of_tuning (ht : Told t h) (same : g.tuning = h.tuning) : Told t g := by
  have hball : g.ownBall = h.ownBall := congrArg Tuning.ownBall same
  have hstored : g.cpiStored = h.cpiStored := congrArg Tuning.cpiStored same
  have hunsent : g.cpiUnsent = h.cpiUnsent := congrArg Tuning.cpiUnsent same
  have hunapplied : g.cpiUnapplied = h.cpiUnapplied := congrArg Tuning.cpiUnapplied same
  have hregister : g.cpiRegister = h.cpiRegister :=
    cpiRegister_congr (congrArg Tuning.config same) hstored
  refine ⟨fun hg hdue => ?_, fun hdue => ?_⟩
  · rw [hregister]
    exact ht.sensor (hball ▸ hg) (hunapplied ▸ hdue)
  · rw [hstored]
    exact ht.peer (hunsent ▸ hdue)

/-- A half that has just looked for its sensor owes it the resolution if it found it. -/
theorem Told.looked (ht : Told t h) (op : Op) : Told t (h.looked op) := by
  cases op with
  | boot ball =>
    refine ⟨fun hball hdue => ?_, ht.peer⟩
    exact absurd (hball.symm.trans hdue) (by decide)
  | _ => exact ht

/-- **Each of the four things that a call can do keeps the flags right.** -/
theorem Told.tuned (ht : Told t h) (hturn : Tuned h op g u) : Told (t.append u) g := by
  cases hturn with
  | rest same =>
    rw [show t.append ⟨[], [], false⟩ = t from t.append_empty]
    exact (ht.looked op).of_tuning same
  | set v same =>
    have hunsent : g.cpiUnsent = true := congrArg Tuning.cpiUnsent same
    have hunapplied : g.cpiUnapplied = ((h.looked op).cpiUnapplied || (h.looked op).ownBall) :=
      congrArg Tuning.cpiUnapplied same
    have hball : g.ownBall = (h.looked op).ownBall := congrArg Tuning.ownBall same
    -- A resolution that was just set is owed to both, so both parts are vacuous.
    refine ⟨fun hg hdue => ?_, fun hdue => ?_⟩
    · rw [hunapplied, ← hball, hg, Bool.or_true] at hdue
      exact absurd hdue (by decide)
    · exact absurd (hunsent.symm.trans hdue) (by decide)
  | apply ok ball due same =>
    have hunapplied : g.cpiUnapplied = !ok := congrArg Tuning.cpiUnapplied same
    have hunsent : g.cpiUnsent = h.cpiUnsent := congrArg Tuning.cpiUnsent same
    have hstored : g.cpiStored = h.cpiStored := congrArg Tuning.cpiStored same
    refine ⟨fun hg hdue => ?_, fun hdue => ?_⟩
    · -- Nothing is owed after the call, so the sensor accepted.
      obtain rfl : ok = true := by simpa using hunapplied.symm.trans hdue
      rw [t.lastAccepted_concat]
      exact congrArg some (cpiRegister_congr (congrArg Tuning.config same) hstored).symm
    · rw [t.lastSent_append_nil, hstored]
      simpa [CpiTrace.append] using ht.peer (hunsent ▸ hdue)
  | push ok due same =>
    have hunapplied : g.cpiUnapplied = h.cpiUnapplied := congrArg Tuning.cpiUnapplied same
    have hunsent : g.cpiUnsent = !ok := congrArg Tuning.cpiUnsent same
    have hball : g.ownBall = h.ownBall := congrArg Tuning.ownBall same
    have hstored : g.cpiStored = h.cpiStored := congrArg Tuning.cpiStored same
    refine ⟨fun hg hdue => ?_, fun hdue => ?_⟩
    · rw [t.lastAccepted_append_nil, cpiRegister_congr (congrArg Tuning.config same) hstored]
      exact ht.sensor (hball ▸ hg) (hunapplied ▸ hdue)
    · -- Nothing is owed after the call, so the message went out.
      obtain rfl : ok = true := by simpa using hunsent.symm.trans hdue
      rw [t.lastSent_concat, hstored]
      exact .inr rfl

/-- What is owed to the sensor stays owed until the sensor accepts a register. -/
theorem Tuned.unapplied (hturn : Tuned h op g u) (hnone : u.lastAccepted = none)
    (howed : h.ownBall = true → h.cpiUnapplied = true) :
    g.ownBall = true → g.cpiUnapplied = true := by
  have hlooked : (h.looked op).ownBall = true → (h.looked op).cpiUnapplied = true := by
    cases op with
    | boot ball => exact id
    | _ => exact howed
  intro hg
  cases hturn with
  | rest same =>
    exact (congrArg Tuning.cpiUnapplied same).trans
      (hlooked ((congrArg Tuning.ownBall same).symm.trans hg))
  | set v same =>
    have hs : (h.looked op).ownBall = true := (congrArg Tuning.ownBall same).symm.trans hg
    have hunapplied : g.cpiUnapplied = ((h.looked op).cpiUnapplied || (h.looked op).ownBall) :=
      congrArg Tuning.cpiUnapplied same
    rw [hunapplied, hs, Bool.or_true]
  | apply ok ball due same =>
    cases ok with
    | false => exact congrArg Tuning.cpiUnapplied same
    | true => cases hnone
  | push ok due same =>
    exact (congrArg Tuning.cpiUnapplied same).trans
      (howed ((congrArg Tuning.ownBall same).symm.trans hg))

theorem cpiUnsent_looked (h : Half) (op : Op) : (h.looked op).cpiUnsent = h.cpiUnsent := by
  cases op with
  | _ => rfl

/-- What is owed to the other half stays owed until a message goes out. -/
theorem Tuned.unsent (hturn : Tuned h op g u) (hnone : u.lastSent = none)
    (howed : h.cpiUnsent = true) : g.cpiUnsent = true := by
  cases hturn with
  | rest same =>
    exact (congrArg Tuning.cpiUnsent same).trans ((h.cpiUnsent_looked op).trans howed)
  | set v same => exact congrArg Tuning.cpiUnsent same
  | apply ok ball due same => exact (congrArg Tuning.cpiUnsent same).trans howed
  | push ok due same =>
    cases ok with
    | false => exact congrArg Tuning.cpiUnsent same
    | true => cases hnone

/-- Nothing is sent while nothing is owed to the other half and the resolution is not set. -/
theorem Tuned.silent (hturn : Tuned h op g u) (hset : u.isSet = false)
    (howed : h.cpiUnsent = false) : u.messages = [] ∧ g.cpiUnsent = false := by
  cases hturn with
  | rest same =>
    exact ⟨rfl, (congrArg Tuning.cpiUnsent same).trans ((h.cpiUnsent_looked op).trans howed)⟩
  | set v same => cases hset
  | apply ok ball due same => exact ⟨rfl, (congrArg Tuning.cpiUnsent same).trans howed⟩
  | push ok due same => exact absurd (due.symm.trans howed) (by decide)

end Flags

/-! ## Any calls -/

section Calls

variable {t : CpiTrace} {h : Half}

theorem Told.after (ht : Told t h) (calls : List (Call σ)) :
    Told (t.append (h.cpiTrace calls)) (h.after calls) := by
  induction calls generalizing t h with
  | nil =>
    rw [cpiTrace, CpiTrace.append_empty]
    exact ht
  | cons c calls ih =>
    rw [cpiTrace, ← CpiTrace.append_assoc]
    exact ih (ht.tuned (h.tuned_of_perform c))

theorem unapplied_after (calls : List (Call σ)) (hnone : (h.cpiTrace calls).lastAccepted = none)
    (howed : h.ownBall = true → h.cpiUnapplied = true) :
    (h.after calls).ownBall = true → (h.after calls).cpiUnapplied = true := by
  induction calls generalizing h with
  | nil => exact howed
  | cons c calls ih =>
    obtain ⟨hcall, hcalls⟩ := CpiTrace.lastAccepted_append_eq_none.mp hnone
    exact ih hcalls ((h.tuned_of_perform c).unapplied hcall howed)

theorem unsent_after (calls : List (Call σ)) (hnone : (h.cpiTrace calls).lastSent = none)
    (howed : h.cpiUnsent = true) : (h.after calls).cpiUnsent = true := by
  induction calls generalizing h with
  | nil => exact howed
  | cons c calls ih =>
    obtain ⟨hcall, hcalls⟩ := CpiTrace.lastSent_append_eq_none.mp hnone
    exact ih hcalls ((h.tuned_of_perform c).unsent hcall howed)

theorem silent_after (calls : List (Call σ)) (hset : (h.cpiTrace calls).isSet = false)
    (howed : h.cpiUnsent = false) : (h.cpiTrace calls).messages = [] := by
  induction calls generalizing h with
  | nil => rfl
  | cons c calls ih =>
    obtain ⟨hcall, hcalls⟩ := Bool.or_eq_false_iff.mp hset
    obtain ⟨hmessages, hsent⟩ := (h.tuned_of_perform c).silent hcall howed
    exact List.append_eq_nil_iff.mpr ⟨hmessages, ih hcalls hsent⟩

end Calls

/-! ## A peer with a ball keeps it -/

/-- A peer is known to have a ball only by the half on USB, and only once the handshake has
settled. -/
def Known (h : Half) : Prop :=
  h.peerBall = true → h.role = .primary ∧ h.handshake.isNegotiated = true

/-- From `h` to `g` a ball of the other half is not forgotten. -/
structure Keeps (h g : Half) : Prop where
  known : Known g
  ball : h.peerBall = true → g.peerBall = true

omit [SettingsStore σ] in
theorem Keeps.of_standing {h g : Half} (hknown : Known h) (same : g.standing = h.standing) :
    Keeps h g := by
  have hrole : g.role = h.role := congrArg Standing.role same
  have hshake : g.handshake = h.handshake := congrArg Standing.handshake same
  have hball : g.peerBall = h.peerBall := congrArg Standing.peerBall same
  refine ⟨fun hg => ?_, fun hh => hball.trans hh⟩
  rw [hrole, hshake]
  exact hknown (hball ▸ hg)

theorem keeps_settle {ℓ : Type} {p : Pass ℓ σ} (hrole : p.half.role = .primary)
    (hball : p.half.peerBall = false) (answer : Option BallInfo) :
    Known (p.settle answer).half := by
  cases hverdict : p.half.handshake.verdict (answer.map BallInfo.hasBall) with
  | none =>
    rw [settle_of_none hverdict]
    intro hg
    exact absurd (hball.symm.trans hg) (by decide)
  | some ball =>
    rw [settle_of_some hverdict]
    intro _
    unfold Pass.writeLayout
    split
    · exact ⟨hrole, rfl⟩
    · exact ⟨hrole, rfl⟩

theorem keeps_negotiate {ℓ : Type} [PeerLink ℓ] {p : Pass ℓ σ} (hrole : p.half.role = .primary)
    (hknown : Known p.half) (now : UInt32) : Keeps p.half (p.negotiate now).half := by
  unfold Pass.negotiate
  split
  · next hdue =>
    -- A question is sent only before the handshake has settled, so no ball is known of.
    have hball : p.half.peerBall = false := by
      refine Bool.eq_false_iff.mpr fun hball => ?_
      have hopen := (Handshake.isDue_iff.mp hdue).1
      exact absurd ((hknown hball).2.symm.trans hopen) (by decide)
    refine ⟨keeps_settle ?_ ?_ _, fun hh => ?_⟩
    · exact hrole
    · exact hball
    · exact absurd (hball.symm.trans hh) (by decide)
  · exact ⟨hknown, id⟩

theorem keeps_housekeeping {ℓ : Type} [PeerLink ℓ] {h : Half} (hknown : Known h) (link : ℓ)
    (store : σ) (now : UInt32) : Keeps h (h.housekeeping link store now).half := by
  unfold housekeeping
  dsimp only
  split
  · next hrole =>
    -- Only the handshake can change what is known of the ball.
    have hasked := keeps_negotiate (p := ⟨h, link, store, [], []⟩) hrole hknown now
    have hrest := (upkeep_pullMotion ((Pass.mk h link store [] []).negotiate now) now).trans
      (upkeep_pushCpi _)
    have hkept := Keeps.of_standing hasked.known hrest.standing
    exact ⟨hkept.known, hkept.ball ∘ hasked.ball⟩
  · exact ⟨hknown, id⟩

theorem keeps_perform {h : Half} (hknown : Known h) (c : Call σ) :
    Keeps h (h.perform c).session.half := by
  obtain ⟨policy, store, op⟩ := c
  cases op with
  | housekeeping link now => exact keeps_housekeeping hknown link store now
  | boot ball => exact .of_standing hknown (standing_loadWord _ _)
  | accumulate ball m => exact .of_standing hknown (standing_setMotion _ _ _)
  | poll cpi motion => exact .of_standing hknown (standing_poll _ _)
  | report r now => exact .of_standing hknown (standing_makeReport _ _ _ _)
  | answer id request room => exact .of_standing hknown (standing_answer _ _ _ _)
  | resetSettings => exact .of_standing hknown (standing_resetSettings _)
  | applyRecord r => exact .of_standing hknown (standing_applyRecord _ _)
  | key e now => exact .of_standing hknown (standing_key _ _ _ _ _)
  | load => exact .of_standing hknown (standing_loadWord _ _)
  | save =>
    cases hsave : h.save store with
    | ok t => simpa only [perform, Session.step, hsave] using Keeps.of_standing hknown rfl
    | error e => simpa only [perform, Session.step, hsave] using Keeps.of_standing hknown rfl
  | _ => exact .of_standing hknown rfl

theorem keeps_after {h : Half} (hknown : Known h) (calls : List (Call σ)) :
    Keeps h (h.after calls) := by
  induction calls generalizing h with
  | nil => exact ⟨hknown, id⟩
  | cons c calls ih =>
    have hcall := keeps_perform hknown c
    have hcalls := ih hcall.known
    exact ⟨hcalls.known, hcalls.ball ∘ hcall.ball⟩

/-! ## One poll -/

section Poll

variable {h : Half} (policy : Policy) (store : σ) (cpi : Except SensorError Unit)
  (motion : Except SensorError (Option Motion))

theorem isRefused_of_polled_ok {asked : List SensorCall}
    (hreply : (h.perform ⟨policy, store, .poll cpi motion⟩).reply = .polled (.ok ()) asked) :
    (h.shows ⟨policy, store, .poll cpi motion⟩).isRefused = false := by
  obtain ⟨hshown, -, hok⟩ := h.shows_poll policy store cpi motion
  rw [hshown]
  cases hdue : h.ownBall && h.cpiUnapplied with
  | false => rfl
  | true => simp [CpiTrace.isRefused, hok asked hreply hdue]

/-- A poll that is refused leaves the resolution owed, and any other one pays it. -/
theorem cpiUnapplied_poll
    (hball : (h.perform ⟨policy, store, .poll cpi motion⟩).session.half.ownBall = true) :
    (h.perform ⟨policy, store, .poll cpi motion⟩).session.half.cpiUnapplied =
      (h.shows ⟨policy, store, .poll cpi motion⟩).isRefused := by
  obtain ⟨hshown, htuning, -⟩ := h.shows_poll policy store cpi motion
  have hown : h.ownBall = true := (congrArg Tuning.ownBall htuning).symm.trans hball
  have hunapplied := congrArg Tuning.cpiUnapplied htuning
  rw [hown, Bool.true_and] at hunapplied
  rw [hshown, hown, Bool.true_and]
  refine hunapplied.trans ?_
  cases h.cpiUnapplied with
  | false => rfl
  | true => simp [CpiTrace.isRefused]

theorem registers_poll (hball : h.ownBall = true) (hdue : h.cpiUnapplied = true) :
    (h.shows ⟨policy, store, .poll cpi motion⟩).registers =
      [(h.cpiRegister, cpi.isOk)] := by
  rw [(h.shows_poll policy store cpi motion).1, hball, hdue]
  rfl

end Poll

/-! ## One pass of periodic work -/

section Housekeeping

variable {h : Half} (policy : Policy) (store : σ) (link : ScriptedLink) (now : UInt32)

/-- A message that is lost leaves the resolution owed to a peer with a ball, and where none is lost,
nothing is owed to it. -/
theorem cpiUnsent_housekeeping (hknown : Known h)
    (hball : (h.perform ⟨policy, store, .housekeeping link now⟩).session.half.peerBall = true) :
    (h.perform ⟨policy, store, .housekeeping link now⟩).session.half.cpiUnsent =
      (h.shows ⟨policy, store, .housekeeping link now⟩).isLost := by
  by_cases hrole : h.role = .primary
  · obtain ⟨ok, hshown, htuning⟩ := h.shows_housekeeping hrole policy store link now
    have hunsent := congrArg Tuning.cpiUnsent htuning
    rw [hball, Bool.true_and] at hunsent
    rw [hshown, hball, Bool.true_and]
    refine hunsent.trans ?_
    cases h.cpiUnsent with
    | false => rfl
    | true => simp [CpiTrace.isLost]
  · rw [h.perform_housekeeping_idle hrole] at hball
    exact absurd (hknown hball).1 hrole

/-- Messages go to a peer with a ball only. -/
theorem peerBall_of_messages
    (hne : (h.shows ⟨policy, store, .housekeeping link now⟩).messages ≠ []) :
    (h.perform ⟨policy, store, .housekeeping link now⟩).session.half.peerBall = true := by
  by_cases hrole : h.role = .primary
  · obtain ⟨ok, hshown, -⟩ := h.shows_housekeeping hrole policy store link now
    rw [hshown] at hne
    cases hball : (h.perform ⟨policy, store, .housekeeping link now⟩).session.half.peerBall with
    | true => rfl
    | false => simp [hball] at hne
  · rw [shows, h.perform_housekeeping_idle hrole] at hne
    exact absurd rfl hne

theorem messages_housekeeping (hknown : Known h) (hball : h.peerBall = true)
    (hdue : h.cpiUnsent = true) :
    (h.shows ⟨policy, store, .housekeeping link now⟩).messages.map
      Prod.fst = [[h.cpiStored]] := by
  obtain ⟨ok, hshown, -⟩ := h.shows_housekeeping (hknown hball).1 policy store link now
  have hkept := (keeps_perform hknown ⟨policy, store, .housekeeping link now⟩).ball hball
  rw [hshown, hkept, hdue]
  rfl

end Housekeeping

/-! ## The law of both flags -/

omit [SettingsStore σ] in
theorem known_new (config : Config) (role : Role) (side : Side) :
    Known (.new config role side) :=
  nofun

/-- **No resolution is lost.**  After any calls: a poll in which the sensor refuses nothing leaves
it with the register of the half, and what it refused it is asked again, with the register that is
due then; periodic work in which no message fails leaves the other half with the resolution, unless
none was ever set, a message that failed is repeated, and one that went out is not, until the
resolution is set again. -/
theorem cpi_reaches_sensor_and_peer (config : Config) (role : Role) (side : Side)
    (calls : List (Call σ)) :
    let h := (Half.new config role side).after calls
    let t := (Half.new config role side).cpiTrace calls
    (∀ policy store cpi motion,
      let c : Call σ := ⟨policy, store, .poll cpi motion⟩
      let g := (h.perform c).session.half
      let u := h.shows c
      ((∃ asked, (h.perform c).reply = .polled (.ok ()) asked) → u.isRefused = false) ∧
      (u.isRefused = false → g.ownBall = true →
        (t.append u).lastAccepted = some g.cpiRegister) ∧
      (u.isRefused = true → ∀ more : List (Call σ), (g.cpiTrace more).lastAccepted = none →
        (g.after more).ownBall = true → ∀ policy store cpi motion,
          let again : Call σ := ⟨policy, store, .poll cpi motion⟩
          ((g.after more).shows again).registers =
            [((g.after more).cpiRegister, cpi.isOk)])) ∧
    (∀ policy store link now,
      let c : Call σ := ⟨policy, store, .housekeeping link now⟩
      let g := (h.perform c).session.half
      let u := h.shows c
      (u.isLost = false → g.peerBall = true →
        (t.append u).isSet = false ∨ (t.append u).lastSent = some [g.cpiStored]) ∧
      (u.isLost = true → ∀ more : List (Call σ), (g.cpiTrace more).lastSent = none →
        ∀ policy store link now,
          let again : Call σ := ⟨policy, store, .housekeeping link now⟩
          ((g.after more).shows again).messages.map Prod.fst =
            [[(g.after more).cpiStored]]) ∧
      (u.isLost = false → u.messages ≠ [] → ∀ more : List (Call σ),
        (g.cpiTrace more).isSet = false → (g.cpiTrace more).messages = [])) := by
  intro h t
  have ht : Told t h := by
    have htold := (told_new config role side).after calls
    rwa [CpiTrace.empty_append] at htold
  have hknown : Known h := (keeps_after (known_new config role side) calls).known
  constructor
  · intro policy store cpi motion c g u
    have htold : Told (t.append u) g := ht.tuned (h.tuned_of_perform c)
    refine ⟨?_, fun hnone hball => ?_, fun hrefused more hmore hball => ?_⟩
    · rintro ⟨asked, hreply⟩
      exact isRefused_of_polled_ok policy store cpi motion hreply
    · exact htold.sensor hball ((cpiUnapplied_poll policy store cpi motion hball).trans hnone)
    · have howed : g.ownBall = true → g.cpiUnapplied = true := fun hg =>
        (cpiUnapplied_poll policy store cpi motion hg).trans hrefused
      intro policy store cpi motion
      exact registers_poll policy store cpi motion hball (unapplied_after more hmore howed hball)
  · intro policy store link now c g u
    have htold : Told (t.append u) g := ht.tuned (h.tuned_of_perform c)
    have hg : Known g := (keeps_perform hknown c).known
    refine ⟨fun hnone hball => ?_, fun hlost more hmore => ?_, fun hnone hne more hmore => ?_⟩
    · exact htold.peer ((cpiUnsent_housekeeping policy store link now hknown hball).trans hnone)
    · -- A message was tried, so the other half is known to have a ball.
      have hball : g.peerBall = true := by
        refine peerBall_of_messages policy store link now fun hnil => ?_
        rw [CpiTrace.isLost, hnil] at hlost
        exact absurd hlost (by decide)
      have howed : g.cpiUnsent = true :=
        (cpiUnsent_housekeeping policy store link now hknown hball).trans hlost
      have hkept := keeps_after hg more
      intro policy store link now
      exact messages_housekeeping policy store link now hkept.known (hkept.ball hball)
        (unsent_after more hmore howed)
    · have hball : g.peerBall = true := peerBall_of_messages policy store link now hne
      have hpaid : g.cpiUnsent = false :=
        (cpiUnsent_housekeeping policy store link now hknown hball).trans hnone
      exact silent_after more hmore hpaid

end Half

end TwinBall
