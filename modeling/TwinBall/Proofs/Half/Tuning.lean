import TwinBall.Proofs.Half.Turn

/-!
# One call and the resolution

A half owes its resolution to its sensor and to the other half: two flags say whether it has yet to
tell them.  `CpiTrace` is what calls show of the resolution: the registers that the sensor was asked
to set, the messages to the other half, and whether the resolution was set at all.

`Tuned` lists the four things that a call can do to the resolution together with what it shows of
them, and `tuned_of_perform` says that nothing else happens, whatever the operation, the store and
the answers of the sensor and of the link.
-/

namespace TwinBall

variable {σ : Type}

/-! ## What can be observed -/

structure CpiTrace where
  /-- The registers that the sensor was asked to set, each with whether it accepted. -/
  registers : List (UInt8 × Bool)
  /-- The messages about the resolution, each with whether it went out. -/
  messages : List (List UInt8 × Bool)
  /-- Whether the resolution was set. -/
  isSet : Bool

/-- Whether the key of an action sets the resolution. -/
def KeyAction.setsCpi : KeyAction → Bool
  | resetSettings | cpiUp | cpiDown | cpiUpFar | cpiDownFar => true
  | _ => false

/-- Whether a call sets the resolution, be it to the value that it has. -/
def Call.setsCpi [SettingsStore σ] (c : Call σ) : Bool :=
  match c.op with
  | .setCpi _ | .resetSettings | .applyRecord _ => true
  | .boot _ | .load => (SettingsStore.keyboardWord? c.store).isSome
  | .answer .cpi request _ => !request.isEmpty
  | .key e _ => c.policy.admits e && e.pressed && (KeyAction.ofCode? e.code).any (·.setsCpi)
  | _ => false

namespace CpiTrace

def empty : CpiTrace := ⟨[], [], false⟩

/-- One trace and then another. -/
def append (t u : CpiTrace) : CpiTrace :=
  ⟨t.registers ++ u.registers, t.messages ++ u.messages, t.isSet || u.isSet⟩

@[simp] theorem append_empty (t : CpiTrace) : t.append .empty = t := by
  simp [append, empty]

@[simp] theorem empty_append (t : CpiTrace) : CpiTrace.append .empty t = t := by
  simp [append, empty]

theorem append_assoc (t u v : CpiTrace) : (t.append u).append v = t.append (u.append v) := by
  simp [append, Bool.or_assoc]

/-- The last register that the sensor accepted. -/
def lastAccepted (t : CpiTrace) : Option UInt8 :=
  (t.registers.filter (·.2)).getLast?.map Prod.fst

/-- The last message that went out. -/
def lastSent (t : CpiTrace) : Option (List UInt8) :=
  (t.messages.filter (·.2)).getLast?.map Prod.fst

theorem lastAccepted_append_nil (t : CpiTrace) (messages : List (List UInt8 × Bool))
    (isSet : Bool) : (t.append ⟨[], messages, isSet⟩).lastAccepted = t.lastAccepted := by
  simp [append, lastAccepted]

theorem lastSent_append_nil (t : CpiTrace) (registers : List (UInt8 × Bool)) (isSet : Bool) :
    (t.append ⟨registers, [], isSet⟩).lastSent = t.lastSent := by
  simp [append, lastSent]

theorem lastAccepted_concat (t : CpiTrace) (register : UInt8) :
    (t.append ⟨[(register, true)], [], false⟩).lastAccepted = some register := by
  simp [append, lastAccepted]

theorem lastSent_concat (t : CpiTrace) (message : List UInt8) :
    (t.append ⟨[], [(message, true)], false⟩).lastSent = some message := by
  simp [append, lastSent]

theorem lastAccepted_append_eq_none {t u : CpiTrace} :
    (t.append u).lastAccepted = none ↔ t.lastAccepted = none ∧ u.lastAccepted = none := by
  simp [append, lastAccepted, and_comm]

theorem lastSent_append_eq_none {t u : CpiTrace} :
    (t.append u).lastSent = none ↔ t.lastSent = none ∧ u.lastSent = none := by
  simp [append, lastSent, and_comm]

/-- Whether the sensor refused a register. -/
def isRefused (t : CpiTrace) : Bool := t.registers.any (!·.2)

/-- Whether a message failed. -/
def isLost (t : CpiTrace) : Bool := t.messages.any (!·.2)

/-- The register that the sensor was asked to set, if it was. -/
def register? : SensorCall → Option UInt8
  | .setCpi register => some register
  | .readMotion => none

/-- The message about the resolution that an exchange is, if it is one. -/
def message? : LinkCall → Option (List UInt8 × Bool)
  | .send .cpi request outcome => some (request, outcome.isOk)
  | _ => none

/-- The registers that a poll asked the sensor to set, which answers all of them alike. -/
def registersOf : Op → Reply → List (UInt8 × Bool)
  | .poll cpi _, .polled _ calls => (calls.filterMap register?).map (·, cpi.isOk)
  | _, _ => []

def messagesOf : Reply → List (List UInt8 × Bool)
  | .exchanged calls => calls.filterMap message?
  | _ => []

end CpiTrace

namespace Half

variable [SettingsStore σ]

/-- What one call shows. -/
def shows (h : Half) (c : Call σ) : CpiTrace :=
  let o := h.perform c
  ⟨CpiTrace.registersOf c.op o.reply, CpiTrace.messagesOf o.reply, c.setsCpi⟩

/-- What calls show, one after the other. -/
def cpiTrace (h : Half) : List (Call σ) → CpiTrace
  | [] => .empty
  | c :: calls =>
    (h.shows c).append ((h.perform c).session.half.cpiTrace calls)

/-! ## One call -/

omit [SettingsStore σ]

/-- The part of a half that its resolution is about. -/
structure Tuning where
  config : Config
  ownBall : Bool
  cpiStored : UInt8
  cpiUnsent : Bool
  cpiUnapplied : Bool

def tuning (h : Half) : Tuning :=
  ⟨h.config, h.ownBall, h.cpiStored, h.cpiUnsent, h.cpiUnapplied⟩

/-- The half after it looked for its sensor, which it does when it boots. -/
def looked (h : Half) : Op → Half
  | .boot ball => { h with ownBall := ball, cpiUnapplied := ball }
  | _ => h

/-- What an operation can do to the resolution of a half, and what it shows of it. -/
inductive Tuned (h : Half) (op : Op) (g : Half) : CpiTrace → Prop
  /-- The resolution stays, and nobody is told. -/
  | rest (same : g.tuning = (h.looked op).tuning) : Tuned h op g ⟨[], [], false⟩
  /-- The resolution is set, and nobody is told. -/
  | set (v : UInt8) (same : g.tuning = ((h.looked op).setCpi v).tuning) :
      Tuned h op g ⟨[], [], true⟩
  /-- The sensor is told. -/
  | apply (ok : Bool) (ball : h.ownBall = true) (due : h.cpiUnapplied = true)
      (same : g.tuning = { h.tuning with cpiUnapplied := !ok }) :
      Tuned h op g ⟨[(h.cpiRegister, ok)], [], false⟩
  /-- The other half is told. -/
  | push (ok : Bool) (due : h.cpiUnsent = true)
      (same : g.tuning = { h.tuning with cpiUnsent := !ok }) :
      Tuned h op g ⟨[], [([h.cpiStored], ok)], false⟩

variable (h : Half)

theorem tuning_addCpi (delta : Int16) : ∃ v, (h.addCpi delta).tuning = (h.setCpi v).tuning :=
  ⟨_, rfl⟩

theorem tuning_setScrollDiv (v : UInt8) : (h.setScrollDiv v).tuning = h.tuning := rfl

theorem tuning_act (a : KeyAction) (now : UInt32) :
    if a.setsCpi then ∃ v, (h.act a now).tuning = (h.setCpi v).tuning
    else (h.act a now).tuning = h.tuning := by
  cases a with
  | resetSettings =>
    refine ⟨0, ?_⟩
    rw [act, resetSettings_eq]
    rfl
  | cpiUp => exact h.tuning_addCpi 1
  | cpiDown => exact h.tuning_addCpi (-1)
  | cpiUpFar => exact h.tuning_addCpi 10
  | cpiDownFar => exact h.tuning_addCpi (-10)
  | scrollDivUp | scrollDivDown => exact h.tuning_setScrollDiv _
  | _ => exact rfl

theorem hasFeature_of_setsCpi {a : KeyAction} (ha : a.setsCpi = true) : h.hasFeature a = true := by
  cases a with
  | autoMouseToggle | autoMouseLonger | autoMouseShorter => cases ha
  | snapVertical | snapHorizontal | snapFree => cases ha
  | _ => rfl

variable [SettingsStore σ]

/-- Every key but the one that scrolls while held acts on its press alone. -/
theorem half_dispatch (e : KeyEvent) (store : σ) (now : UInt32) {a : KeyAction}
    (haction : KeyAction.ofCode? e.code = some a) (hne : a ≠ .scrollHold) :
    (h.dispatch e store now).2.1 =
      if e.pressed && h.hasFeature a then h.act a now else h := by
  unfold dispatch
  rw [haction]
  cases a with
  | scrollHold => exact absurd rfl hne
  | _ => exact apply_ite (fun o : Bool × Half × σ => o.2.1) _ _ _

theorem tuning_key (policy : Policy) (e : KeyEvent) (store : σ) (now : UInt32) :
    if policy.admits e && e.pressed && (KeyAction.ofCode? e.code).any (·.setsCpi) then
      ∃ v, (h.key policy e store now).2.1.tuning = (h.setCpi v).tuning
    else (h.key policy e store now).2.1.tuning = h.tuning := by
  unfold key
  cases hadmits : policy.admits e with
  | false => exact rfl
  | true =>
    cases haction : KeyAction.ofCode? e.code with
    | none => simp [dispatch, haction, tuning, noteKey]
    | some a =>
      by_cases hhold : a = .scrollHold
      · subst hhold
        simp [dispatch, haction, KeyAction.setsCpi, tuning, noteKey, setScrolling]
      · have hact := (h.noteKey e).tuning_act a now
        simp only [if_true, half_dispatch _ e store now haction hhold, Bool.true_and,
          Option.any_some]
        by_cases hsets : a.setsCpi = true
        · rw [if_pos hsets] at hact
          simp only [hsets, hasFeature_of_setsCpi _ hsets, Bool.and_true]
          cases e.pressed with
          | false => exact rfl
          | true => exact hact
        · rw [if_neg hsets] at hact
          rw [if_neg (by simp [hsets])]
          split
          · exact hact
          · rfl

omit [SettingsStore σ] in
theorem tuning_applyRecord (r : SettingsRecord) :
    (h.applyRecord r).tuning = (h.setCpi r.cpi).tuning := by
  rw [applyRecord_eq]
  rfl

omit [SettingsStore σ] in
theorem tuning_answer {id : Transaction} (hid : id ≠ .cpi) (request : List UInt8) (room : Nat) :
    (h.answer id request room).half.tuning = h.tuning := by
  have hreplied := h.replied_answer id request room
  generalize h.answer id request room = a at hreplied ⊢
  cases hreplied with
  | refused id why => rfl
  | info fits => rfl
  | motion fits => rfl
  | cpi first rest names => exact absurd rfl hid

omit [SettingsStore σ] in
theorem tuning_loadWord (word : Option UInt32) :
    if word.isSome then ∃ v, (h.loadWord word).tuning = (h.setCpi v).tuning
    else (h.loadWord word).tuning = h.tuning := by
  cases word with
  | none => exact rfl
  | some word => exact ⟨_, h.tuning_applyRecord _⟩

omit [SettingsStore σ] in
theorem tuning_notePush (outcome : Except LinkError Unit) :
    (h.notePush outcome).tuning =
      { h.tuning with cpiUnsent := h.cpiUnsent && !outcome.isOk } := by
  cases outcome with
  | error e => simp [notePush, tuning, Except.isOk, Except.toBool]
  | ok _ => simp [notePush, tuning, Except.isOk, Except.toBool]

/-- A poll tells the sensor exactly when there is one and it has yet to be told. -/
theorem shows_poll (policy : Policy) (store : σ) (cpi : Except SensorError Unit)
    (motion : Except SensorError (Option Motion)) :
    let c : Call σ := ⟨policy, store, .poll cpi motion⟩
    h.shows c =
        ⟨if h.ownBall && h.cpiUnapplied then [(h.cpiRegister, cpi.isOk)] else [], [], false⟩ ∧
      (h.perform c).session.half.tuning =
        { h.tuning with cpiUnapplied := h.cpiUnapplied && !(h.ownBall && cpi.isOk) } ∧
      ∀ asked, (h.perform c).reply = .polled (.ok ()) asked →
        (h.ownBall && h.cpiUnapplied) = true → cpi.isOk = true := by
  intro c
  have hpolled := h.poll_cases ⟨cpi, motion, []⟩
  simp only [c, shows, perform, Session.step]
  generalize h.poll (ScriptedSensor.mk cpi motion []) = o at hpolled ⊢
  cases hpolled with
  | idle ball =>
    simp [CpiTrace.registersOf, CpiTrace.messagesOf, Call.setsCpi, ball, tuning]
  | refused e ball due refusal =>
    obtain rfl : cpi = .error e := refusal
    simp [CpiTrace.registersOf, CpiTrace.messagesOf, CpiTrace.register?, Call.setsCpi, ball, due,
      tuning, Except.isOk, Except.toBool]
  | read ball accepted own =>
    cases hdue : h.cpiUnapplied with
    | false =>
      simp [CpiTrace.registersOf, CpiTrace.messagesOf, CpiTrace.register?, Call.setsCpi, ball,
        tuning]
    | true =>
      obtain rfl : cpi = .ok () := accepted hdue
      simp [CpiTrace.registersOf, CpiTrace.messagesOf, CpiTrace.register?, Call.setsCpi, ball,
        tuning, Except.isOk, Except.toBool]

end Half

namespace Pass

variable {ℓ : Type} [PeerLink ℓ] (p : Pass ℓ σ) (now : UInt32)

theorem messages_negotiate [SettingsStore σ] :
    (p.negotiate now).calls.filterMap CpiTrace.message? =
      p.calls.filterMap CpiTrace.message? := by
  unfold negotiate
  split
  · simp [Half.calls_settle, CpiTrace.message?]
  · rfl

theorem messages_pullMotion :
    (p.pullMotion now).calls.filterMap CpiTrace.message? =
      p.calls.filterMap CpiTrace.message? := by
  unfold pullMotion
  split
  · simp [CpiTrace.message?]
  · rfl

/-- A push tells the other half if this is due, and notes whether the message went out. -/
theorem messages_pushCpi :
    ∃ ok : Bool, p.pushCpi.calls.filterMap CpiTrace.message? =
        p.calls.filterMap CpiTrace.message? ++
          (if p.half.isPushDue then [([p.half.cpiStored], ok)] else []) ∧
      p.pushCpi.half.tuning =
        { p.half.tuning with cpiUnsent := p.half.cpiUnsent && !(p.half.peerBall && ok) } := by
  unfold pushCpi
  by_cases hdue : p.half.isPushDue = true
  · have hball : p.half.peerBall = true := (Bool.and_eq_true_iff.mp hdue).1
    rw [if_pos hdue]
    refine ⟨(PeerLink.send p.link .cpi [p.half.cpiStored]).1.isOk, ?_, ?_⟩
    · simp [CpiTrace.message?, CpiUpdate.bytes, hdue]
    · rw [hball, Bool.true_and]
      exact Half.tuning_notePush _ _
  · rw [if_neg hdue]
    exact ⟨false, by simp [hdue], by simp [Half.tuning]⟩

end Pass

namespace Half

variable [SettingsStore σ] (h : Half)

/-- The periodic work of the half on USB tells the other half exactly when this has a ball and has
yet to be told. -/
theorem shows_housekeeping (hrole : h.role = .primary) (policy : Policy) (store : σ)
    (link : ScriptedLink) (now : UInt32) :
    let c : Call σ := ⟨policy, store, .housekeeping link now⟩
    let g := (h.perform c).session.half
    ∃ ok : Bool, h.shows c =
        ⟨[], if g.peerBall && h.cpiUnsent then [([h.cpiStored], ok)] else [], false⟩ ∧
      g.tuning = { h.tuning with cpiUnsent := h.cpiUnsent && !(g.peerBall && ok) } := by
  intro c g
  -- Only the push, which comes last, touches the resolution.
  let q := ((Pass.mk h link store [] []).negotiate now).pullMotion now
  have hpass : h.housekeeping link store now = q.pushCpi := by
    rw [housekeeping, if_pos hrole]
  have hg : g = q.pushCpi.half := congrArg Pass.half hpass
  have hshown : h.shows c =
      ⟨[], q.pushCpi.calls.filterMap CpiTrace.message?, false⟩ := by
    rw [← hpass]
    rfl
  have hsilent : q.calls.filterMap CpiTrace.message? = [] := by
    rw [Pass.messages_pullMotion, Pass.messages_negotiate]
    rfl
  have htuning : q.half.tuning = h.tuning := by
    obtain ⟨motion, time, hpull⟩ :=
      ((Pass.mk h link store [] []).negotiate now).pullMotion_frame now
    obtain ⟨handshake, ball, hask⟩ := (Pass.mk h link store [] []).negotiate_frame now
    simp only [q, hpull, hask]
    rfl
  have hball : q.half.peerBall = g.peerBall := by
    obtain ⟨unsent, hpush⟩ := q.pushCpi_frame
    rw [hg, hpush]
  have hstored : q.half.cpiStored = h.cpiStored := congrArg Tuning.cpiStored htuning
  have hunsent : q.half.cpiUnsent = h.cpiUnsent := congrArg Tuning.cpiUnsent htuning
  obtain ⟨ok, hmessages, hafter⟩ := q.messages_pushCpi
  rw [hsilent, List.nil_append, isPushDue, hball, hunsent, hstored] at hmessages
  rw [htuning, hball, hunsent] at hafter
  exact ⟨ok, hshown.trans (congrArg (CpiTrace.mk [] · false) hmessages), hg ▸ hafter⟩

/-- The half that is not on USB has no periodic work. -/
theorem perform_housekeeping_idle (hrole : h.role ≠ .primary) (policy : Policy) (store : σ)
    (link : ScriptedLink) (now : UInt32) :
    h.perform ⟨policy, store, .housekeeping link now⟩ = ⟨⟨h, store⟩, .exchanged [], []⟩ := by
  have hidle : h.housekeeping link store now = ⟨h, link, store, [], []⟩ := if_neg hrole
  simp only [perform, Session.step, hidle]

omit [SettingsStore σ] in
theorem Tuned.of_ite {h g : Half} {op : Op} {isSet : Bool}
    (hset : if isSet then ∃ v, g.tuning = ((h.looked op).setCpi v).tuning
      else g.tuning = (h.looked op).tuning) :
    Tuned h op g ⟨[], [], isSet⟩ := by
  cases isSet with
  | false => exact .rest hset
  | true =>
    obtain ⟨v, hv⟩ := hset
    exact .set v hv

omit [SettingsStore σ] in
theorem flag_of_not_due {ball flag : Bool} (ok : Bool) (hdue : ¬ (ball && flag) = true) :
    (flag && !(ball && ok)) = flag := by
  cases flag with
  | false => rfl
  | true =>
    have hball : ball = false := by simpa using hdue
    rw [hball]
    rfl

/-- **A call does one of the four things to the resolution.** -/
theorem tuned_of_perform (c : Call σ) :
    Tuned h c.op (h.perform c).session.half (h.shows c) := by
  obtain ⟨policy, store, op⟩ := c
  cases op with
  | boot ball =>
    exact .of_ite (tuning_loadWord _ (SettingsStore.keyboardWord? store))
  | load => exact .of_ite (h.tuning_loadWord (SettingsStore.keyboardWord? store))
  | key e now => exact .of_ite (h.tuning_key policy e store now)
  | setCpi v => exact .set v rfl
  | resetSettings => exact .of_ite (h.tuning_act .resetSettings 0)
  | applyRecord r => exact .set r.cpi (h.tuning_applyRecord r)
  | accumulate ball m =>
    obtain ⟨own, peer, heq⟩ := h.setMotion_frame ball ((h.motion ball).add m)
    refine .rest ?_
    change (h.setMotion ball _).tuning = h.tuning
    rw [heq]
    rfl
  | report r now =>
    obtain ⟨time, own, peer, tension, last, mouse, heq⟩ := h.makeReport_frame policy r now
    refine .rest ?_
    change (h.makeReport policy r now).half.tuning = h.tuning
    rw [heq]
    rfl
  | answer id request room =>
    cases id with
    | info =>
      have hne : Transaction.info ≠ .cpi := nofun
      exact .rest (h.tuning_answer hne request room)
    | motion =>
      have hne : Transaction.motion ≠ .cpi := nofun
      exact .rest (h.tuning_answer hne request room)
    | cpi =>
      cases request with
      | nil => exact .rest rfl
      | cons v request => exact .set v rfl
  | poll cpi motion =>
    obtain ⟨hshown, htuning, -⟩ := h.shows_poll policy store cpi motion
    rw [hshown]
    by_cases hdue : (h.ownBall && h.cpiUnapplied) = true
    · obtain ⟨hball, hunapplied⟩ := Bool.and_eq_true_iff.mp hdue
      rw [if_pos hdue]
      refine .apply cpi.isOk hball hunapplied ?_
      rw [htuning, hball, hunapplied, Bool.true_and, Bool.true_and]
    · rw [if_neg hdue]
      refine .rest ?_
      rw [htuning, flag_of_not_due _ hdue]
      rfl
  | housekeeping link now =>
    by_cases hrole : h.role = .primary
    · obtain ⟨ok, hshown, htuning⟩ := h.shows_housekeeping hrole policy store link now
      rw [hshown]
      split
      · next hdue =>
        obtain ⟨hball, hunsent⟩ := Bool.and_eq_true_iff.mp hdue
        refine .push ok hunsent ?_
        rw [htuning, hball, hunsent, Bool.true_and, Bool.true_and]
      · next hdue =>
        refine .rest ?_
        rw [htuning, flag_of_not_due _ hdue]
        rfl
    · rw [shows, h.perform_housekeeping_idle hrole policy store link now]
      exact .rest rfl
  | save =>
    cases hsave : h.save store with
    | ok t =>
      have hperform : h.perform ⟨policy, store, .save⟩ = ⟨⟨h, t⟩, .saved (.ok ()), []⟩ := by
        simp only [perform, Session.step, hsave]
      rw [shows, hperform]
      exact .rest rfl
    | error e =>
      have hperform : h.perform ⟨policy, store, .save⟩ = ⟨⟨h, store⟩, .saved (.error e), []⟩ := by
        simp only [perform, Session.step, hsave]
      rw [shows, hperform]
      exact .rest rfl
  | _ => exact .rest rfl

end Half

end TwinBall
