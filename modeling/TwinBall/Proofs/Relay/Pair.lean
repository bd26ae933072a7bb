import TwinBall.Pair
import TwinBall.Proofs.Relay.Accord

/-!
# A pair as two halves with messages on their way

In a pair the other half answers while the periodic work of the half on USB goes on.  An `Accord`
takes the two apart: the half on USB does its work over a link whose outcomes are given, and then
the other half answers, and the messages arrive.

What work does depends on the link only through the outcomes (`housekeeping_ofCalls`), and the peer
has served exactly the exchanges that did not fail (`served_housekeeping`).  So a pass of a pair is
a sequence of moves of an `Accord` (`accord_housekeeping`), a run of a pair is a run of it
(`exists_accord_run`), and what holds of all its runs holds of pairs
(`cpiStored_eq_or_unset_of_work`).
-/

namespace TwinBall

variable {σ : Type}

/-! ## Work over given outcomes -/

namespace LinkCall

/-- The outcome of a request, if an exchange is one. -/
def answer? : LinkCall → Option (Except LinkError (List UInt8))
  | exec _ _ _ outcome => some outcome
  | send _ _ _ => none

/-- The outcome of a message, if an exchange is one. -/
def sent? : LinkCall → Option (Except LinkError Unit)
  | exec _ _ _ _ => none
  | send _ _ outcome => some outcome

end LinkCall

/-- The link on which the exchanges come to what they came to. -/
def ScriptedLink.ofCalls (calls : List LinkCall) : ScriptedLink where
  answers := calls.filterMap LinkCall.answer?
  sends := calls.filterMap LinkCall.sent?

namespace Pass

variable {ℓ κ : Type}

/-- The same pass over another link. -/
def withLink (p : Pass ℓ σ) (link : κ) : Pass κ σ := ⟨p.half, link, p.store, p.calls, p.notices⟩

/-- A part of periodic work adds exchanges to a pass, and does the same to the pass over any link on
which they come to the same. -/
def ReplaysFrom [PeerLink ℓ] (part : (κ : Type) → [PeerLink κ] → Pass κ σ → Pass κ σ)
    (p : Pass ℓ σ) : Prop :=
  ∃ made, (part ℓ p).calls = p.calls ++ made ∧
    ∀ later, part _ (p.withLink (ScriptedLink.ofCalls (made ++ later))) =
      (part ℓ p).withLink (ScriptedLink.ofCalls later)

/-- A part of periodic work that sees nothing of a link but the outcomes. -/
def Replays (part : (κ : Type) → [PeerLink κ] → Pass κ σ → Pass κ σ) : Prop :=
  ∀ (ℓ : Type) [PeerLink ℓ] (p : Pass ℓ σ), p.ReplaysFrom part

variable {part more : (κ : Type) → [PeerLink κ] → Pass κ σ → Pass κ σ}

theorem Replays.comp (hpart : Replays part) (hmore : Replays more) :
    Replays fun κ _ p => more κ (part κ p) := by
  intro ℓ _ p
  obtain ⟨made, hcalls, hreplay⟩ := hpart ℓ p
  obtain ⟨made', hcalls', hreplay'⟩ := hmore ℓ (part ℓ p)
  refine ⟨made ++ made', ?_, fun later => ?_⟩
  · rw [hcalls', hcalls, List.append_assoc]
  · dsimp only
    rw [List.append_assoc, hreplay, hreplay']

/-- A part that is done only when it is due replays if it does so then. -/
theorem Replays.of_due (due : Half → Bool)
    (hdue : ∀ (ℓ : Type) [PeerLink ℓ] (p : Pass ℓ σ), due p.half = true → p.ReplaysFrom part)
    (hrest : ∀ (ℓ : Type) [PeerLink ℓ] (p : Pass ℓ σ), ¬ due p.half = true → part ℓ p = p) :
    Replays part := by
  intro ℓ _ p
  by_cases h : due p.half = true
  · exact hdue ℓ p h
  · refine ⟨[], ?_, fun later => ?_⟩
    · rw [hrest ℓ p h, List.append_nil]
    · rw [hrest ℓ p h, List.nil_append]
      exact hrest _ _ h

theorem replays_pullMotion (now : UInt32) : Replays fun κ _ (p : Pass κ σ) => p.pullMotion now := by
  refine Replays.of_due (·.isPullDue now) (fun ℓ _ p hdue => ?_) fun ℓ _ p hrest => if_neg hrest
  refine ⟨[.exec .motion [] Motion.size (PeerLink.exec p.link .motion [] Motion.size).1], ?_,
    fun later => ?_⟩
  · dsimp only
    rw [pullMotion, if_pos hdue]
  · dsimp only
    rw [pullMotion, pullMotion, if_pos hdue]
    exact if_pos hdue

theorem replays_pushCpi : Replays fun κ _ (p : Pass κ σ) => p.pushCpi := by
  refine Replays.of_due (·.isPushDue) (fun ℓ _ p hdue => ?_) fun ℓ _ p hrest => if_neg hrest
  refine ⟨[.send .cpi [p.half.cpiStored] (PeerLink.send p.link .cpi [p.half.cpiStored]).1], ?_,
    fun later => ?_⟩
  · dsimp only
    rw [pushCpi, if_pos hdue]
    rfl
  · dsimp only
    rw [pushCpi, pushCpi, if_pos hdue]
    exact if_pos hdue

variable [SettingsStore σ]

theorem settle_withLink (p : Pass ℓ σ) (link : κ) (answer : Option BallInfo) :
    (p.withLink link).settle answer = (p.settle answer).withLink link := by
  unfold settle writeLayout
  dsimp only [withLink]
  split
  · rfl
  · split
    · rfl
    · rfl

theorem negotiate_of_due [PeerLink ℓ] {p : Pass ℓ σ} {now : UInt32}
    (hdue : p.half.handshake.isDue now = true) :
    let asked := PeerLink.exec p.link .info [] BallInfo.size
    p.negotiate now =
      (Pass.mk { p.half with handshake := p.half.handshake.start now } asked.2 p.store
        (p.calls ++ [.exec .info [] BallInfo.size asked.1]) p.notices).settle
          (Half.readAnswer BallInfo.ofBytes BallInfo.size asked.1) :=
  if_pos hdue

theorem replays_negotiate (now : UInt32) : Replays fun κ _ (p : Pass κ σ) => p.negotiate now := by
  refine Replays.of_due (·.handshake.isDue now) (fun ℓ _ p hdue => ?_) fun ℓ _ p hrest =>
    if_neg hrest
  refine ⟨[.exec .info [] BallInfo.size (PeerLink.exec p.link .info [] BallInfo.size).1], ?_,
    fun later => ?_⟩
  · dsimp only
    rw [negotiate_of_due hdue]
    exact Half.calls_settle _ _
  · dsimp only
    rw [negotiate_of_due hdue, ← settle_withLink]
    exact negotiate_of_due hdue

end Pass

namespace Half

variable {ℓ : Type} [PeerLink ℓ] [SettingsStore σ]

/-- The outcomes are all that periodic work sees of a link. -/
theorem housekeeping_ofCalls (h : Half) (link : ℓ) (store : σ) (now : UInt32) :
    let p := h.housekeeping link store now
    h.housekeeping (ScriptedLink.ofCalls p.calls) store now =
      p.withLink (ScriptedLink.ofCalls []) := by
  intro p
  by_cases hrole : h.role = .primary
  · obtain ⟨made, hcalls, hreplay⟩ := ((Pass.replays_negotiate now).comp
      (Pass.replays_pullMotion now)).comp Pass.replays_pushCpi ℓ (Pass.mk h link store [] [])
    have hp : p = (((Pass.mk h link store [] []).negotiate now).pullMotion now).pushCpi :=
      if_pos hrole
    have hmade : p.calls = made := by
      rw [hp, hcalls]
      rfl
    have hall := hreplay []
    rw [List.append_nil] at hall
    rw [hmade, housekeeping, if_pos hrole, hp]
    exact hall
  · have hp : p = ⟨h, link, store, [], []⟩ := if_neg hrole
    rw [hp]
    exact if_neg hrole

end Half

/-! ## What the peer of a live link serves -/

namespace LinkCall

/-- An exchange of periodic work: requests are about anything but the resolution, and messages are
about the resolution. -/
def IsUsual : LinkCall → Prop
  | exec id _ _ _ => id ≠ .cpi
  | send id _ _ => id = .cpi

end LinkCall

/-- The half after it served an exchange, if the exchange did not fail. -/
def Half.serve (h : Half) : LinkCall → Half
  | .exec id request room (.ok _) => (h.answer id request room).half
  | .send id request (.ok _) => (h.answer id request 0).half
  | _ => h

namespace LiveLink

variable (l : LiveLink)

/-- A refused request changes nothing, so it does not matter that it is not served. -/
theorem exec_serves (id : Transaction) (request : List UInt8) (room : Nat) :
    let asked := PeerLink.exec l id request room
    asked.2.peer = l.peer.serve (.exec id request room asked.1) ∧ asked.2.isCut = l.isCut := by
  intro asked
  by_cases hcut : l.isCut = true
  · have hasked : asked = (.error .timeout, l) := if_pos hcut
    rw [hasked]
    exact ⟨rfl, rfl⟩
  · have hasked : asked = l.ask id request room := if_neg hcut
    rw [hasked]
    refine ⟨?_, rfl⟩
    change (l.peer.answer id request room).half =
      l.peer.serve (.exec id request room (l.peer.answer id request room).result)
    cases hresult : (l.peer.answer id request room).result with
    | ok bytes => rfl
    | error e => exact Half.half_answer_of_error hresult

/-- A message that names a resolution goes out unless the link is cut. -/
theorem send_serves (v : UInt8) :
    let sent := PeerLink.send l .cpi [v]
    sent.2.peer = l.peer.serve (.send .cpi [v] sent.1) ∧ sent.2.isCut = l.isCut ∧
      sent.1.isOk = !l.isCut := by
  intro sent
  by_cases hcut : l.isCut = true
  · have hsent : sent = (.error .busy, l) := if_pos hcut
    rw [hsent, hcut]
    exact ⟨rfl, rfl, rfl⟩
  · have hsent : sent = (.ok (), (l.ask .cpi [v] 0).2) := if_neg hcut
    rw [hsent, Bool.eq_false_iff.mpr hcut]
    exact ⟨rfl, Bool.eq_false_iff.mpr hcut, rfl⟩

end LiveLink

/-- What exchanges over a live link leave behind: the peer has served them, and if the link is not
cut, no message failed. -/
structure Served (peer : Half) (cut : Bool) (p : Pass LiveLink σ) : Prop where
  isCut : p.link.isCut = cut
  peer : p.link.peer = p.calls.foldl Half.serve peer
  usual : ∀ c ∈ p.calls, c.IsUsual
  held : cut = false → (p.calls.filterMap CpiTrace.message?).all (·.2) = true

namespace Served

variable {peer : Half} {cut : Bool} {p q : Pass LiveLink σ}

theorem exec (hs : Served peer cut p) (id : Transaction) (hid : id ≠ .cpi) (request : List UInt8)
    (room : Nat) (hlink : q.link = (PeerLink.exec p.link id request room).2)
    (hcalls : q.calls =
      p.calls ++ [.exec id request room (PeerLink.exec p.link id request room).1]) :
    Served peer cut q := by
  obtain ⟨hpeer, hcut⟩ := p.link.exec_serves id request room
  refine ⟨?_, ?_, ?_, fun hwhole => ?_⟩
  · rw [hlink, hcut, hs.isCut]
  · rw [hlink, hcalls, hpeer, List.foldl_append, ← hs.peer]
    rfl
  · rw [hcalls, List.forall_mem_append]
    exact ⟨hs.usual, List.forall_mem_singleton.mpr hid⟩
  · have hsilent : [LinkCall.exec id request room
        (PeerLink.exec p.link id request room).1].filterMap CpiTrace.message? = [] := rfl
    rw [hcalls, List.filterMap_append, hsilent, List.append_nil]
    exact hs.held hwhole

theorem send (hs : Served peer cut p) (v : UInt8)
    (hlink : q.link = (PeerLink.send p.link .cpi [v]).2)
    (hcalls : q.calls = p.calls ++ [.send .cpi [v] (PeerLink.send p.link .cpi [v]).1]) :
    Served peer cut q := by
  obtain ⟨hpeer, hcut, hok⟩ := p.link.send_serves v
  refine ⟨?_, ?_, ?_, fun hwhole => ?_⟩
  · rw [hlink, hcut, hs.isCut]
  · rw [hlink, hcalls, hpeer, List.foldl_append, ← hs.peer]
    rfl
  · rw [hcalls, List.forall_mem_append]
    exact ⟨hs.usual, List.forall_mem_singleton.mpr rfl⟩
  · rw [hcalls, List.filterMap_append, List.all_append, hs.held hwhole, Bool.true_and]
    rw [hs.isCut, hwhole] at hok
    simpa [CpiTrace.message?] using hok

theorem pullMotion (hs : Served peer cut p) (now : UInt32) :
    Served peer cut (p.pullMotion now) := by
  unfold Pass.pullMotion
  split
  · exact hs.exec .motion nofun [] Motion.size rfl rfl
  · exact hs

theorem pushCpi (hs : Served peer cut p) : Served peer cut p.pushCpi := by
  unfold Pass.pushCpi
  split
  · exact hs.send p.half.cpiStored rfl rfl
  · exact hs

theorem negotiate [SettingsStore σ] (hs : Served peer cut p) (now : UInt32) :
    Served peer cut (p.negotiate now) := by
  by_cases hdue : p.half.handshake.isDue now = true
  · rw [Pass.negotiate_of_due hdue]
    exact hs.exec .info nofun [] BallInfo.size (Half.link_settle _ _) (Half.calls_settle _ _)
  · rw [Pass.negotiate, if_neg hdue]
    exact hs

end Served

theorem served_housekeeping [SettingsStore σ] (h peer : Half) (notices : List Notice) (cut : Bool)
    (store : σ) (now : UInt32) :
    Served peer cut (h.housekeeping (LiveLink.mk peer notices cut) store now) := by
  have hstart : Served peer cut (Pass.mk h (LiveLink.mk peer notices cut) store [] []) :=
    ⟨rfl, rfl, nofun, fun _ => rfl⟩
  unfold Half.housekeeping
  dsimp only
  split
  · exact ((hstart.negotiate now).pullMotion now).pushCpi
  · exact hstart

/-! ## A pass of a pair as moves -/

variable [SettingsStore σ]

/-- What the other half has yet to do about an exchange: it answers a request, and a message
arrives.  Nothing comes of an exchange that failed. -/
def AccordMove.ofCall? (store : σ) : LinkCall → Option (AccordMove σ)
  | .exec .info request room (.ok _) =>
    some (.secondary ⟨.standard, store, .answer .info request room⟩ rfl)
  | .exec .motion request room (.ok _) =>
    some (.secondary ⟨.standard, store, .answer .motion request room⟩ rfl)
  | .send _ _ (.ok _) => some .deliver
  | _ => none

theorem AccordMove.any_setsCpi_ofCalls (store : σ) (calls : List LinkCall) :
    (calls.filterMap (ofCall? store)).any (·.setsCpi) = false := by
  rw [List.any_eq_false]
  intro m hm
  obtain ⟨c, -, hc⟩ := List.mem_filterMap.mp hm
  unfold ofCall? at hc
  split at hc
  case h_4 => cases hc
  all_goals
    cases hc
    exact Bool.false_ne_true

namespace Accord

/-- Once the other half has caught up with the exchanges, no message is on its way. -/
theorem run_ofCalls (store : σ) (h g : Half) {calls : List LinkCall}
    (husual : ∀ c ∈ calls, c.IsUsual) :
    (Accord.mk h g (CpiTrace.sent ⟨[], calls.filterMap CpiTrace.message?, false⟩)).run
      (calls.filterMap (AccordMove.ofCall? store)) = ⟨h, calls.foldl Half.serve g, []⟩ := by
  induction calls generalizing g with
  | nil => rfl
  | cons c calls ih =>
    obtain ⟨hc, hcalls⟩ := List.forall_mem_cons.mp husual
    cases c with
    | exec id request room outcome =>
      cases id with
      | cpi => exact absurd rfl hc
      | info | motion =>
        cases outcome with
        | error e => exact ih g hcalls
        | ok bytes => exact ih _ hcalls
    | send id request outcome =>
      obtain rfl : id = .cpi := hc
      cases outcome with
      | error e => exact ih g hcalls
      | ok done => exact ih _ hcalls

end Accord

/-- Only periodic work sends messages. -/
theorem Half.sent_of_other (h : Half) (policy : Policy) (store : σ) {op : Op}
    (other : ∀ link now, op ≠ .housekeeping link now) :
    (h.shows ⟨policy, store, op⟩).sent = [] := by
  cases op with
  | housekeeping link now => exact absurd rfl (other link now)
  | save =>
    cases hsave : h.save store with
    | ok t => simp [shows, perform, Session.step, hsave, CpiTrace.sent, CpiTrace.messagesOf]
    | error e => simp [shows, perform, Session.step, hsave, CpiTrace.sent, CpiTrace.messagesOf]
  | _ => rfl

/-- Something that happens to a pair whose second half is told its resolution by the first. -/
inductive PairMove (σ : Type) [SettingsStore σ]
  /-- The first half does anything but periodic work. -/
  | first (policy : Policy) (op : Op) (other : ∀ link now, op ≠ .housekeeping link now)
  /-- The second half does something that does not set its resolution, whatever is stored. -/
  | second (policy : Policy) (op : Op)
      (quiet : ∀ store : σ, (Call.mk policy store op).setsCpi = false)
  /-- The first half does its periodic work. -/
  | work (now : UInt32)
  /-- The link is cut or restored. -/
  | cut (on : Bool)

namespace Pair

/-- The two halves of a pair, with no message on its way. -/
def accord (p : Pair σ) : Accord := ⟨p.first.half, p.second.half, []⟩

/-- The periodic work of the first half. -/
def pass (p : Pair σ) (now : UInt32) : Pass LiveLink σ :=
  p.first.half.housekeeping (LiveLink.mk p.second.half [] p.isCut) p.first.store now

/-- The same work over a link on which all exchanges come to what they come to in the pair. -/
def work (p : Pair σ) (now : UInt32) : Call σ :=
  ⟨.standard, p.first.store, .housekeeping (ScriptedLink.ofCalls (p.pass now).calls) now⟩

/-- What the second half has yet to do about it. -/
def catchUp (p : Pair σ) (now : UInt32) : List (AccordMove σ) :=
  (p.pass now).calls.filterMap (AccordMove.ofCall? p.second.store)

theorem perform_work (p : Pair σ) (now : UInt32) :
    p.first.half.perform (p.work now) = ⟨⟨(p.pass now).half, (p.pass now).store⟩,
      .exchanged (p.pass now).calls, (p.pass now).notices⟩ := by
  have hreplay : p.first.half.housekeeping (ScriptedLink.ofCalls (p.pass now).calls)
      p.first.store now = (p.pass now).withLink (ScriptedLink.ofCalls []) :=
    p.first.half.housekeeping_ofCalls (LiveLink.mk p.second.half [] p.isCut) p.first.store now
  simp only [Half.perform, work, Session.step, hreplay]
  rfl

theorem shows_work (p : Pair σ) (now : UInt32) :
    p.first.half.shows (p.work now) =
      ⟨[], (p.pass now).calls.filterMap CpiTrace.message?, false⟩ := by
  rw [Half.shows, perform_work]
  rfl

theorem served_pass (p : Pair σ) (now : UInt32) : Served p.second.half p.isCut (p.pass now) :=
  served_housekeeping _ _ _ _ _ _

/-- **A pass of a pair is work over given outcomes, after which the other half catches up.** -/
theorem accord_housekeeping (p : Pair σ) (now : UInt32) :
    (p.housekeeping .first now).pair.accord =
      (p.accord.move (.primary (p.work now))).run (p.catchUp now) := by
  have hworked : p.accord.move (.primary (p.work now)) = ⟨(p.pass now).half, p.second.half,
      CpiTrace.sent ⟨[], (p.pass now).calls.filterMap CpiTrace.message?, false⟩⟩ := by
    rw [← shows_work]
    show Accord.mk (p.first.half.perform (p.work now)).session.half _ _ = _
    rw [perform_work]
    rfl
  rw [hworked, catchUp, Accord.run_ofCalls _ _ _ (p.served_pass now).usual,
    ← (p.served_pass now).peer]
  rfl

/-- The pair after a move. -/
def move (p : Pair σ) : PairMove σ → Pair σ
  | .first policy op _ => (p.step policy .first op).pair
  | .second policy op _ => (p.step policy .second op).pair
  | .work now => (p.housekeeping .first now).pair
  | .cut on => p.setCut on

/-- The pair after moves. -/
def run (p : Pair σ) (moves : List (PairMove σ)) : Pair σ := moves.foldl move p

theorem exists_accord_move (p : Pair σ) (m : PairMove σ) :
    ∃ moves : List (AccordMove σ), (p.move m).accord = p.accord.run moves := by
  cases m with
  | first policy op other =>
    refine ⟨[.primary ⟨policy, p.first.store, op⟩], ?_⟩
    have hsilent := p.first.half.sent_of_other policy p.first.store other
    exact congrArg (Accord.mk _ _) hsilent.symm
  | second policy op quiet => exact ⟨[.secondary ⟨policy, p.second.store, op⟩ (quiet _)], rfl⟩
  | work now => exact ⟨.primary (p.work now) :: p.catchUp now, p.accord_housekeeping now⟩
  | cut on => exact ⟨[], rfl⟩

/-- **A run of a pair is a run of two halves with messages on their way.** -/
theorem exists_accord_run (p : Pair σ) (moves : List (PairMove σ)) :
    ∃ others : List (AccordMove σ), (p.run moves).accord = p.accord.run others := by
  induction moves generalizing p with
  | nil => exact ⟨[], rfl⟩
  | cons m moves ih =>
    obtain ⟨one, hone⟩ := p.exists_accord_move m
    obtain ⟨others, hothers⟩ := ih (p.move m)
    exact ⟨one ++ others, by rw [Accord.run_append, ← hone, ← hothers]; rfl⟩

/-- **While the link holds, work brings the other half to the same resolution.**  Both halves of a
build boot, each with its own saved settings or none, and go through any moves.  After periodic work
over a link that is not cut, and if the second half is known to have a ball, both have the same
resolution, unless none was ever set on the first half: then this has the default, and the second
half still has what it booted with. -/
theorem cpiStored_eq_or_unset_of_work (config : Config) (side : Role → Side) (ball : Role → Bool)
    (store : Role → σ) (moves : List (PairMove σ)) (now : UInt32) :
    let boot (role : Role) : Session σ :=
      ⟨((Half.new config role (side role)).boot (ball role) (store role)).1, store role⟩
    let p := Pair.run ⟨boot .primary, boot .secondary, false⟩ moves
    let q := (p.housekeeping .first now).pair
    p.isCut = false → q.first.half.peerBall = true →
      q.second.half.cpiStored = q.first.half.cpiStored ∨
        q.first.half.cpiStored = 0 ∧
          q.second.half.cpiStored = (boot .secondary).half.cpiStored := by
  intro boot p q hwhole hball
  obtain ⟨others, hp⟩ := Pair.exists_accord_run ⟨boot .primary, boot .secondary, false⟩ moves
  have hstart := (Follows.boot config side ball store).run others
  have hbefore : Follows config (boot .secondary).half.cpiStored _ p.accord := hp ▸ hstart
  -- No message is lost, so after the work nothing is owed to the second half.
  have hlost : (p.first.half.shows (p.work now)).isLost = false := by
    have hheld := (p.served_pass now).held hwhole
    rw [shows_work, CpiTrace.isLost, List.any_eq_false]
    intro m hm
    simpa using List.all_eq_true.mp hheld m hm
  have hknown : (p.first.half.perform (p.work now)).session.half.peerBall = true := by
    rw [perform_work]
    exact hball
  have hpaid : (p.accord.move (.primary (p.work now))).primary.cpiUnsent = false :=
    (Half.cpiUnsent_housekeeping .standard p.first.store _ now hbefore.known hknown).trans hlost
  have hend := (hbefore.primary (p.work now)).run (p.catchUp now)
  have hunsent := Follows.silent_run hpaid (p.catchUp now) (AccordMove.any_setsCpi_ofCalls _ _)
  rw [← accord_housekeeping] at hend hunsent
  have hquiet := hend.quiet hunsent rfl
  split at hquiet
  · exact .inl hquiet
  · exact .inr hquiet

example :
    let store (role : Role) : MemoryStore :=
      { MemoryStore.empty with keyboard := if role = .primary then none else some 20 }
    let boot (role : Role) : Session MemoryStore :=
      ⟨((Half.new .default role .left).boot (role = .secondary) (store role)).1, store role⟩
    let p := Pair.run ⟨boot .primary, boot .secondary, false⟩
      [.work 500, .first .standard (.setCpi 12) nofun, .cut true, .work 504, .cut false]
    p.second.half.cpiStored = 20 ∧
      (p.housekeeping .first 508).pair.second.half.cpiStored = 12 := by
  decide

end Pair

end TwinBall
