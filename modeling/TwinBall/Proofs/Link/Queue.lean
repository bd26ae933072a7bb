import TwinBall.Proofs.Link.Receiver

/-!
# The queue of received frames

The receiver offers frames to a queue of four, and whoever waits for a frame takes the oldest one.
In whatever order this happens, what is taken and what is still queued is what was offered, in
order, without the frames that found the queue full (`reads_append_queue`).

The operations of a link touch the queue in no other way: each comes down to events of the line and
reads (`leads_exec`, `leads_send`, `leads_receiveRequest`).
-/

namespace TwinBall

/-- Something that happens at the receiving end of a link. -/
inductive LinkStep
  /-- The receiver takes in an event of the line. -/
  | line (e : LineEvent)
  /-- A reader takes the oldest frame, if there is one. -/
  | read
  deriving DecidableEq, Repr

/-- The event of the line that a step takes in. -/
def LinkStep.event? : LinkStep → Option LineEvent
  | .line e => some e
  | .read => none

/-- A frame that the receiver completes, and the number of frames that are queued at that moment. -/
structure Offer where
  frame : Frame
  queued : Nat
  deriving DecidableEq, Repr

namespace SerialLink

variable (l : SerialLink)

/-- The link after a step. -/
def act : LinkStep → SerialLink
  | .line e => l.receive e
  | .read => { l with queue := l.queue.tail }

/-- The link after steps. -/
def actAll (steps : List LinkStep) : SerialLink := steps.foldl act l

/-- The frames that the receiver offers to the queue. -/
def offers (l : SerialLink) : List LinkStep → List Offer
  | [] => []
  | .line e :: steps =>
    (l.parser.receive e).2.toList.map (⟨·, l.queue.length⟩) ++ (l.receive e).offers steps
  | .read :: steps => (l.act .read).offers steps

/-- The frames that readers take from the queue. -/
def reads (l : SerialLink) : List LinkStep → List Frame
  | [] => []
  | .line e :: steps => (l.receive e).reads steps
  | .read :: steps => l.queue.head?.toList ++ (l.act .read).reads steps

/-! ## One event -/

theorem receive_eq (e : LineEvent) :
    l.receive e =
      ⟨(l.parser.receive e).1,
        l.queue ++ (l.parser.receive e).2.toList.take (queueCapacity - l.queue.length)⟩ := by
  unfold receive
  rcases l.parser.receive e with ⟨p, offered⟩
  cases offered with
  | none => simp
  | some f =>
    simp only [offer, Option.toList_some]
    split
    · next hroom => rw [List.take_of_length_le (by simp; omega)]
    · next hfull => simp [Nat.sub_eq_zero_of_le (Nat.le_of_not_lt hfull)]

theorem length_queue_act (hl : l.queue.length ≤ queueCapacity) (step : LinkStep) :
    (l.act step).queue.length ≤ queueCapacity := by
  cases step with
  | line e =>
    rw [act, receive_eq, List.length_append, List.length_take]
    omega
  | read =>
    rw [act, List.length_tail]
    omega

/-- A frame joins the queue if it does not find four in it. -/
theorem frames_of_room {queued : Nat} (hle : queued ≤ queueCapacity) (offered : List Frame)
    (hone : offered.length ≤ 1) :
    ((offered.map (Offer.mk · queued)).filter (·.queued != queueCapacity)).map Offer.frame =
      offered.take (queueCapacity - queued) := by
  by_cases hfull : queued = queueCapacity
  · simp [hfull]
  · rw [List.take_of_length_le (by omega), List.filter_eq_self.mpr (by simp [hfull]), List.map_map]
    exact List.map_id offered

/-! ## Any order of events and reads -/

theorem map_frame_offers (steps : List LinkStep) :
    (l.offers steps).map Offer.frame = l.parser.offers (steps.filterMap LinkStep.event?) := by
  induction steps generalizing l with
  | nil => rfl
  | cons step steps ih =>
    cases step with
    | read => exact ih _
    | line e =>
      rw [offers, List.map_append, List.map_map, ih, receive_eq]
      simp [LinkStep.event?, Parser.offers, Function.comp_def]

/-- **What is taken and what is queued is what was offered**, in order, but for the frames that
found the queue full. -/
theorem reads_append_queue (hl : l.queue.length ≤ queueCapacity) (steps : List LinkStep) :
    l.reads steps ++ (l.actAll steps).queue =
      l.queue ++ ((l.offers steps).filter (·.queued != queueCapacity)).map Offer.frame := by
  -- An event adds at the end of the queue and a read takes from its front, so what is read so far
  -- followed by the queue only grows at the end.
  induction steps generalizing l with
  | nil => simp [reads, actAll, offers]
  | cons step steps ih =>
    have hnext : (l.act step).reads steps ++ (l.actAll (step :: steps)).queue = _ :=
      ih (l.act step) (l.length_queue_act hl step)
    cases step with
    | read =>
      have hoffers : l.offers (.read :: steps) = (l.act .read).offers steps := rfl
      have hqueue : l.queue.head?.toList ++ (l.act .read).queue = l.queue := by
        cases hq : l.queue with
        | nil => simp [act, hq]
        | cons f queue => simp [act, hq]
      rw [reads, List.append_assoc, hnext, ← List.append_assoc, hqueue, hoffers]
    | line e =>
      have hreads : l.reads (.line e :: steps) = (l.act (.line e)).reads steps := rfl
      have hqueue : (l.act (.line e)).queue =
          l.queue ++ (l.parser.receive e).2.toList.take (queueCapacity - l.queue.length) := by
        rw [act, receive_eq]
      rw [hreads, hnext, hqueue, offers, List.filter_append, List.map_append,
        frames_of_room hl _ Option.length_toList_le, List.append_assoc]
      rfl

/-! ## The operations of a link -/

/-- Events of the line and reads lead from one link to another. -/
def Leads (l l' : SerialLink) : Prop := ∃ steps, l.actAll steps = l'

theorem Leads.refl : Leads l l := ⟨[], rfl⟩

theorem Leads.trans {l l₁ l₂ : SerialLink} (h₁ : Leads l l₁) (h₂ : Leads l₁ l₂) : Leads l l₂ := by
  obtain ⟨steps, rfl⟩ := h₁
  obtain ⟨more, rfl⟩ := h₂
  exact ⟨steps ++ more, by simp [actAll]⟩

theorem leads_receiveAll (events : List LineEvent) : Leads l (l.receiveAll events) :=
  ⟨events.map .line, by simp [actAll, receiveAll, List.foldl_map, act]⟩

/-- Whoever takes frames from the queue takes the oldest ones. -/
theorem leads_of_suffix {queue : List Frame} (hsuffix : queue <:+ l.queue) :
    Leads l { l with queue := queue } := by
  obtain ⟨taken, hqueue⟩ := hsuffix
  refine ⟨List.replicate taken.length .read, ?_⟩
  induction taken generalizing l with
  | nil =>
    rw [show queue = l.queue from hqueue]
    rfl
  | cons f taken ih => exact ih (l.act .read) (by simp [act, ← hqueue])

theorem takeAnswer_suffix (id : Transaction) (queue : List Frame) :
    (takeAnswer id queue).2 <:+ queue := by
  induction queue with
  | nil => exact List.suffix_rfl
  | cons f queue ih =>
    rw [takeAnswer]
    split
    · exact List.suffix_cons f queue
    · exact ih.trans (List.suffix_cons f queue)

theorem takeRequest_suffix (queue : List Frame) : (takeRequest queue).2 <:+ queue := by
  induction queue with
  | nil => exact List.suffix_rfl
  | cons f queue ih =>
    rw [takeRequest]
    split
    · exact ih.trans (List.suffix_cons f queue)
    · split
      · exact List.suffix_cons f queue
      · exact ih.trans (List.suffix_cons f queue)

theorem leads_awaitAnswer (id : Transaction) (bursts : List (List LineEvent)) :
    Leads l (l.awaitAnswer id bursts).2 := by
  induction bursts generalizing l with
  | nil => exact l.leads_of_suffix (takeAnswer_suffix id l.queue)
  | cons burst bursts ih =>
    have htake := l.leads_of_suffix (takeAnswer_suffix id l.queue)
    rcases hanswer : takeAnswer id l.queue with ⟨answer, queue⟩
    rw [hanswer] at htake
    cases answer with
    | some f => simpa only [awaitAnswer, hanswer] using htake
    | none =>
      simp only [awaitAnswer, hanswer]
      exact (htake.trans (leads_receiveAll _ burst)).trans (ih _)

theorem leads_exec (id : Transaction) (request : List UInt8) (room : Nat) (fate : WriteFate)
    (bursts : List (List LineEvent)) : Leads l (l.exec id request room fate bursts).link := by
  have hdrop : Leads l { l with queue := [] } := l.leads_of_suffix (List.nil_suffix)
  have hwait := hdrop.trans (leads_awaitAnswer { l with queue := [] } id bursts)
  unfold exec
  split
  · exact hdrop
  · exact hdrop
  · dsimp only
    split
    · next hnone => rwa [hnone] at hwait
    · next hanswer =>
      rw [hanswer] at hwait
      split
      · exact hwait
      · exact hwait

theorem leads_send (id : Transaction) (request : List UInt8) (fate : WriteFate)
    (bursts : List (List LineEvent)) : Leads l (l.send id request fate bursts).link := by
  have hall : Leads l (bursts.foldl receiveAll l) := by
    induction bursts generalizing l with
    | nil => exact .refl l
    | cons burst bursts ih => exact (l.leads_receiveAll burst).trans (ih _)
  unfold send
  split
  · exact hall
  · exact .refl l

theorem leads_receiveRequest : Leads l l.receiveRequest.2 :=
  l.leads_of_suffix (takeRequest_suffix l.queue)

/-- **A receiver passes on exactly the valid frames of the line.**  A link that has received nothing
goes through line events and reads in any order.

Its receiver offers, in order, frames with the kinds, ids and payloads of those that new parsers
read between the faults of the line.  The reset after an error changes nothing, and no frame after
the erroneous byte is lost.  A fault costs no more than the frame it interrupts: what was offered
before stays, and what follows is read as if the line began there.  Of all that is offered, only the
frames that find four in the queue are lost; all others are taken, or still queued, once each and in
order. -/
theorem valid_frames_are_passed_on (steps : List LinkStep) :
    let line := steps.filterMap LinkStep.event?
    let offered := initial.offers steps
    (offered.map fun o => o.frame.content) =
      ((byteRuns line).flatMap fun run => (Parser.initial.frames run).map Frame.content) ∧
    (∀ (p : Parser) (bytes : List UInt8), p.offers (bytes.map .byte) = p.frames bytes) ∧
    (∀ (bytes : List UInt8) (byte : UInt8) (e : FrameError) (later : List UInt8),
      ((Parser.initial.feed bytes).1.push byte).2 = .failed e →
        (Parser.initial.frames (bytes ++ byte :: later)).map Frame.content =
          (Parser.initial.frames bytes ++ Parser.initial.frames later).map Frame.content) ∧
    (∀ (before : List LineEvent) (f : LineFault) (later : List LineEvent),
      line = before ++ .fault f :: later →
        (offered.map fun o => o.frame.content) =
          (Parser.initial.offers before ++ Parser.initial.offers later).map Frame.content) ∧
    initial.reads steps ++ (initial.actAll steps).queue =
      (offered.filter (·.queued != queueCapacity)).map Offer.frame := by
  intro line offered
  have hline : (offered.map fun o => o.frame.content) =
      (Parser.initial.offers line).map Frame.content := by
    rw [← show offered.map Offer.frame = Parser.initial.offers line from
      map_frame_offers initial steps, List.map_map]
    rfl
  refine ⟨hline.trans (Parser.content_offers line), Parser.offers_bytes, ?_, ?_, ?_⟩
  · intro bytes byte e later hfailed
    rw [Parser.frames_append, List.map_append, List.map_append,
      Parser.content_frames_of_failed (Parser.sound_feed Parser.sound_initial bytes) hfailed]
  · intro before f later hbefore
    rw [hline, hbefore, Parser.offers_append, List.map_append, List.map_append,
      Parser.content_offers_fault (Parser.sound_receiveAll Parser.sound_initial before)]
  · exact reads_append_queue initial (Nat.zero_le _) steps

/-- A fault interrupts request `2`, and request `7` finds four frames in the queue.  A byte that is
no kind costs request `8` nothing. -/
theorem valid_frames_are_passed_on_around_faults :
    let wire (id : UInt8) : List UInt8 := Frame.bytes .request id []
    let before : List LineEvent := (wire 1 ++ [frameSync, 1, 2]).map .byte
    let later : List LineEvent := (wire 3 ++ wire 4 ++ wire 5 ++ wire 6 ++ wire 7).map .byte
    let steps : List LinkStep :=
      before.map .line ++ .read :: .line (.fault .parity) :: later.map .line
    let offered := initial.offers steps
    (offered.map fun o => (o.frame.id, o.queued)) =
        [(1, 0), (3, 0), (4, 1), (5, 2), (6, 3), (7, 4)] ∧
      ((initial.reads steps ++ (initial.actAll steps).queue).map Frame.id) = [1, 3, 4, 5, 6] ∧
      (Parser.initial.frames ([frameSync] ++ 9 :: wire 8)).map Frame.content =
        (Parser.initial.frames [frameSync] ++ Parser.initial.frames (wire 8)).map Frame.content ∧
      (offered.map fun o => o.frame.content) =
        (Parser.initial.offers before ++ Parser.initial.offers later).map Frame.content := by
  intro wire before later steps offered
  have hfailed : ((Parser.initial.feed [frameSync]).1.push 9).2 = .failed .invalidKind := by decide
  have hline : steps.filterMap LinkStep.event? = before ++ .fault .parity :: later := by
    decide +kernel
  obtain ⟨-, -, hresync, hfault, -⟩ := valid_frames_are_passed_on steps
  exact ⟨by decide +kernel, by decide +kernel, hresync [frameSync] 9 .invalidKind (wire 8) hfailed,
    hfault before .parity later hline⟩

end SerialLink

end TwinBall
