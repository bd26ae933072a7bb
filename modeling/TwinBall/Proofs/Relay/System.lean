import TwinBall.Link.Serial
import TwinBall.Proofs.Half.Calls
import TwinBall.Proofs.Motion.Axis

/-!
# Two halves and the line between them

The half on USB and the other half, each with its serial link, and what is under way between them.
`Relay.step` is everything that can happen next.  A part of the periodic work that waits for an
answer is split in two: `ask` sends the question, `finish` ends the wait, and anything may happen in
between but to the half that waits.  What the line does is a move of its own: what is under way in
either direction arrives in order or is lost, and nothing says when.

The other half serves one request at a time from its queue: it answers a request, and takes in a
message.

The tally is no part of the halves.  It notes what happened to motion: what the other half gained,
what it drained to answer a pull, how the pulls ended, and what was lost.
-/

namespace TwinBall

/-! ## Motion on the line -/

/-- The frame that a byte completes, if it completes one. -/
def Reception.frame? : Reception → Option Frame
  | .frame f => some f
  | _ => none

/-- The motion that a frame carries: it answers a pull, within the room that a pull has. -/
def Frame.motion? (f : Frame) : Option Motion :=
  if SerialLink.isAnswer .motion f && f.payload.length ≤ Motion.size then
    (Motion.ofBytes f.payload).toOption
  else none

/-- The motions that bytes on the line carry. -/
def motionsOn (wire : List UInt8) : List Motion :=
  ((Parser.initial.feed wire).2.filterMap Reception.frame?).filterMap Frame.motion?

/-- The bytes that an operation put on the line, if it did. -/
def LineOutput.wire? : LineOutput → Option (List UInt8)
  | .sent bytes => some bytes
  | _ => none

/-! ## Gaining motion -/

/-- The movement that an operation adds to the motion of a half's own ball. -/
def Half.gain? (h : Half) : Op → Option Motion
  | .accumulate .own m => some m
  | .poll cpi (.ok (some m)) => if h.ownBall && (!h.cpiUnapplied || cpi.isOk) then some m else none
  | _ => none

def Op.isHousekeeping : Op → Bool
  | .housekeeping _ _ => true
  | _ => false

def Op.isAnswer : Op → Bool
  | .answer _ _ _ => true
  | _ => false

/-! ## One exchange -/

/-- A serial link for one exchange: with the fate of the write, the bursts that arrive during the
wait, and what was done to the line. -/
structure Exchange where
  link : SerialLink
  fate : WriteFate
  bursts : List (List LineEvent)
  output : List LineOutput

/-- Only writes that end are used here, so there always is a result. -/
instance : PeerLink Exchange where
  exec e id request room :=
    let o := e.link.exec id request room e.fate e.bursts
    (o.result.getD (.error .timeout), { e with link := o.link, output := e.output ++ o.output })
  send e id request :=
    let o := e.link.send id request e.fate e.bursts
    (o.result.getD (.error .timeout), { e with link := o.link, output := e.output ++ o.output })

/-- The fate of a write that ends. -/
def WriteFate.ofFault? : Option LineFault → WriteFate
  | none => .sent
  | some f => .fault f

/-- A pull that has ended: when it began, and its outcome. -/
structure Pull where
  time : UInt32
  outcome : Except LinkError (List UInt8)

/-- The motion that a pull brought. -/
def Pull.motion? (q : Pull) : Option Motion :=
  Half.readAnswer Motion.ofBytes Motion.size q.outcome

/-- The pull that an exchange at a time is, if it is one. -/
def Pull.ofCall? (now : UInt32) : LinkCall → Option Pull
  | .exec .motion _ _ outcome => some ⟨now, outcome⟩
  | _ => none

/-! ## The system -/

/-- What became of motion. -/
structure Tally where
  /-- What the other half added to the motion of its own ball. -/
  gained : List Motion
  /-- What the other half drained to answer pulls. -/
  drained : List Motion
  /-- The pulls that have ended. -/
  pulls : List Pull
  /-- What was drained and lost, discarded or never sent. -/
  lost : List Motion
  /-- Whether a movement that the other half gained was clipped. -/
  clipped : Bool

/-- The motions that pulls added. -/
def Tally.added (t : Tally) : List Motion := t.pulls.filterMap Pull.motion?

/-- A question that waits for its answer: when it was sent, and the bursts that arrived since. -/
structure Wait where
  id : Transaction
  now : UInt32
  bursts : List (List LineEvent)

/-- The motions that reached a link and are still there, in its queue or seen by what waits. -/
def heardBy (l : SerialLink) : Option Wait → List Motion
  | none => l.queue.filterMap Frame.motion?
  | some w =>
    let (answer, l) := l.awaitAnswer w.id w.bursts
    (answer.toList ++ l.queue).filterMap Frame.motion?

structure Relay where
  /-- The half on USB. -/
  primary : Half
  secondary : Half
  /-- The link of the half on USB. -/
  link : SerialLink
  /-- The link of the other half. -/
  responder : SerialLink
  /-- What the half on USB waits for. -/
  waiting : Option Wait
  /-- The writes of the half on USB that are under way, the oldest first. -/
  requests : List (List UInt8)
  /-- The writes of the other half that are under way, the oldest first. -/
  replies : List (List UInt8)
  tally : Tally

/-- Something that happens to the two halves and the line. -/
inductive Move (σ : Type)
  /-- The half on USB does anything but periodic work. -/
  | primary (c : Call σ)
  /-- The other half does anything but answering. -/
  | secondary (c : Call σ)
  /-- A part of the periodic work begins: the question of the handshake, a pull, or a push.  Its
  write succeeds or fails. -/
  | ask (id : Transaction) (now : UInt32) (fault : Option LineFault) (store : σ)
  /-- The wait of the half on USB ends, with an answer or without one. -/
  | finish (store : σ)
  /-- The other half serves a request.  The write of its answer succeeds or fails. -/
  | serve (fault : Option LineFault)
  /-- The oldest write of the half on USB arrives. -/
  | deliverRequest
  /-- A write of the half on USB is lost. -/
  | loseRequest (i : Nat)
  /-- The oldest write of the other half arrives. -/
  | deliverReply
  /-- A write of the other half is lost. -/
  | loseReply (i : Nat)
  /-- A frame that carries no motion comes from the other half. -/
  | stray (kind : FrameKind) (id : UInt8) (payload : List UInt8)

namespace Relay

variable {σ : Type} [SettingsStore σ]

/-- Two halves before they boot, and an empty line. -/
def start (config other : Config) (side otherSide : Side) : Relay where
  primary := .new config .primary side
  secondary := .new other .secondary otherSide
  link := .initial
  responder := .initial
  waiting := none
  requests := []
  replies := []
  tally := ⟨[], [], [], [], false⟩

/-- The motions that are on the line from the other half. -/
def flight (r : Relay) : List Motion := r.replies.flatMap motionsOn

/-- The motions that reached the link of the half on USB and are still there. -/
def heard (r : Relay) : List Motion := heardBy r.link r.waiting

/-- Whether a part of the periodic work is due. -/
def isDue (r : Relay) (id : Transaction) (now : UInt32) : Bool :=
  r.primary.role == .primary &&
    match id with
    | .info => r.primary.handshake.isDue now
    | .motion => r.primary.isPullDue now
    | .cpi => r.primary.isPushDue

/-- A part of the periodic work. -/
def part (r : Relay) (id : Transaction) (now : UInt32) (fate : WriteFate)
    (bursts : List (List LineEvent)) (store : σ) : Pass Exchange σ :=
  let p : Pass Exchange σ := ⟨r.primary, ⟨r.link, fate, bursts, []⟩, store, [], []⟩
  match id with
  | .info => p.negotiate now
  | .motion => p.pullMotion now
  | .cpi => p.pushCpi

/-- A part of the periodic work has ended. -/
def conclude (r : Relay) (now : UInt32) (p : Pass Exchange σ) : Relay :=
  { r with
    primary := p.half
    link := p.link.link
    waiting := none
    tally := { r.tally with pulls := r.tally.pulls ++ p.calls.filterMap (Pull.ofCall? now) } }

/-- The link forgets what it has queued. -/
def discard (r : Relay) : Relay :=
  { r with
    link := { r.link with queue := [] }
    tally := { r.tally with
      lost := r.tally.lost ++ r.link.queue.filterMap Frame.motion? } }

/-- A part of the periodic work begins, and ends at once unless there is an answer to wait for. -/
def ask (r : Relay) (id : Transaction) (now : UInt32) (fault : Option LineFault) (store : σ) :
    Relay :=
  if r.waiting.isNone && r.isDue id now then
    let p := r.part id now (.ofFault? fault) [] store
    let r := { r with requests := r.requests ++ p.link.output.filterMap LineOutput.wire? }
    match id, fault with
    | .cpi, _ => r.conclude now p
    | _, some _ => r.discard.conclude now p
    | _, none => { r.discard with waiting := some ⟨id, now, []⟩ }
  else r

def finish (r : Relay) (store : σ) : Relay :=
  match r.waiting with
  | none => r
  | some w => r.conclude w.now (r.part w.id w.now .sent w.bursts store)

/-- The motion that answering a request drains. -/
def drainedBy (h : Half) : Transaction → List Motion
  | .motion => [h.ownMotion.drain.1]
  | _ => []

/-- The bytes of the answer to a request; a message is not answered. -/
def answerTo (l : SerialLink) (id : Transaction) (kind : FrameKind)
    (result : Except LinkError (List UInt8)) (fate : WriteFate) : List (List UInt8) :=
  match kind, result with
  | .request, .ok payload => (l.respond id payload fate).output.filterMap LineOutput.wire?
  | _, _ => []

def serve (r : Relay) (fault : Option LineFault) : Relay :=
  match r.responder.receiveRequest with
  | (none, responder) => { r with responder := responder }
  | (some (id, f), responder) =>
    let a := r.secondary.answer id f.payload maxPayload
    let sent := answerTo responder id f.kind a.result (.ofFault? fault)
    let drained := drainedBy r.secondary id
    { r with
      secondary := a.half
      responder := responder
      replies := r.replies ++ sent
      tally := { r.tally with
        drained := r.tally.drained ++ drained
        lost := r.tally.lost ++ if sent.isEmpty then drained else [] } }

/-- The oldest write of the other half arrives.  While the half on USB waits, it sees every frame
at once; once it has its answer, it stops listening, and what would come then may as well come
later. -/
def deliverReply (r : Relay) : Relay :=
  match r.replies, r.waiting with
  | [], _ => r
  | wire :: replies, none =>
    { r with
      replies := replies
      link := r.link.receiveAll (wire.map .byte)
      tally := { r.tally with
        lost := r.tally.lost ++
          if r.link.queue.length < queueCapacity then [] else motionsOn wire } }
  | wire :: replies, some w =>
    if (r.link.awaitAnswer w.id w.bursts).1.isSome then r
    else
      let bursts := w.bursts ++ [wire.map .byte]
      { r with
        replies := replies
        waiting := some { w with bursts := bursts }
        tally := { r.tally with
          lost := r.tally.lost ++
            if (r.link.awaitAnswer w.id bursts).1.isSome then [] else motionsOn wire } }

def loseReply (r : Relay) (i : Nat) : Relay :=
  { r with
    replies := r.replies.eraseIdx i
    tally := { r.tally with
      lost := r.tally.lost ++ (r.replies[i]?.map motionsOn).getD [] } }

/-- The half on USB does something else, unless it waits. -/
def actPrimary (r : Relay) (c : Call σ) : Relay :=
  if r.waiting.isSome || c.op.isHousekeeping then r
  else { r with primary := (r.primary.perform c).session.half }

/-- The other half does something else. -/
def actSecondary (r : Relay) (c : Call σ) : Relay :=
  if c.op.isAnswer then r
  else
    let gained := (r.secondary.gain? c.op).toList
    { r with
      secondary := (r.secondary.perform c).session.half
      tally := { r.tally with
        gained := r.tally.gained ++ gained
        clipped := r.tally.clipped || gained.any r.secondary.ownMotion.peek.clips } }

def deliverRequest (r : Relay) : Relay :=
  match r.requests with
  | [] => r
  | wire :: requests =>
    { r with
      requests := requests
      responder := r.responder.receiveAll (wire.map .byte) }

def loseRequest (r : Relay) (i : Nat) : Relay := { r with requests := r.requests.eraseIdx i }

def stray (r : Relay) (kind : FrameKind) (id : UInt8) (payload : List UInt8) : Relay :=
  if payload.length ≤ maxPayload ∧ motionsOn (Frame.bytes kind id payload) = [] then
    { r with replies := r.replies ++ [Frame.bytes kind id payload] }
  else r

/-- What a move does.  A move that is not possible does nothing. -/
def step (r : Relay) : Move σ → Relay
  | .primary c => r.actPrimary c
  | .secondary c => r.actSecondary c
  | .ask id now fault store => r.ask id now fault store
  | .finish store => r.finish store
  | .serve fault => r.serve fault
  | .deliverRequest => r.deliverRequest
  | .loseRequest i => r.loseRequest i
  | .deliverReply => r.deliverReply
  | .loseReply i => r.loseReply i
  | .stray kind id payload => r.stray kind id payload

/-- The two halves and the line after moves. -/
def run (r : Relay) (moves : List (Move σ)) : Relay := moves.foldl step r

end Relay

end TwinBall
