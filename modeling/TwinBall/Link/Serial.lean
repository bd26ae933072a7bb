import TwinBall.Link
import TwinBall.Wire.Parser

/-!
# The serial link between the halves

A receiver reads the line without a break and queues every complete frame; a frame that finds the
queue full is lost.  The link writes frames to the line and waits on the queue.

What the outside does is given as data: the events of the line, the fate of a write, and the
bursts of line events that arrive while the link waits.  A wait without a time limit may never
end; such an operation answers `none`.
-/

namespace TwinBall

/-- The speed of the line, in bits per second. -/
def lineSpeed : Nat := 460800

/-- How a serial line fails. -/
inductive LineFault
  /-- Bytes came faster than they were read. -/
  | overrun
  /-- The line was held low. -/
  | held
  /-- A parity bit did not match. -/
  | parity
  /-- A stop bit was missing. -/
  | framing
  deriving DecidableEq, Repr

/-- An overrun or a held line means that somebody else is using the line; any other fault is a
failure of the line. -/
def LineFault.toLinkError : LineFault → LinkError
  | overrun => .busy
  | held => .busy
  | parity => .io
  | framing => .io

/-- What happens on the receiving line. -/
inductive LineEvent
  /-- A byte arrives. -/
  | byte (b : UInt8)
  /-- The line fails. -/
  | fault (f : LineFault)
  deriving DecidableEq, Repr

/-- What becomes of a write to the line. -/
inductive WriteFate
  /-- The bytes go out. -/
  | sent
  /-- The line fails. -/
  | fault (f : LineFault)
  /-- The write never ends. -/
  | stuck
  deriving DecidableEq, Repr

/-- What an operation did to the sending line. -/
inductive LineOutput
  /-- These bytes went out. -/
  | sent (bytes : List UInt8)
  /-- A write failed. -/
  | failed
  /-- A write never ended. -/
  | stuck
  deriving DecidableEq, Repr

/-- The number of frames that can wait to be read. -/
def queueCapacity : Nat := 4

/-- The parser after an event of the line, and the frame that the event completes.  Errors and
faults drop the partly received frame. -/
def Parser.receive (p : Parser) : LineEvent → Parser × Option Frame
  | .byte b =>
    match p.push b with
    | (p, .pending) => (p, none)
    | (p, .frame f) => (p, some f)
    | (p, .failed _) => (p.reset, none)
  | .fault _ => (p.reset, none)

/-- A serial link: the parser of its receiver and the frames that wait to be read. -/
structure SerialLink where
  /-- What the receiver has seen of the current frame. -/
  parser : Parser
  /-- The frames that wait, the oldest first. -/
  queue : List Frame
  deriving DecidableEq, Repr

namespace SerialLink

/-- A link that has received nothing. -/
def initial : SerialLink := ⟨.initial, []⟩

/-- Queues a frame, unless the queue is full. -/
def offer (l : SerialLink) (f : Frame) : SerialLink :=
  if l.queue.length < queueCapacity then { l with queue := l.queue ++ [f] } else l

/-- The receiver takes in one event of the line. -/
def receive (l : SerialLink) (e : LineEvent) : SerialLink :=
  match l.parser.receive e with
  | (p, some f) => { l with parser := p }.offer f
  | (p, none) => { l with parser := p }

/-- The receiver takes in events of the line. -/
def receiveAll (l : SerialLink) (events : List LineEvent) : SerialLink := events.foldl receive l

/-- Writes a frame.  Answers `none` if the write never ends. -/
def write (kind : FrameKind) (id : Transaction) (payload : List UInt8) (fate : WriteFate) :
    Option (Except LinkError Unit) × List LineOutput :=
  match Frame.encode kind id.code payload (maxPayload + 5) with
  | .error e => (some (.error e.toLinkError), [])
  | .ok bytes =>
    match fate with
    | .sent => (some (.ok ()), [.sent bytes])
    | .fault f => (some (.error f.toLinkError), [.failed])
    | .stuck => (none, [.stuck])

/-- Whether a frame answers a request. -/
def isAnswer (id : Transaction) (f : Frame) : Bool := f.kind == .response && f.id == id.code

/-- Reads queued frames up to the first that answers a request, and forgets the others. -/
def takeAnswer (id : Transaction) : List Frame → Option Frame × List Frame
  | [] => (none, [])
  | f :: queue => if isAnswer id f then (some f, queue) else takeAnswer id queue

/-- Waits for the answer to a request while bursts of line events arrive.  Between two bursts the
waiting reader gets to see the queue. -/
def awaitAnswer (l : SerialLink) (id : Transaction) :
    List (List LineEvent) → Option Frame × SerialLink
  | [] =>
    let (answer, queue) := takeAnswer id l.queue
    (answer, { l with queue := queue })
  | burst :: bursts =>
    match takeAnswer id l.queue with
    | (some answer, queue) => (some answer, { l with queue := queue })
    | (none, queue) => ({ l with queue := queue }.receiveAll burst).awaitAnswer id bursts

/-- The outcome of an operation on the link. -/
structure Outcome (α : Type) where
  /-- The result, or `none` if the operation never ends. -/
  result : Option α
  /-- What was done to the sending line. -/
  output : List LineOutput
  /-- The link afterwards. -/
  link : SerialLink

/-- Sends a request and waits for its answer, for which there is room for `room` bytes.  Frames
that were queued before are late answers to earlier requests and are forgotten.  The write has no
time limit; the wait ends when the bursts are used up. -/
def exec (l : SerialLink) (id : Transaction) (request : List UInt8) (room : Nat)
    (fate : WriteFate) (bursts : List (List LineEvent)) :
    Outcome (Except LinkError (List UInt8)) :=
  let l := { l with queue := [] }
  match write .request id request fate with
  | (none, output) => ⟨none, output, l⟩
  | (some (.error e), output) => ⟨some (.error e), output, l⟩
  | (some (.ok ()), output) =>
    match l.awaitAnswer id bursts with
    | (none, l) => ⟨some (.error .timeout), output, l⟩
    | (some answer, l) =>
      if answer.payload.length ≤ room then ⟨some (.ok answer.payload), output, l⟩
      else ⟨some (.error .malformed), output, l⟩

/-- Sends a request and writes its answer to the start of a buffer.  Answers the number of bytes
written and the buffer, which is left alone unless an answer arrives. -/
def execInto (l : SerialLink) (id : Transaction) (request buffer : List UInt8)
    (fate : WriteFate) (bursts : List (List LineEvent)) :
    Outcome (Except LinkError Nat × List UInt8) :=
  let o := l.exec id request buffer.length fate bursts
  { o with result := o.result.map fun
    | .ok answer => (.ok answer.length, writeFront buffer answer)
    | .error e => (.error e, buffer) }

/-- Sends a message that is not answered.  The write has a time limit: one that never ends times
out, and the bursts arrive while it lasts. -/
def send (l : SerialLink) (id : Transaction) (request : List UInt8) (fate : WriteFate)
    (bursts : List (List LineEvent)) : Outcome (Except LinkError Unit) :=
  match write .notify id request fate with
  | (none, output) => ⟨some (.error .timeout), output, bursts.foldl receiveAll l⟩
  | (some result, output) => ⟨some result, output, l⟩

/-- Answers a request.  The write has no time limit. -/
def respond (l : SerialLink) (id : Transaction) (payload : List UInt8) (fate : WriteFate) :
    Outcome (Except LinkError Unit) :=
  let (result, output) := write .response id payload fate
  ⟨result, output, l⟩

/-- Reads queued frames up to the first request or message about a known transaction, and forgets
the others. -/
def takeRequest : List Frame → Option (Transaction × Frame) × List Frame
  | [] => (none, [])
  | f :: queue =>
    if f.kind = .response then takeRequest queue
    else
      match Transaction.ofCode f.id with
      | .ok id => (some (id, f), queue)
      | .error _ => takeRequest queue

/-- The next request or message of the other half, or `none` if the wait for one never ends. -/
def receiveRequest (l : SerialLink) : Option (Transaction × Frame) × SerialLink :=
  let (request, queue) := takeRequest l.queue
  (request, { l with queue := queue })

end SerialLink

end TwinBall
