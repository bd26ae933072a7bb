import TwinBall.Wire.Crc

/-!
# Frames

The halves exchange frames of at most eight payload bytes:

    sync  kind  id  length  payload ...  checksum

The checksum covers everything between the sync byte and itself.  The kind says whether an answer
is expected.

A received frame keeps the whole receive buffer next to the length of its payload.  Equality of
frames compares the whole buffer.
-/

namespace TwinBall

/-- The first byte of every frame. -/
def frameSync : UInt8 := 0xA5

/-- The largest number of payload bytes in a frame. -/
def maxPayload : Nat := 8

/-- What a frame expects. -/
inductive FrameKind
  /-- The sender waits for a response with the same id. -/
  | request
  /-- No answer is expected. -/
  | notify
  /-- The answer to a request. -/
  | response
  deriving DecidableEq, Repr

namespace FrameKind

/-- The byte of a kind. -/
def code : FrameKind → UInt8
  | request => 1
  | notify => 2
  | response => 3

/-- The kind of a byte. -/
def ofCode? (c : UInt8) : Option FrameKind :=
  if c = 1 then some request else if c = 2 then some notify
  else if c = 3 then some response else none

@[simp] theorem ofCode?_code (k : FrameKind) : ofCode? k.code = some k := by
  cases k <;> rfl

end FrameKind

/-- Why a frame could not be written or read. -/
inductive FrameError
  /-- The output has no room for the frame. -/
  | bufferTooSmall
  /-- The payload exceeds `maxPayload`. -/
  | payloadTooLarge
  /-- The kind byte names no kind. -/
  | invalidKind
  /-- The checksum does not match. -/
  | crc
  deriving DecidableEq, Repr

/-- A buffer of bytes with `content` written at its start; the rest is left as it was. -/
def writeFront (buffer content : List UInt8) : List UInt8 :=
  content ++ buffer.drop content.length

/-- A frame. -/
structure Frame where
  /-- What it expects. -/
  kind : FrameKind
  /-- What it is about. -/
  id : UInt8
  /-- The number of payload bytes. -/
  length : Nat
  /-- A buffer that starts with the payload. -/
  buffer : List UInt8
  deriving DecidableEq, Repr

namespace Frame

/-- The payload of a frame. -/
def payload (f : Frame) : List UInt8 := f.buffer.take f.length

/-- A buffer that holds nothing yet. -/
def emptyBuffer : List UInt8 := List.replicate maxPayload 0

/-- A frame with the given payload; the rest of its buffer is zero. -/
def new (kind : FrameKind) (id : UInt8) (payload : List UInt8) : Except FrameError Frame :=
  if payload.length > maxPayload then .error .payloadTooLarge
  else .ok ⟨kind, id, payload.length, payload ++ emptyBuffer.drop payload.length⟩

/-- The bytes that the checksum covers. -/
def body (kind : FrameKind) (id : UInt8) (payload : List UInt8) : List UInt8 :=
  kind.code :: id :: UInt8.ofNat payload.length :: payload

/-- The bytes of a frame on the wire. -/
def bytes (kind : FrameKind) (id : UInt8) (payload : List UInt8) : List UInt8 :=
  frameSync :: (body kind id payload ++ [Crc.checksum (body kind id payload)])

/-- The bytes of a frame on the wire, if the payload is allowed and an output of `room` bytes can
hold them.  An oversized payload is reported before a lack of room. -/
def encode (kind : FrameKind) (id : UInt8) (payload : List UInt8) (room : Nat) :
    Except FrameError (List UInt8) :=
  if payload.length > maxPayload then .error .payloadTooLarge
  else if room < (bytes kind id payload).length then .error .bufferTooSmall
  else .ok (bytes kind id payload)

/-- Writes a frame to the start of a buffer.  Answers the number of bytes written and the buffer,
which is left alone on an error. -/
def encodeInto (kind : FrameKind) (id : UInt8) (payload buffer : List UInt8) :
    Except FrameError Nat × List UInt8 :=
  match encode kind id payload buffer.length with
  | .ok bytes => (.ok bytes.length, writeFront buffer bytes)
  | .error e => (.error e, buffer)

/-- Four bytes before the payload and one after it. -/
@[simp] theorem length_bytes (kind : FrameKind) (id : UInt8) (payload : List UInt8) :
    (bytes kind id payload).length = payload.length + 5 := by
  simp [bytes, body]

theorem payload_of_new {kind : FrameKind} {id : UInt8} {payload : List UInt8} {f : Frame}
    (h : new kind id payload = .ok f) : f.payload = payload := by
  unfold new at h
  split at h
  · cases h
  · cases h
    simp [Frame.payload]

end Frame

/-- Writing no more than fits keeps the size of a buffer. -/
theorem length_writeFront {buffer content : List UInt8} (h : content.length ≤ buffer.length) :
    (writeFront buffer content).length = buffer.length := by
  simp [writeFront]
  omega

@[simp] theorem take_writeFront (buffer content : List UInt8) :
    (writeFront buffer content).take content.length = content := by
  simp [writeFront]

/-- Bytes past what is written stay as they were. -/
@[simp] theorem drop_writeFront (buffer content : List UInt8) :
    (writeFront buffer content).drop content.length = buffer.drop content.length := by
  simp [writeFront]

end TwinBall
