import TwinBall.Wire.Frame

/-!
# Reading frames from a line

A parser takes in one byte at a time and answers a frame on the last byte of a complete and valid
one.  Everything before a sync byte is skipped.  After an error the parser is looking for the next
sync byte again.

The receive buffer is written byte by byte and is never erased, so it keeps bytes of earlier
frames past the payload of the current one.
-/

namespace TwinBall

/-- What a parser expects next, and what it knows of the frame so far. -/
inductive ParserStage
  /-- A sync byte; everything else is skipped. -/
  | sync
  /-- The kind byte. -/
  | kind
  /-- The id. -/
  | id (kind : FrameKind)
  /-- The length of the payload. -/
  | length (kind : FrameKind) (id : UInt8)
  /-- A payload byte, at the given position. -/
  | payload (kind : FrameKind) (id : UInt8) (length position : Nat)
  /-- The checksum. -/
  | checksum (kind : FrameKind) (id : UInt8) (length : Nat)
  deriving DecidableEq, Repr

/-- What one byte brings. -/
inductive Reception
  /-- No frame yet. -/
  | pending
  /-- The last byte of a valid frame. -/
  | frame (f : Frame)
  /-- The byte cannot be part of a valid frame. -/
  | failed (e : FrameError)
  deriving DecidableEq, Repr

/-- A frame parser. -/
structure Parser where
  /-- What it expects next. -/
  stage : ParserStage
  /-- The checksum of the bytes since the sync byte. -/
  crc : UInt8
  /-- The receive buffer. -/
  buffer : List UInt8
  deriving DecidableEq, Repr

namespace Parser

/-- A parser that has seen nothing. -/
def initial : Parser := ⟨.sync, 0, Frame.emptyBuffer⟩

/-- Drops a partly received frame.  The receive buffer keeps its bytes. -/
def reset (p : Parser) : Parser := { p with stage := .sync, crc := 0 }

/-- Takes in one byte that belongs to the frame and goes on to the next stage. -/
def advance (p : Parser) (byte : UInt8) (stage : ParserStage) : Parser :=
  { p with stage := stage, crc := Crc.byteStep p.crc byte }

/-- Takes in one byte. -/
def push (p : Parser) (byte : UInt8) : Parser × Reception :=
  match p.stage with
  | .sync =>
    if byte = frameSync then ({ p.reset with stage := .kind }, .pending) else (p, .pending)
  | .kind =>
    match FrameKind.ofCode? byte with
    | some kind => (p.advance byte (.id kind), .pending)
    | none => (p.reset, .failed .invalidKind)
  | .id kind => (p.advance byte (.length kind byte), .pending)
  | .length kind id =>
    if byte.toNat > maxPayload then (p.reset, .failed .payloadTooLarge)
    else if byte = 0 then (p.advance byte (.checksum kind id 0), .pending)
    else (p.advance byte (.payload kind id byte.toNat 0), .pending)
  | .payload kind id length position =>
    let next : ParserStage :=
      if position + 1 = length then .checksum kind id length
      else .payload kind id length (position + 1)
    ({ p.advance byte next with buffer := p.buffer.set position byte }, .pending)
  | .checksum kind id length =>
    if byte = p.crc then (p.reset, .frame ⟨kind, id, length, p.buffer⟩)
    else (p.reset, .failed .crc)

/-- Takes in bytes one after the other.  Answers what each of them brings. -/
def feed (p : Parser) : List UInt8 → Parser × List Reception
  | [] => (p, [])
  | byte :: bytes =>
    let (p, reception) := p.push byte
    let (p, receptions) := p.feed bytes
    (p, reception :: receptions)

@[simp] theorem stage_reset (p : Parser) : p.reset.stage = .sync := rfl

@[simp] theorem buffer_reset (p : Parser) : p.reset.buffer = p.buffer := rfl

@[simp] theorem stage_advance (p : Parser) (byte : UInt8) (stage : ParserStage) :
    (p.advance byte stage).stage = stage := rfl

@[simp] theorem buffer_advance (p : Parser) (byte : UInt8) (stage : ParserStage) :
    (p.advance byte stage).buffer = p.buffer := rfl

@[simp] theorem feed_nil (p : Parser) : p.feed [] = (p, []) := rfl

theorem feed_cons (p : Parser) (byte : UInt8) (bytes : List UInt8) :
    p.feed (byte :: bytes) =
      (((p.push byte).1.feed bytes).1, (p.push byte).2 :: ((p.push byte).1.feed bytes).2) := rfl

/-- Bytes may be taken in piece by piece. -/
theorem feed_append (p : Parser) (bytes more : List UInt8) :
    p.feed (bytes ++ more) =
      (((p.feed bytes).1.feed more).1, (p.feed bytes).2 ++ ((p.feed bytes).1.feed more).2) := by
  induction bytes generalizing p with
  | nil => rfl
  | cons byte bytes ih => simp [feed_cons, ih]

/-- Every byte brings one thing. -/
@[simp] theorem length_feed (p : Parser) (bytes : List UInt8) :
    (p.feed bytes).2.length = bytes.length := by
  induction bytes generalizing p with
  | nil => rfl
  | cons byte bytes ih => simp [feed_cons, ih]

/-- The size of the receive buffer never changes. -/
@[simp] theorem length_buffer_push (p : Parser) (byte : UInt8) :
    (p.push byte).1.buffer.length = p.buffer.length := by
  unfold push
  repeat' split
  all_goals simp [advance]

/-- After an error the parser looks for a sync byte. -/
theorem stage_push_of_failed {p : Parser} {byte : UInt8} {e : FrameError}
    (h : (p.push byte).2 = .failed e) : (p.push byte).1.stage = .sync := by
  unfold push at h ⊢
  repeat' split
  all_goals simp_all

end Parser

end TwinBall
