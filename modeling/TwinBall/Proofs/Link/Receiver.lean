import TwinBall.Proofs.Relay.Line

/-!
# What a receiver makes of a line

The receiver of a link hands every byte to its parser.  It resets the parser after an error, which
the parser has done already (`receive_byte`), and after a fault of the line.

A reset keeps the receive buffer, so a parser that was reset is not a new one.  But bytes of earlier
frames are never read: parsers that hold the same bytes answer frames with the same content
(`Agrees.frames`).  Hence a receiver offers what a new parser reads between the faults
(`content_offers`).
-/

namespace TwinBall

/-- What can be read from a frame, which is all but the rest of its buffer. -/
def Frame.content (f : Frame) : FrameKind × UInt8 × List UInt8 := (f.kind, f.id, f.payload)

namespace Parser

/-- The frames that a parser reads from bytes. -/
def frames (p : Parser) (bytes : List UInt8) : List Frame :=
  (p.feed bytes).2.filterMap Reception.frame?

/-- The parser after events of the line. -/
def receiveAll (p : Parser) (events : List LineEvent) : Parser :=
  events.foldl (fun p e => (p.receive e).1) p

/-- The frames that a receiver offers to its queue. -/
def offers (p : Parser) : List LineEvent → List Frame
  | [] => []
  | e :: events => (p.receive e).2.toList ++ (p.receive e).1.offers events

@[simp] theorem frames_nil (p : Parser) : p.frames [] = [] := rfl

theorem frames_cons (p : Parser) (byte : UInt8) (bytes : List UInt8) :
    p.frames (byte :: bytes) = (p.push byte).2.frame?.toList ++ (p.push byte).1.frames bytes := by
  rw [frames, feed_cons, List.filterMap_cons]
  cases (p.push byte).2.frame? with
  | none => rfl
  | some f => rfl

theorem frames_append (p : Parser) (bytes more : List UInt8) :
    p.frames (bytes ++ more) = p.frames bytes ++ (p.feed bytes).1.frames more := by
  rw [frames, feed_append, List.filterMap_append]
  rfl

theorem offers_append (p : Parser) (events more : List LineEvent) :
    p.offers (events ++ more) = p.offers events ++ (p.receiveAll events).offers more := by
  induction events generalizing p with
  | nil => rfl
  | cons e events ih =>
    rw [List.cons_append, offers, offers, ih, List.append_assoc]
    rfl

/-! ## Errors -/

theorem push_of_failed {p : Parser} {byte : UInt8} {e : FrameError}
    (h : (p.push byte).2 = .failed e) : (p.push byte).1 = p.reset := by
  unfold push at h ⊢
  repeat' split
  all_goals simp_all

/-- The reset after an error changes nothing. -/
theorem receive_byte (p : Parser) (byte : UInt8) :
    p.receive (.byte byte) = ((p.push byte).1, (p.push byte).2.frame?) := by
  rcases hpush : p.push byte with ⟨q, reception⟩
  simp only [receive, hpush]
  cases reception with
  | pending => rfl
  | frame f => rfl
  | failed e =>
    have hreset : q = p.reset := by
      have h : (p.push byte).1 = p.reset := push_of_failed (e := e) (by rw [hpush])
      rwa [hpush] at h
    rw [hreset]
    rfl

theorem offers_bytes (p : Parser) (bytes : List UInt8) :
    p.offers (bytes.map .byte) = p.frames bytes := by
  induction bytes generalizing p with
  | nil => rfl
  | cons byte bytes ih => rw [List.map_cons, offers, receive_byte, frames_cons, ih]

/-! ## Parsers that hold the same bytes -/

/-- Two parsers at one stage that hold the same bytes.  The rest of their buffers may differ. -/
structure Agrees (p q : Parser) : Prop where
  left : p.Sound
  right : q.Sound
  stage : p.stage = q.stage
  held : p.held = q.held

theorem Agrees.refl {p : Parser} (hp : p.Sound) : Agrees p p := ⟨hp, hp, rfl, rfl⟩

theorem Agrees.reset {p q : Parser} (hp : p.Sound) (hq : q.Sound) : Agrees p.reset q.reset :=
  ⟨hp.reset, hq.reset, rfl, rfl⟩

theorem Agrees.crc {p q : Parser} (h : Agrees p q) : p.crc = q.crc := by
  rw [h.left.crc_eq, h.right.crc_eq, h.held]

theorem Agrees.push {p q : Parser} (h : Agrees p q) (byte : UInt8) :
    Agrees (p.push byte).1 (q.push byte).1 ∧ (p.push byte).2.result = (q.push byte).2.result := by
  have hp := sound_push h.left byte
  have hq := sound_push h.right byte
  have hheld := h.held
  have hcrc := h.crc
  suffices hsame : (p.push byte).1.stage = (q.push byte).1.stage ∧
      (p.push byte).1.held = (q.push byte).1.held ∧
      (p.push byte).2.result = (q.push byte).2.result from
    ⟨⟨hp, hq, hsame.1, hsame.2.1⟩, hsame.2.2⟩
  cases hs : p.stage with
  | sync =>
    have hs' : q.stage = .sync := h.stage ▸ hs
    by_cases hsync : byte = frameSync
    · simp [Parser.push, hs, hs', hsync, Parser.held]
    · simp [Parser.push, hs, hs', hsync, hheld]
  | kind =>
    have hs' : q.stage = .kind := h.stage ▸ hs
    cases hkind : FrameKind.ofCode? byte with
    | none => simp [Parser.push, hs, hs', hkind, Reception.result]
    | some kind => simp [Parser.push, hs, hs', hkind, Parser.held, Reception.result]
  | id kind =>
    have hs' : q.stage = .id kind := h.stage ▸ hs
    simp [Parser.push, hs, hs', Parser.held, Reception.result]
  | length kind id =>
    have hs' : q.stage = .length kind id := h.stage ▸ hs
    by_cases hlarge : byte.toNat > maxPayload
    · simp [Parser.push, hs, hs', hlarge, Reception.result]
    · by_cases hzero : byte = 0
      · simp [Parser.push, hs, hs', hzero, Parser.held, Reception.result]
      · simp [Parser.push, hs, hs', hlarge, hzero, Parser.held, Reception.result]
  | payload kind id length position =>
    have hs' : q.stage = .payload kind id length position := h.stage ▸ hs
    obtain ⟨hlt, hle⟩ : position < length ∧ length ≤ maxPayload := by
      simpa [InBounds, hs] using h.left.inBounds
    have htake : (p.buffer.set position byte).take (position + 1) =
        (q.buffer.set position byte).take (position + 1) := by
      rw [take_succ_set (by rw [h.left.length_buffer]; omega),
        take_succ_set (by rw [h.right.length_buffer]; omega)]
      simpa [Parser.held, hs, hs'] using hheld
    by_cases hlast : position + 1 = length
    · subst hlast
      simp [Parser.push, hs, hs', Parser.held, htake, Reception.result]
    · simp [Parser.push, hs, hs', hlast, Parser.held, htake, Reception.result]
  | checksum kind id length =>
    have hs' : q.stage = .checksum kind id length := h.stage ▸ hs
    have htake : p.buffer.take length = q.buffer.take length := by
      simpa [Parser.held, hs, hs'] using hheld
    by_cases hfits : byte = q.crc
    · simp [Parser.push, hs, hs', hcrc, hfits, Reception.result, Frame.payload, htake]
    · simp [Parser.push, hs, hs', hcrc, hfits, Reception.result]

theorem content_frame? (reception : Reception) :
    reception.frame?.map Frame.content = (reception.result.toOption).join := by
  cases reception with
  | pending => rfl
  | frame f => rfl
  | failed e => rfl

/-- From the same bytes, such parsers read frames with the same content. -/
theorem Agrees.frames {p q : Parser} (h : Agrees p q) (bytes : List UInt8) :
    (p.frames bytes).map Frame.content = (q.frames bytes).map Frame.content := by
  induction bytes generalizing p q with
  | nil => rfl
  | cons byte bytes ih =>
    obtain ⟨hnext, hresult⟩ := h.push byte
    have hfirst : (p.push byte).2.frame?.map Frame.content =
        (q.push byte).2.frame?.map Frame.content := by
      rw [content_frame?, content_frame?, hresult]
    rw [frames_cons, frames_cons, List.map_append, List.map_append, ih hnext, ← Option.toList_map,
      ← Option.toList_map, hfirst]

/-- A parser that was reset reads what a new one reads. -/
theorem frames_reset {p : Parser} (hp : p.Sound) (bytes : List UInt8) :
    (p.reset.frames bytes).map Frame.content = (initial.frames bytes).map Frame.content :=
  (Agrees.reset hp sound_initial).frames bytes

/-! ## Faults -/

end Parser

/-- Whether an event is a fault of the line. -/
def LineEvent.isFault : LineEvent → Bool
  | .byte _ => false
  | .fault _ => true

/-- The byte that arrives with an event. -/
def LineEvent.byte? : LineEvent → Option UInt8
  | .byte b => some b
  | .fault _ => none

/-- The runs of bytes between the faults of a line, from its start to its end. -/
def byteRuns (events : List LineEvent) : List (List UInt8) :=
  (events.splitOnP LineEvent.isFault).map fun run => run.filterMap LineEvent.byte?

theorem byteRuns_ne_nil (events : List LineEvent) : byteRuns events ≠ [] := by
  simp [byteRuns, List.splitOnP_ne_nil]

theorem byteRuns_fault (f : LineFault) (events : List LineEvent) :
    byteRuns (.fault f :: events) = [] :: byteRuns events := by
  rw [byteRuns, List.splitOnP_cons_eq_if_modifyHead]
  rfl

theorem byteRuns_byte {b : UInt8} {events : List LineEvent} {first : List UInt8}
    {rest : List (List UInt8)} (h : byteRuns events = first :: rest) :
    byteRuns (.byte b :: events) = (b :: first) :: rest := by
  obtain ⟨run, others, hsplit⟩ :=
    List.exists_cons_of_ne_nil (List.splitOnP_ne_nil LineEvent.isFault events)
  rw [byteRuns, hsplit] at h
  obtain ⟨rfl, rfl⟩ := List.cons.inj h
  rw [byteRuns, List.splitOnP_cons_eq_if_modifyHead, hsplit]
  rfl

namespace Parser

theorem sound_receive {p : Parser} (hp : p.Sound) (e : LineEvent) : (p.receive e).1.Sound := by
  cases e with
  | byte b =>
    rw [receive_byte]
    exact sound_push hp b
  | fault f => exact hp.reset

theorem sound_receiveAll {p : Parser} (hp : p.Sound) (events : List LineEvent) :
    (p.receiveAll events).Sound := by
  induction events generalizing p with
  | nil => exact hp
  | cons e events ih => exact ih (sound_receive hp e)

/-- What a receiver offers, whatever it has read before: what its parser reads up to the first
fault, and what a new parser reads after each fault. -/
theorem content_offers_cons {p : Parser} (hp : p.Sound) {events : List LineEvent}
    {first : List UInt8} {rest : List (List UInt8)} (hruns : byteRuns events = first :: rest) :
    (p.offers events).map Frame.content =
      (p.frames first).map Frame.content ++
        rest.flatMap fun run => (initial.frames run).map Frame.content := by
  -- A fault leaves the old buffer, so the induction is over every sound parser and not only new
  -- ones.
  induction events generalizing p first rest with
  | nil =>
    obtain ⟨rfl, rfl⟩ := List.cons.inj hruns
    rfl
  | cons e events ih =>
    obtain ⟨next, others, hnext⟩ := List.exists_cons_of_ne_nil (byteRuns_ne_nil events)
    cases e with
    | byte b =>
      obtain ⟨rfl, rfl⟩ := List.cons.inj (hruns.symm.trans (byteRuns_byte hnext))
      rw [offers, receive_byte, frames_cons, List.map_append, List.map_append, List.append_assoc,
        ih (sound_push hp b) hnext]
    | fault f =>
      obtain ⟨rfl, rfl⟩ := List.cons.inj (hruns.symm.trans (byteRuns_fault f events))
      have hreset : p.offers (.fault f :: events) = p.reset.offers events := rfl
      rw [hreset, ih hp.reset hnext, frames_reset hp, hnext]
      rfl

/-- **A new receiver offers what new parsers read between the faults of the line.** -/
theorem content_offers (events : List LineEvent) :
    (initial.offers events).map Frame.content =
      (byteRuns events).flatMap fun run => (initial.frames run).map Frame.content := by
  obtain ⟨first, rest, hruns⟩ := List.exists_cons_of_ne_nil (byteRuns_ne_nil events)
  rw [content_offers_cons sound_initial hruns, hruns, List.flatMap_cons]

/-- After a fault a receiver goes on like a new one. -/
theorem content_offers_fault {p : Parser} (hp : p.Sound) (f : LineFault)
    (events : List LineEvent) :
    (p.offers (.fault f :: events)).map Frame.content =
      (initial.offers events).map Frame.content := by
  rw [content_offers_cons hp (byteRuns_fault f events), content_offers]
  rfl

/-- After an error a parser goes on like a new one. -/
theorem content_frames_of_failed {p : Parser} (hp : p.Sound) {byte : UInt8} {e : FrameError}
    (h : (p.push byte).2 = .failed e) (later : List UInt8) :
    (p.frames (byte :: later)).map Frame.content = (initial.frames later).map Frame.content := by
  rw [frames_cons, h, push_of_failed h]
  exact frames_reset hp later

end Parser

end TwinBall
