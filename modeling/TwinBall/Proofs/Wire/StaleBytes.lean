import TwinBall.Proofs.Wire.Emission

/-!
# What a received frame holds past its payload

A received frame carries the whole receive buffer, which is never erased.  So the bytes past its
payload are those that earlier frames wrote there, whether these frames were completed or not, and
frames of the same kind, id and payload need not be equal.

`written?` reads the last byte written to a position off the bytes that came in, and
`getElem?_buffer_feed` says that this is what the receive buffer holds.  It follows when a received
frame equals the frame that was sent (`received_frame_eq_sent_iff`).
-/

namespace TwinBall

theorem Frame.getElem?_emptyBuffer {k : Nat} (hk : k < maxPayload) : emptyBuffer[k]? = some 0 :=
  List.getElem?_replicate_of_lt hk

/-- A frame is the one built from its payload just if the rest of its buffer is zero. -/
theorem Frame.new_payload_iff {f : Frame} (hlength : f.payload.length = f.length)
    (hbuffer : f.buffer.length = maxPayload) :
    Frame.new f.kind f.id f.payload = .ok f ↔
      ∀ k, f.length ≤ k → k < maxPayload → f.buffer[k]? = some 0 := by
  have hle : ¬ f.payload.length > maxPayload := by
    rw [← hbuffer, Nat.not_lt, payload]
    exact List.length_take_le' _ _
  have hnew : Frame.new f.kind f.id f.payload = .ok f ↔
      f.payload ++ emptyBuffer.drop f.length = f.payload ++ f.buffer.drop f.length := by
    have hsplit : f.payload ++ f.buffer.drop f.length = f.buffer := List.take_append_drop _ _
    rw [new, if_neg hle, hlength, hsplit, Except.ok.injEq]
    exact ⟨congrArg buffer, fun heq => congrArg (Frame.mk f.kind f.id f.length) heq⟩
  rw [hnew, List.append_cancel_left_eq, List.ext_getElem?_iff]
  constructor
  · intro heq k hk hmax
    have hsame := heq (k - f.length)
    rw [List.getElem?_drop, List.getElem?_drop, Nat.add_sub_cancel' hk] at hsame
    rw [← hsame, getElem?_emptyBuffer hmax]
  · intro hzero i
    rw [List.getElem?_drop, List.getElem?_drop]
    by_cases hi : f.length + i < maxPayload
    · rw [getElem?_emptyBuffer hi, hzero _ (Nat.le_add_right _ _) hi]
    · have hend := Nat.not_lt.mp hi
      have hempty : emptyBuffer.length = maxPayload := List.length_replicate
      rw [List.getElem?_eq_none (Nat.le_trans (Nat.le_of_eq hempty) hend),
        List.getElem?_eq_none (Nat.le_trans (Nat.le_of_eq hbuffer) hend)]

namespace Parser

variable {p : Parser} {k : Nat}

/-- The position of the receive buffer to which the next byte is written, if it is a payload
byte. -/
def position? (p : Parser) : Option Nat :=
  match p.stage with
  | .payload _ _ _ position => some position
  | _ => none

/-- The byte that was last written to a position of the receive buffer as bytes came in, if there
was one. -/
def written? (p : Parser) (k : Nat) : List UInt8 → Option UInt8
  | [] => none
  | byte :: bytes =>
    ((p.push byte).1.written? k bytes).or (if p.position? = some k then some byte else none)

theorem buffer_push (p : Parser) (byte : UInt8) :
    (p.push byte).1.buffer =
      match p.position? with
      | some k => p.buffer.set k byte
      | none => p.buffer := by
  unfold push position?
  cases p.stage with
  | payload kind id length position => rfl
  | _ =>
    simp only
    repeat' split
    all_goals rfl

theorem getElem?_buffer_push (hk : k < p.buffer.length) (byte : UInt8) :
    (p.push byte).1.buffer[k]? =
      (if p.position? = some k then some byte else none).or p.buffer[k]? := by
  rw [buffer_push]
  cases p.position? with
  | none => rfl
  | some j =>
    by_cases h : j = k
    · subst h
      rw [if_pos rfl]
      exact List.getElem?_set_self hk
    · rw [if_neg (fun heq => h (Option.some.inj heq))]
      exact List.getElem?_set_ne h

/-- The receive buffer holds what was last written, or what it held before. -/
theorem getElem?_buffer_feed (hk : k < p.buffer.length) (bytes : List UInt8) :
    (p.feed bytes).1.buffer[k]? = (p.written? k bytes).or p.buffer[k]? := by
  induction bytes generalizing p with
  | nil => rfl
  | cons byte bytes ih =>
    have hnext : k < (p.push byte).1.buffer.length := by rwa [length_buffer_push]
    rw [feed_cons, ih hnext, written?, getElem?_buffer_push hk, Option.or_assoc]

/-- A position of a new parser to which nothing was written holds zero. -/
theorem getElem?_buffer_initial (hk : k < maxPayload) (history : List UInt8) :
    (initial.feed history).1.buffer[k]? = some ((initial.written? k history).getD 0) := by
  have hstart : initial.buffer[k]? = some 0 := Frame.getElem?_emptyBuffer hk
  rw [getElem?_buffer_feed hk, hstart]
  cases initial.written? k history with
  | none => rfl
  | some byte => rfl

theorem written?_append (p : Parser) (k : Nat) (bytes more : List UInt8) :
    p.written? k (bytes ++ more) =
      ((p.feed bytes).1.written? k more).or (p.written? k bytes) := by
  induction bytes generalizing p with
  | nil => simp [written?]
  | cons byte bytes ih => rw [List.cons_append, written?, ih, feed_cons, written?, Option.or_assoc]

/-- Payload bytes are written inside the payload. -/
theorem written?_payload {kind : FrameKind} {id : UInt8} {length position : Nat}
    {bytes : List UInt8} (hs : p.stage = .payload kind id length position)
    (hfits : position + bytes.length ≤ length) (hk : length ≤ k) : p.written? k bytes = none := by
  induction bytes generalizing p position with
  | nil => rfl
  | cons byte bytes ih =>
    rw [List.length_cons] at hfits
    have hposition : p.position? = some position := by rw [position?, hs]
    have hne : ¬ some position = some k := fun heq => by
      have := Option.some.inj heq
      omega
    rw [written?, hposition, if_neg hne, Option.or_none]
    by_cases hlast : position + 1 = length
    · have hnil : bytes = [] := List.eq_nil_of_length_eq_zero (by omega)
      rw [hnil]
      rfl
    · have hstage : (p.push byte).1.stage = .payload kind id length (position + 1) := by
        simp [push, hs, hlast]
      exact ih hstage (by omega)

/-- Receiving a frame writes nothing past its payload. -/
theorem written?_bytes (hs : p.stage = .sync) (kind : FrameKind) (id : UInt8)
    {payload : List UInt8} (hle : payload.length ≤ maxPayload) (hk : payload.length ≤ k) :
    p.written? k (Frame.bytes kind id payload) = none := by
  have hsplit : Frame.bytes kind id payload =
      [frameSync, kind.code, id, UInt8.ofNat payload.length] ++
        (payload ++ [Crc.checksum (Frame.body kind id payload)]) := rfl
  have hheader : p.written? k [frameSync, kind.code, id, UInt8.ofNat payload.length] = none := by
    simp [written?, position?, push, hs]
  have hstage := (feed_header hs kind id hle).1
  rw [hsplit, written?_append, hheader, Option.or_none]
  generalize (p.feed [frameSync, kind.code, id, UInt8.ofNat payload.length]).1 = q at hstage ⊢
  by_cases hnil : payload = []
  · rw [hnil, List.length_nil, if_pos rfl] at hstage
    rw [hnil]
    simp [written?, position?, hstage]
  · rw [if_neg (by simpa using hnil)] at hstage
    have hlast := (feed_payload hstage hnil (Nat.zero_add _)).1
    rw [written?_append, written?_payload hstage (by omega) hk]
    simp [written?, position?, hlast]

theorem buffer_of_push {byte : UInt8} {f : Frame} (h : (p.push byte).2 = .frame f) :
    f.buffer = (p.push byte).1.buffer := by
  cases hs : p.stage with
  | checksum kind id length =>
    simp only [push, hs] at h ⊢
    split at h
    · next hcrc =>
      cases h
      rw [if_pos hcrc]
      rfl
    · cases h
  | _ =>
    simp only [push, hs] at h
    repeat' split at h
    all_goals cases h

/-- A frame is answered with the receive buffer as it stands. -/
theorem Emits.buffer_eq {bytes : List UInt8} {i : Nat} {f : Frame} (h : p.Emits bytes i f) :
    f.buffer = (p.feed (bytes.take (i + 1))).1.buffer := by
  induction bytes generalizing p i with
  | nil => exact absurd h.lt (Nat.not_lt_zero i)
  | cons byte bytes ih =>
    cases i with
    | zero => exact buffer_of_push (emits_cons_zero.mp h)
    | succ i =>
      rw [List.take_succ_cons, feed_cons]
      exact ih (emits_cons_succ.mp h)

/-- **When a received frame equals the frame that was sent.**  Any bytes were fed to a new parser
that now waits for a sync byte, and then the encoding of a frame.

The parser answers a frame with the same kind, id, length and payload.  Past the payload the frame
has the bytes that were last written there for any of the frames before, completed or not, and zero
where nothing was written.  So it equals the frame that was sent just if all these bytes are
zero. -/
theorem received_frame_eq_sent_iff (history : List UInt8) {kind : FrameKind} {id : UInt8}
    {payload wire : List UInt8} {room : Nat}
    (waiting : (initial.feed history).1.stage = .sync)
    (encoded : Frame.encode kind id payload room = .ok wire) :
    ∃ f : Frame,
      ((initial.feed history).1.feed wire).2 =
        List.replicate (wire.length - 1) .pending ++ [.frame f] ∧
      f.kind = kind ∧ f.id = id ∧ f.length = payload.length ∧ f.payload = payload ∧
      (∀ k, payload.length ≤ k → k < maxPayload →
        f.buffer[k]? = some ((initial.written? k history).getD 0)) ∧
      (Frame.new kind id payload = .ok f ↔
        ∀ k, payload.length ≤ k → k < maxPayload → (initial.written? k history).getD 0 = 0) := by
  obtain ⟨hle, -, rfl⟩ := Frame.encode_eq_ok_iff.mp encoded
  have hsound := sound_feed sound_initial history
  have hinitial := fun k hk => getElem?_buffer_initial (k := k) hk history
  generalize (initial.feed history).1 = p at waiting hsound hinitial ⊢
  obtain ⟨f, rfl, rfl, rfl, -, hresults⟩ := feed_frame hsound waiting kind id hle
  have hemits : p.Emits (Frame.bytes f.kind f.id f.payload) (f.payload.length + 4) f := by
    rw [Emits, hresults]
    simp
  obtain ⟨hlength, -⟩ := hemits.bounds hsound
  have hbuffer := hemits.buffer_eq
  rw [List.take_of_length_le (Nat.le_of_eq (Frame.length_bytes ..))] at hbuffer
  have hstale : ∀ k, f.payload.length ≤ k → k < maxPayload →
      f.buffer[k]? = some ((initial.written? k history).getD 0) := by
    intro k hk hmax
    have hroom : k < p.buffer.length := by rwa [hsound.length_buffer]
    rw [hbuffer, getElem?_buffer_feed hroom, written?_bytes waiting f.kind f.id hle hk,
      Option.none_or, hinitial k hmax]
  refine ⟨f, by rw [hresults, Frame.length_bytes, Nat.add_sub_assoc (by decide)], rfl, rfl,
    hlength.symm, rfl, hstale, ?_⟩
  rw [Frame.new_payload_iff hlength (hbuffer ▸ (sound_feed hsound _).length_buffer), hlength]
  refine forall_congr' fun k => forall_congr' fun hk => forall_congr' fun hmax => ?_
  rw [hstale k (hlength ▸ hk) hmax, Option.some_inj]

/-- A frame equals the frame that was sent although a longer one came before, as only zeros were
written past its payload. -/
theorem received_frame_eq_sent_after_zeros :
    let history := Frame.bytes .response 1 [0x10, 0x20, 0x00]
    (initial.feed history).1.stage = .sync ∧
      Frame.encode .notify 2 [0x05, 0x06] 13 = .ok (Frame.bytes .notify 2 [0x05, 0x06]) ∧
      ∃ f : Frame, ((initial.feed history).1.feed (Frame.bytes .notify 2 [0x05, 0x06])).2 =
          List.replicate 6 .pending ++ [.frame f] ∧
        Frame.new .notify 2 [0x05, 0x06] = .ok f := by
  intro history
  have hwaiting : (initial.feed history).1.stage = .sync := by decide +kernel
  have hencoded : Frame.encode .notify 2 [0x05, 0x06] 13 =
      .ok (Frame.bytes .notify 2 [0x05, 0x06]) := rfl
  obtain ⟨f, hresults, -, -, -, -, -, hsent⟩ := received_frame_eq_sent_iff history hwaiting hencoded
  have hzero : ∀ k, k < maxPayload → 2 ≤ k → (initial.written? k history).getD 0 = 0 := by
    decide +kernel
  exact ⟨hwaiting, hencoded, f, hresults, hsent.mpr fun k hk hmax => hzero k hmax hk⟩

/-- A frame does not equal the frame that was sent: it holds two bytes of the longer frame before
it.  Nor does it equal the same frame received before that one. -/
theorem received_frame_holds_earlier_payload :
    let sent : Frame := ⟨.notify, 2, 1, [0x05, 0, 0, 0, 0, 0, 0, 0]⟩
    let received : Frame := ⟨.notify, 2, 1, [0x05, 0x00, 0xF0, 0xFF, 0, 0, 0, 0]⟩
    let wire := Frame.bytes .notify 2 [0x05]
    let between := Frame.bytes .response 1 [0x10, 0x00, 0xF0, 0xFF]
    Frame.new .notify 2 [0x05] = .ok sent ∧ Frame.encode .notify 2 [0x05] 13 = .ok wire ∧
      (initial.feed (wire ++ between)).1.stage = .sync ∧
      (initial.feed wire).2 = List.replicate 5 .pending ++ [.frame sent] ∧
      ((initial.feed (wire ++ between)).1.feed wire).2 =
        List.replicate 5 .pending ++ [.frame received] ∧
      received.payload = sent.payload ∧ received ≠ sent := by
  intro sent received wire between
  exact ⟨rfl, rfl, by decide +kernel, by decide +kernel, by decide +kernel, rfl, by decide⟩

end Parser

end TwinBall
