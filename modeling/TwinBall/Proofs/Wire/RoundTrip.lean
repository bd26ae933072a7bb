import TwinBall.Proofs.Wire.Reading

/-!
# Frames sent over a noisy line

What is sent frame by frame, with noise between the frames, is read back frame by frame: every
frame on its last byte, and nothing on any other byte.  The receiver may be new, or it may have
read anything at all before a gap of `recoveryGap` bytes of noise.

The gap is long enough because every byte of noise brings a parser in the middle of a frame nearer
to the end of that frame (`remaining_push`), however the frame ends.
-/

namespace TwinBall

/-- A frame is encoded if its payload is allowed and the output has room, and in no other way. -/
theorem Frame.encode_eq_ok_iff {kind : FrameKind} {id : UInt8} {payload wire : List UInt8}
    {room : Nat} :
    Frame.encode kind id payload room = .ok wire ↔
      payload.length ≤ maxPayload ∧ payload.length + 5 ≤ room ∧
        wire = Frame.bytes kind id payload := by
  unfold Frame.encode
  rw [Frame.length_bytes]
  constructor
  · intro h
    split at h
    · cases h
    · next hle =>
      split at h
      · cases h
      · next hroom =>
        cases h
        exact ⟨Nat.le_of_not_lt hle, Nat.le_of_not_lt hroom, rfl⟩
  · rintro ⟨hle, hroom, rfl⟩
    rw [if_neg (Nat.not_lt.mpr hle), if_neg (Nat.not_lt.mpr hroom)]

/-- What a byte brings, without the receive buffer: nothing, a frame with its kind, id and payload,
or an error. -/
def Reception.result :
    Reception → Except FrameError (Option (FrameKind × UInt8 × List UInt8))
  | .pending => .ok none
  | .frame f => .ok (some (f.kind, f.id, f.payload))
  | .failed e => .error e

/-- A frame as it goes over the line, and the noise between it and the next frame. -/
structure Transmission where
  kind : FrameKind
  id : UInt8
  /-- Its payload; any byte may occur in it. -/
  payload : List UInt8
  /-- The size of the output that it was encoded into. -/
  room : Nat
  wire : List UInt8
  encoded : Frame.encode kind id payload room = .ok wire
  /-- The noise after the frame. -/
  noise : List UInt8
  quiet : frameSync ∉ noise

namespace Transmission

/-- Every payload of at most `maxPayload` bytes can be sent. -/
def ofPayload (kind : FrameKind) (id : UInt8) (payload : List UInt8)
    (hle : payload.length ≤ maxPayload) (noise : List UInt8) (quiet : frameSync ∉ noise) :
    Transmission :=
  ⟨kind, id, payload, payload.length + 5, Frame.bytes kind id payload,
    Frame.encode_eq_ok_iff.mpr ⟨hle, Nat.le_refl _, rfl⟩, noise, quiet⟩

def line (t : Transmission) : List UInt8 := t.wire ++ t.noise

/-- What each byte of it should bring: the frame on the last byte of its encoding, and nothing on
every other byte. -/
def results (t : Transmission) :
    List (Except FrameError (Option (FrameKind × UInt8 × List UInt8))) :=
  List.replicate (t.wire.length - 1) (.ok none) ++ [.ok (some (t.kind, t.id, t.payload))] ++
    List.replicate t.noise.length (.ok none)

end Transmission

namespace Parser

/-- The number of bytes that a parser can take in before it expects a sync byte again. -/
def remaining (p : Parser) : Nat :=
  match p.stage with
  | .sync => 0
  | .kind => maxPayload + 4
  | .id _ => maxPayload + 3
  | .length _ _ => maxPayload + 2
  | .payload _ _ length position => length - position + 1
  | .checksum _ _ _ => 1

/-- The length of a gap after which every parser expects a sync byte. -/
def recoveryGap : Nat := 12

theorem stage_eq_sync {p : Parser} (h : p.remaining = 0) : p.stage = .sync := by
  unfold remaining at h
  split at h
  · assumption
  all_goals exact absurd h (Nat.succ_ne_zero _)

theorem remaining_le {p : Parser} (hp : p.Sound) : p.remaining ≤ recoveryGap := by
  cases hs : p.stage with
  | payload kind id length position =>
    obtain ⟨-, hle⟩ : position < length ∧ length ≤ maxPayload := by
      simpa [InBounds, hs] using hp.inBounds
    have hmax : length ≤ 8 := hle
    simp only [remaining, hs, recoveryGap]
    omega
  | _ => simp [remaining, hs, recoveryGap, maxPayload]

theorem remaining_push {p : Parser} (hp : p.Sound) {byte : UInt8} (hb : byte ≠ frameSync) :
    (p.push byte).1.remaining ≤ p.remaining - 1 := by
  cases hs : p.stage with
  | sync => simp [push, hs, hb, remaining]
  | kind =>
    simp only [push, hs]
    split <;> simp [remaining, hs]
  | id kind => simp [push, hs, remaining]
  | length kind id =>
    simp only [push, hs]
    split
    · simp [remaining]
    · next hle =>
      split
      · simp [remaining, hs]
      · simp only [remaining, hs, stage_advance]
        omega
  | payload kind id length position =>
    -- Here the bound comes from the state: the position is inside the payload.
    obtain ⟨hlt, -⟩ : position < length ∧ length ≤ maxPayload := by
      simpa [InBounds, hs] using hp.inBounds
    simp only [push, hs]
    split
    · simp only [remaining, hs, stage_advance]
      omega
    · simp only [remaining, hs, stage_advance]
      omega
  | checksum kind id length =>
    simp only [push, hs]
    split <;> simp [remaining]

theorem remaining_feed {p : Parser} (hp : p.Sound) {gap : List UInt8} (quiet : frameSync ∉ gap) :
    (p.feed gap).1.remaining ≤ p.remaining - gap.length := by
  induction gap generalizing p with
  | nil => exact Nat.le_refl _
  | cons byte gap ih =>
    have hbyte : byte ≠ frameSync := fun e => quiet (by simp [e])
    have hfirst := remaining_push hp hbyte
    have hrest := ih (sound_push hp byte) (fun hmem => quiet (List.mem_cons_of_mem _ hmem))
    rw [feed_cons, List.length_cons]
    exact Nat.le_trans hrest (by omega)

/-- A parser expects a sync byte after a gap, whatever it read before. -/
theorem stage_feed_gap {p : Parser} (hp : p.Sound) {gap : List UInt8}
    (long : recoveryGap ≤ gap.length) (quiet : frameSync ∉ gap) :
    (p.feed gap).1.stage = .sync := by
  have hfeed := remaining_feed hp quiet
  have hbound := remaining_le hp
  exact stage_eq_sync (by omega)

/-- A parser from which frames can be read: it has read nothing, or anything followed by a gap. -/
inductive Settled : Parser → Prop
  | initial : Settled initial
  /-- Anything was read, and then a gap. -/
  | gap (history gap : List UInt8) (long : recoveryGap ≤ gap.length) (quiet : frameSync ∉ gap) :
    Settled (Parser.initial.feed (history ++ gap)).1

theorem Settled.sound {p : Parser} (h : p.Settled) : p.Sound := by
  cases h with
  | initial => exact sound_initial
  | gap => exact sound_feed sound_initial _

theorem Settled.stage_eq {p : Parser} (h : p.Settled) : p.stage = .sync := by
  cases h with
  | initial => rfl
  | gap history gap long quiet =>
    rw [feed_append]
    exact stage_feed_gap (sound_feed sound_initial history) long quiet

theorem feed_transmission {p : Parser} (hp : p.Sound) (hs : p.stage = .sync) (t : Transmission) :
    (p.feed t.line).1.stage = .sync ∧ (p.feed t.line).2.map Reception.result = t.results := by
  obtain ⟨hle, -, hwire⟩ := Frame.encode_eq_ok_iff.mp t.encoded
  obtain ⟨f, hkind, hid, hpayload, hstage, hbytes⟩ := feed_frame hp hs t.kind t.id hle
  have hlength : t.wire.length - 1 = t.payload.length + 4 := by
    rw [hwire, Frame.length_bytes]
    rfl
  rw [Transmission.line, Transmission.results, hlength, feed_append, hwire,
    feed_noise hstage t.quiet, hbytes]
  refine ⟨hstage, ?_⟩
  simp [Reception.result, hkind, hid, hpayload]

theorem feed_transmissions {p : Parser} (hp : p.Sound) (hs : p.stage = .sync)
    (ts : List Transmission) :
    (p.feed (ts.flatMap Transmission.line)).2.map Reception.result =
      ts.flatMap Transmission.results := by
  induction ts generalizing p with
  | nil => rfl
  | cons t ts ih =>
    obtain ⟨hstage, hresults⟩ := feed_transmission hp hs t
    rw [List.flatMap_cons, List.flatMap_cons, feed_append, List.map_append, hresults,
      ih (sound_feed hp t.line) hstage]

/-- **What is sent is read back.**  A new parser, and likewise one that has read anything followed
by a gap, answers every frame on the last byte of its encoding and nothing on all other bytes, for
all frames and all noise before, between and after them. -/
theorem results_feed_line {p : Parser} (hp : p.Settled) (ts : List Transmission)
    (lead : List UInt8) (quiet : frameSync ∉ lead) :
    (p.feed (lead ++ ts.flatMap Transmission.line)).2.map Reception.result =
      List.replicate lead.length (.ok none) ++ ts.flatMap Transmission.results := by
  rw [feed_append, feed_noise hp.stage_eq quiet, List.map_append,
    feed_transmissions hp.sound hp.stage_eq]
  simp [Reception.result]

/-- A frame with a sync byte in its payload is read after a frame that was broken off. -/
theorem results_feed_line_after_break :
    (initial.feed ([0xA5, 0x01, 0x00, 0x08, 0x07] ++ List.replicate 12 0x00)).1.Settled ∧
      frameSync ∉ [(0xFF : UInt8)] ∧
      ((initial.feed ([0xA5, 0x01, 0x00, 0x08, 0x07] ++ List.replicate 12 0x00)).1.feed
          ([0xFF] ++ [Transmission.ofPayload .notify 2 [0xA5, 0x09] (by decide) [0x00]
            (by decide)].flatMap Transmission.line)).2.map Reception.result =
        List.replicate 7 (.ok none) ++ [.ok (some (.notify, 2, [0xA5, 0x09])), .ok none] :=
  have settled : (initial.feed
      ([0xA5, 0x01, 0x00, 0x08, 0x07] ++ List.replicate 12 0x00)).1.Settled :=
    .gap _ _ (by decide) (by decide)
  ⟨settled, by decide, results_feed_line settled _ [0xFF] (by decide)⟩

end Parser

end TwinBall
