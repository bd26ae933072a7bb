import TwinBall.Proofs.Wire.RoundTrip
import TwinBall.Proofs.Wire.Syndrome

/-!
# Frames that were altered on the line

A parser that expects a sync byte refuses a frame whose bytes were altered between the sync byte and
its end, and does so on the last byte, because of the checksum: if one, two or three bits were
flipped, or if one byte was replaced (`feed_altered`).

This holds as long as the parser still finds the end of the frame, so the sync byte and the length
have to arrive as they were sent, and the byte in the place of the kind has to name a kind.
-/

namespace TwinBall

/-! ## Alterations -/

/-- What arrives in the place of the bytes of a frame. -/
structure Altered (sent received : List UInt8) : Prop where
  length : received.length = sent.length
  sync : received[0]? = sent[0]?
  kind : ∃ kind : FrameKind, received[1]? = some kind.code
  payloadLength : received[3]? = sent[3]?

/-- A set bit for every bit that was flipped on the line. -/
def flips (sent received : List UInt8) : List UInt8 := sent.zipWith (· ^^^ ·) received

/-- The number of bits that were flipped on the line. -/
def flippedBits (sent received : List UInt8) : Nat :=
  ((flips sent received).map fun b => (Crc.places b).length).sum

/-- The number of bytes that were replaced on the line. -/
def changedBytes (sent received : List UInt8) : Nat :=
  (sent.zip received).countP fun b => b.1 != b.2

theorem countP_flips (sent received : List UInt8) :
    (flips sent received).countP (· != 0) = changedBytes sent received := by
  rw [flips, ← List.map_uncurry_zip_eq_zipWith, List.countP_map, changedBytes]
  refine List.countP_congr ?_
  rintro ⟨a, b⟩ -
  simp

theorem flippedBits_cons_self (b : UInt8) (sent received : List UInt8) :
    flippedBits (b :: sent) (b :: received) = flippedBits sent received := by
  have hnone : (Crc.places 0).length = 0 := rfl
  simp [flippedBits, flips, hnone]

theorem changedBytes_cons_self (b : UInt8) (sent received : List UInt8) :
    changedBytes (b :: sent) (b :: received) = changedBytes sent received := by
  simp [changedBytes]

/-- What arrives reads like a frame with a payload of the same length and any checksum. -/
theorem Altered.exists_body {kind : FrameKind} {id : UInt8} {payload received : List UInt8}
    (h : Altered (Frame.bytes kind id payload) received) :
    ∃ (kind' : FrameKind) (id' : UInt8) (payload' : List UInt8) (c : UInt8),
      payload'.length = payload.length ∧
        received = frameSync :: (Frame.body kind' id' payload' ++ [c]) := by
  obtain ⟨hlength, hsync, ⟨kind', hkind⟩, hpayload⟩ := h
  rw [Frame.length_bytes] at hlength
  match received with
  | [] | [_] | [_, _] | [_, _, _] | [_, _, _, _] => simp at hlength
  | sync :: code :: id' :: length :: b :: rest =>
    have hne : b :: rest ≠ [] := List.cons_ne_nil _ _
    obtain rfl : sync = frameSync := by simpa [Frame.bytes] using hsync
    obtain rfl : code = kind'.code := by simpa using hkind
    obtain rfl : length = UInt8.ofNat payload.length := by
      simpa [Frame.bytes, Frame.body] using hpayload
    have hsame : (b :: rest).dropLast.length = payload.length := by
      simp only [List.length_cons] at hlength
      simp only [List.length_dropLast, List.length_cons]
      omega
    refine ⟨kind', id', (b :: rest).dropLast, (b :: rest).getLast hne, hsame, ?_⟩
    rw [Frame.body, hsame, List.cons_append, List.cons_append, List.cons_append,
      List.dropLast_append_getLast hne]

/-- The checksum does not fit what arrives if few bits were flipped or one byte was replaced. -/
theorem checksum_ne_of_flips {sent received : List UInt8} {c c' : UInt8}
    (hc : c = Crc.checksum sent) (hlength : sent.length = received.length)
    (hshort : 8 * (sent.length + 1) ≤ Crc.order)
    (hfew : 1 ≤ flippedBits (sent ++ [c]) (received ++ [c']) ∧
        flippedBits (sent ++ [c]) (received ++ [c']) ≤ 3 ∨
      changedBytes (sent ++ [c]) (received ++ [c']) = 1) :
    c' ≠ Crc.checksum received := by
  have hlength' : (sent ++ [c]).length = (received ++ [c']).length := by simp [hlength]
  have hsum := Crc.checksum_xor hlength'
  rw [Crc.checksum_concat_eq_zero.mpr hc, UInt8.zero_xor] at hsum
  have hseen : Crc.checksum (flips (sent ++ [c]) (received ++ [c'])) ≠ 0 := by
    rcases hfew with ⟨hsome, hfew⟩ | hone
    · rw [flippedBits, ← Crc.length_bitPlaces] at hsome hfew
      refine Crc.checksum_ne_zero_of_few_bits (List.ne_nil_of_length_pos hsome) hfew ?_
      simpa [flips, hlength] using hshort
    · exact Crc.checksum_ne_zero_of_one_byte ((countP_flips _ _).trans hone)
  intro hfits
  exact hseen (hsum.trans (Crc.checksum_concat_eq_zero.mpr hfits))

/-! ## Reading what arrives -/

namespace Parser

/-- The checksum takes in every byte that belongs to a frame. -/
theorem crc_push_of_pending {p : Parser} {byte : UInt8} (hs : p.stage ≠ .sync)
    (h : (p.push byte).2 = .pending) :
    (p.push byte).1.stage ≠ .sync ∧ (p.push byte).1.crc = Crc.byteStep p.crc byte := by
  cases hstage : p.stage with
  | sync => exact absurd hstage hs
  | kind =>
    simp only [push, hstage] at h ⊢
    split at h
    · exact ⟨by simp, rfl⟩
    · cases h
  | id kind =>
    simp only [push, hstage]
    exact ⟨by simp, rfl⟩
  | length kind id =>
    simp only [push, hstage] at h ⊢
    split at h
    · cases h
    · next hle =>
      rw [if_neg hle]
      split
      · exact ⟨by simp, rfl⟩
      · exact ⟨by simp, rfl⟩
  | payload kind id length position =>
    simp only [push, hstage]
    refine ⟨?_, rfl⟩
    split
    · simp
    · simp
  | checksum kind id length =>
    simp only [push, hstage] at h
    split at h
    · cases h
    · cases h

theorem crc_feed_of_pending {p : Parser} {bytes : List UInt8} (hs : p.stage ≠ .sync)
    (h : (p.feed bytes).2 = List.replicate bytes.length .pending) :
    (p.feed bytes).1.crc = Crc.extend p.crc bytes := by
  induction bytes generalizing p with
  | nil => rfl
  | cons byte bytes ih =>
    rw [feed_cons, List.length_cons, List.replicate_succ] at h
    obtain ⟨hfirst, hrest⟩ := List.cons.inj h
    obtain ⟨hstage, hcrc⟩ := crc_push_of_pending hs hfirst
    rw [feed_cons, ih hstage hrest, hcrc, Crc.extend_cons]

/-- After the bytes of a frame before its checksum, the parser knows their checksum. -/
theorem crc_feed_body {p : Parser} (hs : p.stage = .sync) (kind : FrameKind) (id : UInt8)
    {payload : List UInt8} (hle : payload.length ≤ maxPayload) :
    (p.feed (frameSync :: Frame.body kind id payload)).1.crc =
      Crc.checksum (Frame.body kind id payload) := by
  have hpush : p.push frameSync = ({ p.reset with stage := .kind }, .pending) := by
    simp [push, hs]
  have hpending := (feed_body hs kind id hle).2
  rw [feed_cons, List.replicate_succ, hpush] at hpending
  have hkind : ({ p.reset with stage := .kind } : Parser).stage ≠ .sync := by simp
  rw [feed_cons, hpush]
  exact crc_feed_of_pending hkind (List.cons.inj hpending).2

/-- **An altered frame is refused on its last byte.**  A parser that expects a sync byte, whatever
it read before, finds the checksum wrong if one, two or three bits of the frame were flipped or if
one of its bytes was replaced. -/
theorem feed_altered {kind : FrameKind} {id : UInt8} {payload sent received : List UInt8}
    {room : Nat} (encoded : Frame.encode kind id payload room = .ok sent)
    (altered : Altered sent received)
    (few : 1 ≤ flippedBits sent received ∧ flippedBits sent received ≤ 3 ∨
      changedBytes sent received = 1)
    {p : Parser} (waiting : p.stage = .sync) :
    (p.feed received).2 = List.replicate (sent.length - 1) .pending ++ [.failed .crc] := by
  obtain ⟨hle, -, rfl⟩ := Frame.encode_eq_ok_iff.mp encoded
  obtain ⟨kind', id', payload', c, hlength, rfl⟩ := altered.exists_body
  have hle' : payload'.length ≤ maxPayload := hlength.trans_le hle
  have hbodies : (Frame.body kind id payload).length = (Frame.body kind' id' payload').length := by
    simp [Frame.body, hlength]
  have hshort : 8 * ((Frame.body kind id payload).length + 1) ≤ Crc.order := by
    have hmax : payload.length ≤ 8 := hle
    simp only [Frame.body, List.length_cons, Crc.order]
    omega
  rw [Frame.bytes, flippedBits_cons_self, changedBytes_cons_self] at few
  have hwrong := checksum_ne_of_flips rfl hbodies hshort few
  obtain ⟨hstage, hpending⟩ := feed_body waiting kind' id' hle'
  have hcrc := crc_feed_body waiting kind' id' hle'
  generalize hq : (p.feed (frameSync :: Frame.body kind' id' payload')).1 = q at hstage hcrc
  have hlast : q.push c = (q.reset, .failed .crc) := by
    simp [push, hstage, hcrc, hwrong]
  have hcount : (Frame.bytes kind id payload).length - 1 = payload'.length + 4 := by
    rw [Frame.length_bytes, hlength]
    rfl
  rw [← List.cons_append, feed_append, hq, hpending, feed_cons, hlast, hcount]
  rfl

/-- Three flipped bits, one of them in the kind and two in the payload, which then holds a sync
byte. -/
theorem feed_altered_thrice :
    Frame.encode .request 1 [0xA4, 0x10] 16 =
        .ok [0xA5, 0x01, 0x01, 0x02, 0xA4, 0x10, 0x9E] ∧
      (initial.feed [0xA5, 0x03, 0x01, 0x02, 0xA5, 0x90, 0x9E]).2 =
        List.replicate 6 .pending ++ [.failed .crc] := by
  have encoded : Frame.encode .request 1 [0xA4, 0x10] 16 =
      .ok [0xA5, 0x01, 0x01, 0x02, 0xA4, 0x10, 0x9E] := by decide +kernel
  have altered : Altered [0xA5, 0x01, 0x01, 0x02, 0xA4, 0x10, 0x9E]
      [0xA5, 0x03, 0x01, 0x02, 0xA5, 0x90, 0x9E] := ⟨rfl, rfl, ⟨.response, rfl⟩, rfl⟩
  exact ⟨encoded, feed_altered encoded altered (.inl (by decide +kernel)) rfl⟩

end Parser

end TwinBall
