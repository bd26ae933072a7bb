import TwinBall.Wire.Parser

/-!
# What a parser has read

A parser that has only been fed bytes knows exactly the bytes of the frame it is receiving.  `held`
lists them, from the sync byte on, and `Sound` ties the rest of its state to them: the checksum is
the one of the held bytes, and the receive buffer is written inside its bounds only.

The main statements are `sound_push` and `push_cases`, which say once what a byte can do to a sound
parser, and `feed_frame`, which follows the stages through the bytes of one frame.
-/

namespace TwinBall.Parser

/-- The bytes of the frame that is being received, from its sync byte on. -/
def held (p : Parser) : List UInt8 :=
  match p.stage with
  | .sync => []
  | .kind => [frameSync]
  | .id kind => [frameSync, kind.code]
  | .length kind id => [frameSync, kind.code, id]
  | .payload kind id length position =>
    frameSync :: kind.code :: id :: UInt8.ofNat length :: p.buffer.take position
  | .checksum kind id length =>
    frameSync :: kind.code :: id :: UInt8.ofNat length :: p.buffer.take length

/-- The payload fits into the receive buffer, and the next payload byte belongs to the payload. -/
def InBounds (p : Parser) : Prop :=
  match p.stage with
  | .payload _ _ length position => position < length ∧ length ≤ maxPayload
  | .checksum _ _ length => length ≤ maxPayload
  | _ => True

/-- The state of a parser agrees with the bytes that it holds. -/
structure Sound (p : Parser) : Prop where
  length_buffer : p.buffer.length = maxPayload
  inBounds : p.InBounds
  /-- The checksum covers everything after the sync byte. -/
  crc_eq : p.crc = Crc.checksum p.held.tail

theorem sound_initial : initial.Sound := ⟨rfl, trivial, rfl⟩

theorem held_eq_nil {p : Parser} (h : p.stage = .sync) : p.held = [] := by
  simp [held, h]

@[simp] theorem held_reset (p : Parser) : p.reset.held = [] := rfl

theorem Sound.reset {p : Parser} (hp : p.Sound) : p.reset.Sound :=
  ⟨hp.length_buffer, trivial, rfl⟩

theorem checksum_tail_concat {held : List UInt8} (h : held ≠ []) (byte : UInt8) :
    Crc.checksum (held ++ [byte]).tail = Crc.byteStep (Crc.checksum held.tail) byte := by
  rw [List.tail_append_of_ne_nil h, Crc.checksum, Crc.extend_append]
  rfl

/-! ## One byte -/

/-- What one byte does to a sound parser: noise is skipped, a byte of the frame is held, the last
byte of a valid frame gives the frame that is held, and any other byte drops what was held. -/
inductive Step (p : Parser) (byte : UInt8) : Parser × Reception → Prop
  /-- Nothing is held and the byte is no sync byte. -/
  | skip (waiting : p.stage = .sync) (noise : byte ≠ frameSync) : Step p byte (p, .pending)
  /-- The byte is part of the frame. -/
  | hold (q : Parser) (sound : q.Sound) (held_eq : q.held = p.held ++ [byte]) :
    Step p byte (q, .pending)
  /-- The byte completes a frame. -/
  | emit (f : Frame) (fits : f.length ≤ f.buffer.length)
      (bounded : f.buffer.length = maxPayload)
      (bytes_eq : p.held ++ [byte] = Frame.bytes f.kind f.id f.payload) :
    Step p byte (p.reset, .frame f)
  /-- The byte cannot be part of a frame. -/
  | drop (e : FrameError) : Step p byte (p.reset, .failed e)

/-- A byte of the frame leads to a sound parser as soon as the new stage is the right one. -/
theorem sound_advance {p : Parser} (hp : p.Sound) {byte : UInt8} {q : Parser}
    (hne : p.held ≠ []) (hcrc : q.crc = Crc.byteStep p.crc byte)
    (hbuffer : q.buffer.length = maxPayload) (hbounds : q.InBounds)
    (hheld : q.held = p.held ++ [byte]) : q.Sound := by
  refine ⟨hbuffer, hbounds, ?_⟩
  rw [hcrc, hp.crc_eq, hheld, checksum_tail_concat hne]

theorem code_of_ofCode? {c : UInt8} {kind : FrameKind} (h : FrameKind.ofCode? c = some kind) :
    c = kind.code := by
  unfold FrameKind.ofCode? at h
  split at h
  · cases h; assumption
  · split at h
    · cases h; assumption
    · split at h
      · cases h; assumption
      · cases h

theorem take_succ_set {buffer : List UInt8} {position : Nat} (h : position < buffer.length)
    (byte : UInt8) :
    (buffer.set position byte).take (position + 1) = buffer.take position ++ [byte] := by
  rw [List.take_add_one, List.take_set_of_le (Nat.le_refl position)]
  simp [h]

/-- **What a byte does to a sound parser is one of the four steps.** -/
theorem push_cases {p : Parser} (hp : p.Sound) (byte : UInt8) : p.Step byte (p.push byte) := by
  cases hs : p.stage with
  | sync =>
    simp only [push, hs]
    split
    · next hb =>
      subst hb
      refine .hold _ ⟨hp.length_buffer, trivial, rfl⟩ ?_
      simp [held, hs]
    · next hb => exact .skip hs hb
  | kind =>
    have hne : p.held ≠ [] := by simp [held, hs]
    simp only [push, hs]
    split
    · next kind hk =>
      have heq : (p.advance byte (.id kind)).held = p.held ++ [byte] := by
        simp [held, advance, hs, code_of_ofCode? hk]
      exact .hold _ (sound_advance hp hne rfl hp.length_buffer trivial heq) heq
    · exact .drop _
  | id kind =>
    have hne : p.held ≠ [] := by simp [held, hs]
    simp only [push, hs]
    have heq : (p.advance byte (.length kind byte)).held = p.held ++ [byte] := by
      simp [held, advance, hs]
    exact .hold _ (sound_advance hp hne rfl hp.length_buffer trivial heq) heq
  | length kind id =>
    have hne : p.held ≠ [] := by simp [held, hs]
    simp only [push, hs]
    split
    · exact .drop _
    · next hle =>
      split
      · next hz =>
        have heq : (p.advance byte (.checksum kind id 0)).held = p.held ++ [byte] := by
          simp [held, advance, hs, hz]
        exact .hold _ (sound_advance hp hne rfl hp.length_buffer (Nat.zero_le _) heq) heq
      · next hz =>
        have hpos : 0 < byte.toNat := by
          rw [Nat.pos_iff_ne_zero]
          exact fun h => hz (UInt8.toNat_inj.mp h)
        have heq : (p.advance byte (.payload kind id byte.toNat 0)).held = p.held ++ [byte] := by
          simp [held, advance, hs]
        exact .hold _ (sound_advance hp hne rfl hp.length_buffer ⟨hpos, Nat.le_of_not_lt hle⟩ heq)
          heq
  | payload kind id length position =>
    have hne : p.held ≠ [] := by simp [held, hs]
    obtain ⟨hlt, hle⟩ : position < length ∧ length ≤ maxPayload := by
      simpa [InBounds, hs] using hp.inBounds
    have hroom : position < p.buffer.length := by
      rw [hp.length_buffer]
      exact Nat.lt_of_lt_of_le hlt hle
    have hbuffer : (p.buffer.set position byte).length = maxPayload := by
      rw [List.length_set, hp.length_buffer]
    simp only [push, hs]
    split
    · next hlast =>
      have heq : ({ p.advance byte (.checksum kind id length) with
          buffer := p.buffer.set position byte }).held = p.held ++ [byte] := by
        simp [held, hs, advance, ← hlast, take_succ_set hroom]
      exact .hold _ (sound_advance hp hne rfl hbuffer hle heq) heq
    · next hmore =>
      have heq : ({ p.advance byte (.payload kind id length (position + 1)) with
          buffer := p.buffer.set position byte }).held = p.held ++ [byte] := by
        simp [held, hs, advance, take_succ_set hroom]
      exact .hold _ (sound_advance hp hne rfl hbuffer ⟨by omega, hle⟩ heq) heq
  | checksum kind id length =>
    have hle : length ≤ maxPayload := by simpa [InBounds, hs] using hp.inBounds
    have hfits : length ≤ p.buffer.length := by rw [hp.length_buffer]; exact hle
    simp only [push, hs]
    split
    · next hcrc =>
      refine .emit ⟨kind, id, length, p.buffer⟩ hfits hp.length_buffer ?_
      have hbody : p.held = frameSync :: Frame.body kind id (p.buffer.take length) := by
        simp [held, hs, Frame.body, Nat.min_eq_left hfits]
      rw [hcrc, hp.crc_eq, hbody]
      rfl
    · exact .drop _

theorem sound_push {p : Parser} (hp : p.Sound) (byte : UInt8) : (p.push byte).1.Sound := by
  have h := push_cases hp byte
  generalize p.push byte = r at h ⊢
  cases h with
  | skip => exact hp
  | hold q sound => exact sound
  | emit => exact hp.reset
  | drop => exact hp.reset

/-- Bytes that bring nothing are held, unless nothing is held yet. -/
theorem held_push_of_pending {p : Parser} (hp : p.Sound) {byte : UInt8}
    (h : (p.push byte).2 = .pending) :
    (p.push byte).1.held = p.held ++ [byte] ∨
      p.stage = .sync ∧ byte ≠ frameSync ∧ (p.push byte).1 = p := by
  have hstep := push_cases hp byte
  generalize p.push byte = r at h hstep ⊢
  cases hstep with
  | skip waiting noise => exact Or.inr ⟨waiting, noise, rfl⟩
  | hold q sound held_eq => exact Or.inl held_eq
  | emit => cases h
  | drop => cases h

/-! ## Many bytes -/

theorem sound_feed {p : Parser} (hp : p.Sound) (bytes : List UInt8) : (p.feed bytes).1.Sound := by
  induction bytes generalizing p with
  | nil => exact hp
  | cons byte bytes ih =>
    rw [feed_cons]
    exact ih (sound_push hp byte)

/-- As long as bytes bring nothing, all of them are held. -/
theorem held_feed_of_pending {p : Parser} (hp : p.Sound) {bytes : List UInt8} (hne : p.held ≠ [])
    (h : (p.feed bytes).2 = List.replicate bytes.length .pending) :
    (p.feed bytes).1.held = p.held ++ bytes := by
  induction bytes generalizing p with
  | nil => simp
  | cons byte bytes ih =>
    rw [feed_cons, List.length_cons, List.replicate_succ] at h
    obtain ⟨hfirst, hrest⟩ := List.cons.inj h
    have hheld : (p.push byte).1.held = p.held ++ [byte] := by
      rcases held_push_of_pending hp hfirst with heq | ⟨hs, -, -⟩
      · exact heq
      · exact absurd (held_eq_nil hs) hne
    rw [feed_cons]
    have hnext := ih (sound_push hp byte) (by simp [hheld]) hrest
    rw [hnext, hheld, List.append_assoc, List.singleton_append]

/-- Noise before a frame brings nothing and leaves the parser as it is. -/
theorem feed_noise {p : Parser} (h : p.stage = .sync) {noise : List UInt8}
    (quiet : frameSync ∉ noise) : p.feed noise = (p, List.replicate noise.length .pending) := by
  induction noise with
  | nil => rfl
  | cons byte noise ih =>
    have hbyte : byte ≠ frameSync := fun e => quiet (by simp [e])
    have hpush : p.push byte = (p, .pending) := by simp [push, h, hbyte]
    rw [feed_cons, hpush, ih (fun hmem => quiet (List.mem_cons_of_mem _ hmem))]
    rfl

/-- Payload bytes bring nothing; after the last of them comes the checksum. -/
theorem feed_payload {p : Parser} {kind : FrameKind} {id : UInt8} {length position : Nat}
    {bytes : List UInt8} (hs : p.stage = .payload kind id length position) (hne : bytes ≠ [])
    (hlen : position + bytes.length = length) :
    (p.feed bytes).1.stage = .checksum kind id length ∧
      (p.feed bytes).2 = List.replicate bytes.length .pending := by
  induction bytes generalizing p position with
  | nil => exact absurd rfl hne
  | cons byte bytes ih =>
    rw [List.length_cons] at hlen
    have hpending : (p.push byte).2 = .pending := by simp [push, hs]
    by_cases hlast : position + 1 = length
    · have hnil : bytes = [] := List.eq_nil_of_length_eq_zero (by omega)
      subst hnil
      have hstage : (p.push byte).1.stage = .checksum kind id length := by
        simp [push, hs, hlast]
      rw [feed_cons, hpending]
      exact ⟨hstage, rfl⟩
    · have hmore : bytes ≠ [] := by
        rintro rfl
        exact hlast (by simpa using hlen)
      have hstage : (p.push byte).1.stage = .payload kind id length (position + 1) := by
        simp [push, hs, hlast]
      obtain ⟨h₁, h₂⟩ := ih hstage hmore (by omega)
      rw [feed_cons, hpending, h₂]
      exact ⟨h₁, rfl⟩

theorem feed_header {p : Parser} (hs : p.stage = .sync) (kind : FrameKind) (id : UInt8)
    {length : Nat} (hle : length ≤ maxPayload) :
    (p.feed [frameSync, kind.code, id, UInt8.ofNat length]).1.stage =
        (if length = 0 then .checksum kind id 0 else .payload kind id length 0) ∧
      (p.feed [frameSync, kind.code, id, UInt8.ofNat length]).2 =
        List.replicate 4 .pending := by
  have hsmall : length < 256 := Nat.lt_of_le_of_lt hle (by decide)
  have htoNat : (UInt8.ofNat length).toNat = length := UInt8.toNat_ofNat_of_lt hsmall
  have hbound : ¬ maxPayload < length := Nat.not_lt.mpr hle
  have hzero : UInt8.ofNat length = 0 ↔ length = 0 := by
    rw [← UInt8.toNat_inj, htoNat]
    rfl
  by_cases h : length = 0
  · subst h
    simp [feed_cons, push, hs]
  · simp [feed_cons, push, hs, htoNat, hbound, hzero, h]

/-- The bytes of a frame before its checksum bring nothing, and lead to the stage that expects the
checksum. -/
theorem feed_body {p : Parser} (hs : p.stage = .sync) (kind : FrameKind) (id : UInt8)
    {payload : List UInt8} (hle : payload.length ≤ maxPayload) :
    (p.feed (frameSync :: Frame.body kind id payload)).1.stage =
        .checksum kind id payload.length ∧
      (p.feed (frameSync :: Frame.body kind id payload)).2 =
        List.replicate (payload.length + 4) .pending := by
  have hsplit : frameSync :: Frame.body kind id payload =
      [frameSync, kind.code, id, UInt8.ofNat payload.length] ++ payload := rfl
  obtain ⟨hstage, hpending⟩ := feed_header hs kind id hle
  rw [hsplit, feed_append, hpending]
  by_cases hnil : payload = []
  · subst hnil
    exact ⟨hstage, rfl⟩
  · rw [if_neg (by simpa using hnil)] at hstage
    obtain ⟨h₁, h₂⟩ := feed_payload hstage hnil (Nat.zero_add _)
    refine ⟨h₁, ?_⟩
    rw [h₂, List.replicate_append_replicate, Nat.add_comm]

/-- After the bytes of a frame before its checksum, exactly these are held. -/
theorem held_feed_body {p : Parser} (hp : p.Sound) (hs : p.stage = .sync) (kind : FrameKind)
    (id : UInt8) {payload : List UInt8} (hle : payload.length ≤ maxPayload) :
    (p.feed (frameSync :: Frame.body kind id payload)).1.held =
      frameSync :: Frame.body kind id payload := by
  have hpush : p.push frameSync = ({ p.reset with stage := .kind }, .pending) := by
    simp [push, hs]
  have hheld : (p.push frameSync).1.held = [frameSync] := by rw [hpush]; rfl
  have hpending := (feed_body hs kind id hle).2
  rw [feed_cons, List.replicate_succ] at hpending
  have hrest : ((p.push frameSync).1.feed (Frame.body kind id payload)).2 =
      List.replicate (Frame.body kind id payload).length .pending :=
    (List.cons.inj hpending).2
  rw [feed_cons, held_feed_of_pending (sound_push hp frameSync) (by simp [hheld]) hrest, hheld]
  rfl

/-- **A sound parser that expects a sync byte reads back the frame that was written**, on the last
of its bytes, and expects a sync byte again. -/
theorem feed_frame {p : Parser} (hp : p.Sound) (hs : p.stage = .sync) (kind : FrameKind)
    (id : UInt8) {payload : List UInt8} (hle : payload.length ≤ maxPayload) :
    ∃ f : Frame, f.kind = kind ∧ f.id = id ∧ f.payload = payload ∧
      (p.feed (Frame.bytes kind id payload)).1.stage = .sync ∧
      (p.feed (Frame.bytes kind id payload)).2 =
        List.replicate (payload.length + 4) .pending ++ [.frame f] := by
  obtain ⟨hstage, hpending⟩ := feed_body hs kind id hle
  have hheld := held_feed_body hp hs kind id hle
  have hsplit : Frame.bytes kind id payload =
      (frameSync :: Frame.body kind id payload) ++
        [Crc.checksum (Frame.body kind id payload)] := rfl
  have hsound := sound_feed hp (frameSync :: Frame.body kind id payload)
  -- What is held determines the checksum and the payload, so the last byte is the right one.
  generalize hq : (p.feed (frameSync :: Frame.body kind id payload)).1 = q at hstage hheld hsound
  have hcrc : q.crc = Crc.checksum (Frame.body kind id payload) := by
    rw [hsound.crc_eq, hheld, List.tail_cons]
  have hpayload : q.buffer.take payload.length = payload := by
    rw [held, hstage] at hheld
    simpa [Frame.body] using hheld
  have hlast : q.push (Crc.checksum (Frame.body kind id payload)) =
      (q.reset, .frame ⟨kind, id, payload.length, q.buffer⟩) := by
    simp [push, hstage, hcrc]
  refine ⟨⟨kind, id, payload.length, q.buffer⟩, rfl, rfl, hpayload, ?_, ?_⟩
  · rw [hsplit, feed_append, hq, feed_cons, hlast]
    rfl
  · rw [hsplit, feed_append, hq, hpending, feed_cons, hlast]
    rfl

end TwinBall.Parser
