import TwinBall.Proofs.Wire.RoundTrip

/-!
# Frames read from any stream

Whatever bytes arrive, a frame is read only where its encoding has just arrived, and no byte
belongs to two frames.  The invariant is that the parser holds a suffix of what has arrived since
the last frame, so the encoding that it answers is one as well (`Emits.suffix`).
-/

namespace TwinBall.Parser

/-- The byte at position `i` of the stream brings the frame `f`. -/
def Emits (p : Parser) (bytes : List UInt8) (i : Nat) (f : Frame) : Prop :=
  (p.feed bytes).2[i]? = some (.frame f)

variable {p : Parser} {bytes : List UInt8} {i : Nat} {f : Frame}

theorem emits_cons_zero {byte : UInt8} :
    p.Emits (byte :: bytes) 0 f ↔ (p.push byte).2 = .frame f := by
  simp [Emits, feed_cons]

theorem emits_cons_succ {byte : UInt8} :
    p.Emits (byte :: bytes) (i + 1) f ↔ (p.push byte).1.Emits bytes i f := by
  simp [Emits, feed_cons]

theorem Emits.lt (h : p.Emits bytes i f) : i < bytes.length := by
  rw [← length_feed p bytes]
  exact (List.getElem?_eq_some_iff.mp h).1

/-- A frame that comes later is read by the parser as it is then. -/
theorem Emits.drop {n k : Nat} (hn : n ≤ bytes.length) (h : p.Emits bytes (n + k) f) :
    (p.feed (bytes.take n)).1.Emits (bytes.drop n) k f := by
  have hlength : (p.feed (bytes.take n)).2.length = n := by
    rw [length_feed, List.length_take, Nat.min_eq_left hn]
  unfold Emits at h ⊢
  rw [← List.take_append_drop n bytes, feed_append, List.getElem?_append_right (by omega),
    hlength, Nat.add_sub_cancel_left] at h
  exact h

/-! ## One byte -/

theorem push_frame (hp : p.Sound) {byte : UInt8} (h : (p.push byte).2 = .frame f) :
    p.held ++ [byte] = Frame.bytes f.kind f.id f.payload ∧ f.length ≤ f.buffer.length ∧
      f.buffer.length = maxPayload ∧ (p.push byte).1.stage = .sync := by
  have hstep := push_cases hp byte
  generalize p.push byte = r at h hstep ⊢
  cases hstep with
  | skip => cases h
  | hold => cases h
  | emit g fits bounded bytes_eq =>
    cases h
    exact ⟨bytes_eq, fits, bounded, rfl⟩
  | drop => cases h

/-- What is held after a byte ends what was held before, followed by the byte. -/
theorem held_push_suffix (hp : p.Sound) (byte : UInt8) :
    (p.push byte).1.held <:+ p.held ++ [byte] := by
  have hstep := push_cases hp byte
  generalize p.push byte = r at hstep ⊢
  cases hstep with
  | skip waiting =>
    rw [held_eq_nil waiting]
    exact List.nil_suffix
  | hold q _ held_eq => exact held_eq ▸ List.suffix_rfl
  | emit => exact List.nil_suffix
  | drop => exact List.nil_suffix

/-! ## The stream -/

/-- The encoding of a frame that is read ends what was held, followed by what arrived. -/
theorem Emits.suffix (hp : p.Sound) (h : p.Emits bytes i f) :
    Frame.bytes f.kind f.id f.payload <:+ p.held ++ bytes.take (i + 1) := by
  induction bytes generalizing p i with
  | nil => exact absurd h.lt (Nat.not_lt_zero i)
  | cons byte bytes ih =>
    cases i with
    | zero =>
      obtain ⟨heq, -, -, -⟩ := push_frame hp (emits_cons_zero.mp h)
      rw [← heq]
      exact List.suffix_rfl
    | succ i =>
      -- The bytes that the first push dropped come before those that the frame left out later.
      obtain ⟨front, hfront⟩ := ih (sound_push hp byte) (emits_cons_succ.mp h)
      obtain ⟨lost, hlost⟩ := held_push_suffix hp byte
      refine ⟨lost ++ front, ?_⟩
      rw [List.append_assoc, hfront, ← List.append_assoc, hlost, List.take_succ_cons,
        List.append_assoc]
      rfl

theorem Emits.bounds (hp : p.Sound) (h : p.Emits bytes i f) :
    f.payload.length = f.length ∧ f.length ≤ maxPayload := by
  induction bytes generalizing p i with
  | nil => exact absurd h.lt (Nat.not_lt_zero i)
  | cons byte bytes ih =>
    cases i with
    | zero =>
      obtain ⟨-, hfits, hbuffer, -⟩ := push_frame hp (emits_cons_zero.mp h)
      refine ⟨?_, hbuffer ▸ hfits⟩
      rw [Frame.payload, List.length_take, Nat.min_eq_left hfits]
    | succ i => exact ih (sound_push hp byte) (emits_cons_succ.mp h)

/-- After a frame nothing is held. -/
theorem Emits.held_eq_nil (hp : p.Sound) (h : p.Emits bytes i f) :
    (p.feed (bytes.take (i + 1))).1.held = [] := by
  induction bytes generalizing p i with
  | nil => exact absurd h.lt (Nat.not_lt_zero i)
  | cons byte bytes ih =>
    cases i with
    | zero =>
      obtain ⟨-, -, -, hstage⟩ := push_frame hp (emits_cons_zero.mp h)
      simpa [feed_cons] using Parser.held_eq_nil hstage
    | succ i =>
      rw [List.take_succ_cons, feed_cons]
      exact ih (sound_push hp byte) (emits_cons_succ.mp h)

/-- The bytes of a frame come after those of every frame before it. -/
theorem Emits.disjoint (hp : p.Sound) {j : Nat} {g : Frame} (hij : i < j)
    (hf : p.Emits bytes i f) (hg : p.Emits bytes j g) : i + (g.payload.length + 5) ≤ j := by
  obtain ⟨k, rfl⟩ := Nat.exists_eq_add_of_lt hij
  rw [Nat.add_right_comm] at hg
  have hlate := hg.drop hf.lt
  have hsuffix := (hlate.suffix (sound_feed hp _)).length_le
  rw [hf.held_eq_nil hp, List.nil_append, Frame.length_bytes, List.length_take] at hsuffix
  omega

/-- **Every frame that is read was written.**  In any stream, the bytes that end where a frame is
read are its encoding, no byte belongs to the encodings of two frames that are read, and payload
bytes are written inside the receive buffer. -/
theorem emitted_frames_were_encoded (bytes : List UInt8) :
    (∀ i f, initial.Emits bytes i f →
      f.payload.length = f.length ∧ f.length ≤ maxPayload ∧ f.payload.length + 5 ≤ i + 1 ∧
        ∀ room, f.payload.length + 5 ≤ room →
          Frame.encode f.kind f.id f.payload room =
            .ok ((bytes.take (i + 1)).drop (i + 1 - (f.payload.length + 5)))) ∧
      (∀ i j f g, i < j → initial.Emits bytes i f → initial.Emits bytes j g →
        i + (g.payload.length + 5) ≤ j) ∧
      ∀ n, (initial.feed (bytes.take n)).1.buffer.length = maxPayload ∧
        ∀ kind id length position,
          (initial.feed (bytes.take n)).1.stage = .payload kind id length position →
            position < maxPayload := by
  refine ⟨fun i f h => ?_, fun i j f g hij hf hg => hf.disjoint sound_initial hij hg,
    fun n => ?_⟩
  · obtain ⟨hlength, hle⟩ := h.bounds sound_initial
    have hsuffix : Frame.bytes f.kind f.id f.payload <:+ bytes.take (i + 1) :=
      h.suffix sound_initial
    have htake : (bytes.take (i + 1)).length = i + 1 := by
      rw [List.length_take, Nat.min_eq_left h.lt]
    have hroom := hsuffix.length_le
    rw [Frame.length_bytes, htake] at hroom
    refine ⟨hlength, hle, hroom, fun room hbig => ?_⟩
    refine Frame.encode_eq_ok_iff.mpr ⟨by rw [hlength]; exact hle, hbig, ?_⟩
    rw [List.suffix_iff_eq_drop.mp hsuffix, Frame.length_bytes, htake]
  · have hsound := sound_feed sound_initial (bytes.take n)
    refine ⟨hsound.length_buffer, fun kind id length position hs => ?_⟩
    obtain ⟨hlt, hle⟩ : position < length ∧ length ≤ maxPayload := by
      simpa [InBounds, hs] using hsound.inBounds
    exact Nat.lt_of_lt_of_le hlt hle

end TwinBall.Parser
