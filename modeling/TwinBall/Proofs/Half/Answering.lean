import TwinBall.Half.Peer

/-!
# Answering all or nothing

A half answers a request completely or not at all.  `Replied` lists what can come of one
(`replied_answer`), and from this list it follows that a refused request changes nothing, and what
an answered one changes (`answered_all_or_nothing`).
-/

namespace TwinBall.Half

/-- Why a request is refused: there is no room for the answer, or no resolution in the request. -/
def IsRefused (id : Transaction) (request : List UInt8) (room : Nat) : Prop :=
  (id = .info ∧ room < 1) ∨ (id = .motion ∧ room < 4) ∨ (id = .cpi ∧ request = [])

/-- What can come of a request, with room for an answer of `room` bytes: a refusal, the number of
balls, all motion of the own ball, or a new resolution. -/
inductive Replied (h : Half) (request : List UInt8) (room : Nat) : Transaction → Answered → Prop
  | refused (id : Transaction) (why : IsRefused id request room) :
      Replied h request room id ⟨.error .malformed, [], h⟩
  | info (fits : 1 ≤ room) :
      Replied h request room .info
        ⟨.ok (BallInfo.ofBall h.ownBall).bytes, [.layout .secondary], h⟩
  | motion (fits : 4 ≤ room) :
      Replied h request room .motion
        ⟨.ok h.ownMotion.peek.bytes, [], { h with ownMotion := .empty }⟩
  | cpi (first : UInt8) (rest : List UInt8) (names : request = first :: rest) :
      Replied h request room .cpi ⟨.ok [], [], h.setCpi first⟩

variable (h : Half)

theorem replied_answer (id : Transaction) (request : List UInt8) (room : Nat) :
    Replied h request room id (h.answer id request room) := by
  cases id with
  | info =>
    rw [answer]
    split
    · next short => exact .refused .info (.inl ⟨rfl, short⟩)
    · next fits => exact .info (Nat.le_of_not_lt fits)
  | motion =>
    rw [answer]
    split
    · next short => exact .refused .motion (.inr (.inl ⟨rfl, short⟩))
    · next fits => exact .motion (Nat.le_of_not_lt fits)
  | cpi =>
    cases request with
    | nil => exact .refused .cpi (.inr (.inr ⟨rfl, rfl⟩))
    | cons first rest => exact .cpi first rest rfl

theorem half_answer_of_error {h : Half} {id : Transaction} {request : List UInt8} {room : Nat}
    {e : LinkError} (herror : (h.answer id request room).result = .error e) :
    (h.answer id request room).half = h := by
  have hreplied := h.replied_answer id request room
  generalize h.answer id request room = a at hreplied herror
  cases hreplied with
  | refused id why => rfl
  | info fits => cases herror
  | motion fits => cases herror
  | cpi first rest names => cases herror

/-- **A request is answered completely or not at all.**  A half gets any request, with a buffer of
any size for the answer.

It refuses the request, always as malformed, if the buffer is too short for the answer or the
request names no resolution, and only then; it changes neither the buffer nor itself, and tells the
keyboard nothing.  Otherwise it writes the answer to the start of the buffer and leaves the rest.
The number of balls reads back as its own, and the keyboard adjusts its layout.  The motion reads
back as all that its ball had moved, and none of it is left on the half.  A resolution is taken
over, at most at the limit, and the sensor, if there is one, and the other half have to be told.
Nothing else changes. -/
theorem answered_all_or_nothing (id : Transaction) (request buffer : List UInt8) :
    let a := h.answer id request buffer.length
    let r := h.answerInto id request buffer
    ((∃ e, r.1 = .error e) ↔
      (id = .info ∧ buffer.length < 1) ∨ (id = .motion ∧ buffer.length < 4) ∨
        (id = .cpi ∧ request = [])) ∧
    (∀ e, r.1 = .error e → e = .malformed ∧ r.2 = buffer ∧ a.notices = [] ∧ a.half = h) ∧
    (∀ n, r.1 = .ok n →
      r.2.length = buffer.length ∧ r.2.drop n = buffer.drop n ∧
      match id with
      | .info =>
        n = 1 ∧ (BallInfo.ofBytes (r.2.take n)).map BallInfo.hasBall = .ok h.ownBall ∧
          a.notices = [.layout .secondary] ∧ a.half = h
      | .motion =>
        n = 4 ∧ Motion.ofBytes (r.2.take n) = .ok h.ownMotion.peek ∧
          a.notices = [] ∧ a.half = { h with ownMotion := .empty } ∧
          a.half.ownMotion.peek = .zero
      | .cpi =>
        n = 0 ∧ a.notices = [] ∧ ∃ first rest, request = first :: rest ∧
          a.half = { h with
            cpiStored := min first h.config.cpiMax
            cpiUnsent := true
            cpiUnapplied := h.cpiUnapplied || h.ownBall }) := by
  have hreplied := h.replied_answer id request buffer.length
  dsimp only [answerInto]
  generalize h.answer id request buffer.length = a at hreplied
  cases hreplied with
  | refused id why =>
    refine ⟨iff_of_true ⟨_, rfl⟩ why, ?_, ?_⟩
    · rintro e ⟨⟩
      exact ⟨rfl, rfl, rfl, rfl⟩
    · rintro n ⟨⟩
  | info fits =>
    refine ⟨by simp [List.length_pos_iff.mp fits], ?_, ?_⟩
    · rintro e ⟨⟩
    · rintro n ⟨⟩
      refine ⟨length_writeFront fits, drop_writeFront _ _, rfl, ?_, rfl, rfl⟩
      rw [take_writeFront, BallInfo.ofBytes_bytes]
      exact congrArg Except.ok (BallInfo.hasBall_ofBall h.ownBall)
  | motion fits =>
    refine ⟨by simpa using fits, ?_, ?_⟩
    · rintro e ⟨⟩
    · rintro n ⟨⟩
      refine ⟨length_writeFront fits, drop_writeFront _ _, rfl, ?_, rfl, rfl,
        Accumulator.peek_empty⟩
      rw [take_writeFront, Motion.ofBytes_bytes]
  | cpi first rest names =>
    refine ⟨by simp [names], ?_, ?_⟩
    · rintro e ⟨⟩
    · rintro n ⟨⟩
      exact ⟨length_writeFront (Nat.zero_le _), drop_writeFront buffer [], rfl, rfl,
        first, rest, names, rfl⟩

/-- A half with a ball that has moved refuses to put its motion into two bytes, and keeps it for a
buffer of six, of which the last two stay. -/
theorem answered_all_or_nothing_short_then_long :
    let h : Half :=
      { new .board .secondary .left with
        ownBall := true
        ownMotion := Accumulator.empty.add ⟨300, -2⟩ }
    let short := h.answerInto .motion [] [238, 238]
    let long := h.answerInto .motion [] [238, 238, 238, 238, 238, 238]
    short = (.error .malformed, [238, 238]) ∧
      (h.answer .motion [] 2).half = h ∧
      long.1 = .ok 4 ∧ long.2.drop 4 = [238, 238] ∧
      Motion.ofBytes (long.2.take 4) = .ok ⟨300, -2⟩ ∧
      (h.answer .motion [] 6).half.ownMotion.peek = .zero := by
  intro h short long
  obtain ⟨hwhen, hrefused, -⟩ := h.answered_all_or_nothing .motion [] [238, 238]
  obtain ⟨e, he⟩ := hwhen.mpr (.inr (.inl ⟨rfl, by decide⟩))
  obtain ⟨rfl, hbuffer, -, hkept⟩ := hrefused e he
  obtain ⟨-, -, hanswered⟩ :=
    h.answered_all_or_nothing .motion [] [238, 238, 238, 238, 238, 238]
  have hok : long.1 = .ok 4 := rfl
  obtain ⟨-, hrest, -, hmotion, -, -, hdrained⟩ := hanswered 4 hok
  have hmoved : h.ownMotion.peek = ⟨300, -2⟩ := by decide
  exact ⟨Prod.ext he hbuffer, hkept, hok, hrest, hmoved ▸ hmotion, hdrained⟩

end TwinBall.Half
