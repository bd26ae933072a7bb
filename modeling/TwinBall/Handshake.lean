/-!
# The handshake between the halves

The half on USB asks the other half once whether it carries a ball.  It asks again at intervals
until it gets an answer, and settles for "no ball" after the last attempt.
-/

namespace TwinBall

/-- How far the handshake has come. -/
inductive HandshakePhase
  /-- Nothing was sent. -/
  | notStarted
  /-- At least one question was sent. -/
  | awaitingPeer
  /-- Settled for good. -/
  | negotiated
  deriving DecidableEq, Repr

/-- The state of a handshake. -/
structure Handshake where
  /-- How far it has come. -/
  phase : HandshakePhase
  /-- How many questions were sent; the count stays at `255`. -/
  attempts : UInt8
  /-- When the last question was sent. -/
  lastAttempt : UInt32
  /-- The time between two questions. -/
  interval : UInt32
  /-- How many questions are sent before silence counts as "no ball". -/
  maxAttempts : UInt8
  deriving DecidableEq, Repr

namespace Handshake

/-- A handshake that has not started. -/
def new (interval : UInt32) (maxAttempts : UInt8) : Handshake :=
  ⟨.notStarted, 0, 0, interval, maxAttempts⟩

/-- Whether the handshake has settled. -/
def isNegotiated (s : Handshake) : Bool := s.phase == .negotiated

/-- Whether a question should be sent at time `now`.  Times count modulo `2 ^ 32`. -/
def isDue (s : Handshake) (now : UInt32) : Bool :=
  !s.isNegotiated && now - s.lastAttempt ≥ s.interval

/-- The number after `n`, or `n` where a byte can count no further. -/
def nextAttempt (n : UInt8) : UInt8 := if n = 255 then 255 else n + 1

/-- Notes that a question is sent at time `now`. -/
def start (s : Handshake) (now : UInt32) : Handshake :=
  { s with lastAttempt := now, attempts := nextAttempt s.attempts, phase := .awaitingPeer }

/-- What the answer to a question settles: the ball presence that it reports, or, for a peer that
stays silent, "no ball" once all attempts are used up. -/
def verdict (s : Handshake) (reply : Option Bool) : Option Bool :=
  match reply with
  | some ball => some ball
  | none => if s.attempts < s.maxAttempts then none else some false

/-- Takes in the answer to a question, `none` for silence.  Answers the ball presence of the peer
if that settles the handshake. -/
def finish (s : Handshake) (reply : Option Bool) : Handshake × Option Bool :=
  match s.verdict reply with
  | some ball => ({ s with phase := .negotiated }, some ball)
  | none => (s, none)

@[simp] theorem isNegotiated_start (s : Handshake) (now : UInt32) :
    (s.start now).isNegotiated = false := rfl

theorem isDue_iff {s : Handshake} {now : UInt32} :
    s.isDue now = true ↔ s.isNegotiated = false ∧ s.interval ≤ now - s.lastAttempt := by
  simp [isDue]

theorem toNat_nextAttempt {n : UInt8} (h : n.toNat < 255) :
    (nextAttempt n).toNat = n.toNat + 1 := by
  unfold nextAttempt
  split
  · next heq =>
    subst heq
    exact absurd h (by decide)
  · rw [UInt8.toNat_add]
    exact Nat.mod_eq_of_lt (show n.toNat + 1 < 256 by omega)

theorem verdict_eq_none_iff {s : Handshake} {reply : Option Bool} :
    s.verdict reply = none ↔ reply = none ∧ s.attempts < s.maxAttempts := by
  cases reply <;> simp [verdict]

theorem verdict_eq_some_iff {s : Handshake} {reply : Option Bool} {ball : Bool} :
    s.verdict reply = some ball ↔
      reply = some ball ∨ reply = none ∧ ball = false ∧ s.maxAttempts ≤ s.attempts := by
  cases reply with
  | none =>
    by_cases h : s.attempts < s.maxAttempts
    · simp [verdict, h]
    · simp [verdict, h, UInt8.not_lt.mp h, eq_comm]
  | some b => simp [verdict]

/-- Finishing settles the handshake exactly when it answers a ball presence, or when it had
settled before. -/
theorem isNegotiated_finish (s : Handshake) (reply : Option Bool) :
    (s.finish reply).1.isNegotiated = ((s.finish reply).2.isSome || s.isNegotiated) := by
  unfold finish
  cases s.verdict reply <;> simp [isNegotiated]

end Handshake

end TwinBall
