import TwinBall.Faults

/-!
# The bus of a sensor

A sensor hangs on a serial bus of its own with a select line that is driven by hand.  A script is
a list of bus actions; running it stops at the first transfer that fails, and leaves the select
line where it was at that moment.

The other side of the bus is given as data: the bytes it would send, and which transfers fail.
-/

namespace TwinBall

/-- An action on the bus. -/
inductive BusAction
  /-- Drive the select line, `true` for high. -/
  | select (high : Bool)
  /-- Wait for a number of microseconds. -/
  | wait (us : Nat)
  /-- Send bytes. -/
  | write (bytes : List UInt8)
  /-- Receive a number of bytes. -/
  | read (count : Nat)
  deriving DecidableEq, Repr

/-- What happened on the bus. -/
inductive BusEvent
  /-- The select line was driven. -/
  | selected (high : Bool)
  /-- A number of microseconds passed. -/
  | waited (us : Nat)
  /-- Bytes were sent. -/
  | wrote (bytes : List UInt8)
  /-- Bytes were received. -/
  | received (bytes : List UInt8)
  /-- A transfer failed. -/
  | failed (transfer : BusAction)
  deriving DecidableEq, Repr

/-- The other side of the bus. -/
structure Bus where
  /-- The bytes that will be received; after them, zeros. -/
  incoming : List UInt8
  /-- Which of the next transfers fail. -/
  faults : Faults
  deriving DecidableEq, Repr

/-- What a script came to. -/
structure BusRun where
  /-- Whether every transfer succeeded. -/
  ok : Bool
  /-- The bytes received. -/
  received : List UInt8
  /-- What happened, in order. -/
  events : List BusEvent
  /-- The other side afterwards. -/
  bus : Bus
  deriving DecidableEq, Repr

namespace Bus

/-- The next `count` bytes that the other side sends. -/
def serve (b : Bus) (count : Nat) : List UInt8 :=
  b.incoming.take count ++ List.replicate (count - b.incoming.length) 0

/-- Runs a script up to its first failing transfer. -/
def run (b : Bus) : List BusAction → BusRun
  | [] => ⟨true, [], [], b⟩
  | .select high :: rest =>
    let r := b.run rest
    { r with events := .selected high :: r.events }
  | .wait us :: rest =>
    let r := b.run rest
    { r with events := .waited us :: r.events }
  | .write bytes :: rest =>
    if b.faults.fails then
      ⟨false, [], [.failed (.write bytes)], { b with faults := b.faults.rest }⟩
    else
      let r := { b with faults := b.faults.rest }.run rest
      { r with events := .wrote bytes :: r.events }
  | .read count :: rest =>
    if b.faults.fails then
      ⟨false, [], [.failed (.read count)], { b with faults := b.faults.rest }⟩
    else
      let bytes := b.serve count
      let r := Bus.run ⟨b.incoming.drop count, b.faults.rest⟩ rest
      { r with received := bytes ++ r.received, events := .received bytes :: r.events }

/-- Running one script after another, unless the first fails. -/
theorem run_append (b : Bus) (first second : List BusAction) :
    b.run (first ++ second) =
      let r := b.run first
      if r.ok then
        let s := r.bus.run second
        ⟨s.ok, r.received ++ s.received, r.events ++ s.events, s.bus⟩
      else r := by
  induction first generalizing b with
  | nil => rfl
  | cons action rest ih =>
    cases action with
    | select high => simp only [List.cons_append, run, ih]; split <;> simp_all
    | wait us => simp only [List.cons_append, run, ih]; split <;> simp_all
    | write bytes =>
      simp only [List.cons_append, run, ih]
      split
      · simp
      · split <;> simp_all
    | read count =>
      simp only [List.cons_append, run, ih]
      split
      · simp
      · split <;> simp_all

end Bus

end TwinBall
