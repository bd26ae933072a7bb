import TwinBall.Bytes
import TwinBall.Motion

/-!
# Transactions and their payloads

| id | transaction | request                | answer                        |
|----|-------------|------------------------|-------------------------------|
| 0  | `info`      | empty                  | one byte: the number of balls |
| 1  | `motion`    | empty                  | four bytes: the two counts    |
| 2  | `cpi`       | one byte: a resolution | none                          |

Payloads longer than needed are read from their start.
-/

namespace TwinBall

/-- Why a payload could not be read. -/
inductive DecodeError
  /-- It is shorter than its message. -/
  | truncated
  /-- The id names no transaction. -/
  | unknownTransaction
  deriving DecidableEq, Repr

/-- What a frame is about. -/
inductive Transaction
  /-- Which balls the other half has. -/
  | info
  /-- The motion of the other half since it was last asked. -/
  | motion
  /-- The resolution that the other half should use. -/
  | cpi
  deriving DecidableEq, Repr

namespace Transaction

/-- The id of a transaction. -/
def code : Transaction → UInt8
  | info => 0
  | motion => 1
  | cpi => 2

/-- The transaction of an id. -/
def ofCode (c : UInt8) : Except DecodeError Transaction :=
  if c = 0 then .ok info else if c = 1 then .ok motion else if c = 2 then .ok cpi
  else .error .unknownTransaction

@[simp] theorem ofCode_code (t : Transaction) : ofCode t.code = .ok t := by
  cases t <;> rfl

end Transaction

/-- The answer to `Transaction.info`: the number of working balls of a half. -/
structure BallInfo where
  /-- The number of balls; a half has none or one. -/
  count : UInt8
  deriving DecidableEq, Repr

namespace BallInfo

/-- The number of bytes of the answer. -/
def size : Nat := 1

/-- The answer of a half with or without a ball. -/
def ofBall (ball : Bool) : BallInfo := ⟨ball.toUInt8⟩

/-- Whether there is a ball. -/
def hasBall (i : BallInfo) : Bool := i.count > 0

/-- The payload. -/
def bytes (i : BallInfo) : List UInt8 := [i.count]

/-- Reads a payload. -/
def ofBytes : List UInt8 → Except DecodeError BallInfo
  | count :: _ => .ok ⟨count⟩
  | [] => .error .truncated

@[simp] theorem hasBall_ofBall (ball : Bool) : (ofBall ball).hasBall = ball := by
  cases ball <;> rfl

@[simp] theorem ofBytes_bytes (i : BallInfo) : ofBytes i.bytes = .ok i := rfl

end BallInfo

namespace Motion

/-- The number of bytes of the answer to `Transaction.motion`. -/
def size : Nat := 4

/-- The payload that holds a movement: `x`, then `y`. -/
def bytes (m : Motion) : List UInt8 := bytes16 m.x.toUInt16 ++ bytes16 m.y.toUInt16

/-- Reads a payload. -/
def ofBytes : List UInt8 → Except DecodeError Motion
  | xl :: xh :: yl :: yh :: _ => .ok ⟨(word16 xl xh).toInt16, (word16 yl yh).toInt16⟩
  | _ => .error .truncated

@[simp] theorem ofBytes_bytes (m : Motion) : ofBytes m.bytes = .ok m := by
  simp [ofBytes, bytes, bytes16, word16_bytes16]

end Motion

/-- The request of `Transaction.cpi`: a stored resolution, `0` for the default. -/
structure CpiUpdate where
  /-- The stored resolution. -/
  cpi : UInt8
  deriving DecidableEq, Repr

namespace CpiUpdate

/-- The payload. -/
def bytes (u : CpiUpdate) : List UInt8 := [u.cpi]

/-- Reads a payload. -/
def ofBytes : List UInt8 → Except DecodeError CpiUpdate
  | cpi :: _ => .ok ⟨cpi⟩
  | [] => .error .truncated

end CpiUpdate

end TwinBall
