import TwinBall.Wire.Frame
import TwinBall.Wire.Message

/-!
# Links to the other half

A link carries requests that wait for an answer and messages that do not.  No failure of a link
is fatal: whoever uses it takes a failure as "no data this time" and tries again later.
-/

namespace TwinBall

/-- Why a transaction failed. -/
inductive LinkError
  /-- The other half did not answer in time. -/
  | timeout
  /-- The line failed. -/
  | io
  /-- Something arrived that could not be read. -/
  | malformed
  /-- Another exchange is using the line. -/
  | busy
  deriving DecidableEq, Repr

/-- A frame that cannot be written or read makes the transaction malformed. -/
def FrameError.toLinkError (_ : FrameError) : LinkError := .malformed

/-- A payload that cannot be read makes the transaction malformed. -/
def DecodeError.toLinkError (_ : DecodeError) : LinkError := .malformed

/-- States of a link. -/
class PeerLink (ℓ : Type) where
  /-- Sends a request and waits for its answer, for which there is room for a number of bytes. -/
  exec : ℓ → Transaction → List UInt8 → Nat → Except LinkError (List UInt8) × ℓ
  /-- Sends a message that is not answered. -/
  send : ℓ → Transaction → List UInt8 → Except LinkError Unit × ℓ

/-- A link whose outcomes are given in advance. -/
structure ScriptedLink where
  /-- The outcomes of the next requests; after them, requests time out. -/
  answers : List (Except LinkError (List UInt8))
  /-- The outcomes of the next messages; after them, messages succeed. -/
  sends : List (Except LinkError Unit)

namespace ScriptedLink

instance : PeerLink ScriptedLink where
  exec l _ _ _ := (l.answers.headD (.error .timeout), { l with answers := l.answers.tail })
  send l _ _ := (l.sends.headD (.ok ()), { l with sends := l.sends.tail })

end ScriptedLink

/-- An exchange over a link: what was sent and what came of it. -/
inductive LinkCall
  /-- A request, the room for its answer, and the outcome. -/
  | exec (id : Transaction) (request : List UInt8) (room : Nat)
      (outcome : Except LinkError (List UInt8))
  /-- A message and its outcome. -/
  | send (id : Transaction) (request : List UInt8) (outcome : Except LinkError Unit)

end TwinBall
