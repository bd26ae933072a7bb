import TwinBall.Session

/-!
# Two halves and the link between them

A pair joins two sessions by a link that can be cut.  While it holds, a request of one half is
answered by the other at once; while it is cut, requests time out and messages find the line busy.
-/

namespace TwinBall

/-- One of the two halves of a pair. -/
inductive Member
  | first
  | second
  deriving DecidableEq, Repr

/-- The other one. -/
def Member.other : Member → Member
  | .first => .second
  | .second => .first

/-- The link to a half that answers at once, unless the link is cut. -/
structure LiveLink where
  /-- The half that answers. -/
  peer : Half
  /-- What its keyboard was told. -/
  notices : List Notice
  /-- Whether the link is cut. -/
  isCut : Bool

namespace LiveLink

/-- The peer answers a request. -/
def ask (l : LiveLink) (id : Transaction) (request : List UInt8) (room : Nat) :
    Except LinkError (List UInt8) × LiveLink :=
  let a := l.peer.answer id request room
  (a.result, { l with peer := a.half, notices := l.notices ++ a.notices })

instance : PeerLink LiveLink where
  exec l id request room := if l.isCut then (.error .timeout, l) else l.ask id request room
  send l id request :=
    if l.isCut then (.error .busy, l)
    else
      let (result, l) := l.ask id request 0
      (result.map fun _ => (), l)

end LiveLink

/-- Two sessions and the link between them. -/
structure Pair (σ : Type) where
  /-- The first half. -/
  first : Session σ
  /-- The second half. -/
  second : Session σ
  /-- Whether the link is cut. -/
  isCut : Bool

/-- What a step of a pair came to. -/
structure PairOutcome (σ : Type) where
  /-- The pair afterwards. -/
  pair : Pair σ
  /-- What the half that acted answers. -/
  reply : Reply
  /-- What the first keyboard was told and asked. -/
  firstNotices : List Notice
  /-- What the second keyboard was told and asked. -/
  secondNotices : List Notice

namespace Pair

variable {σ : Type}

/-- The session of a member. -/
def session (p : Pair σ) : Member → Session σ
  | .first => p.first
  | .second => p.second

/-- The pair after one member acted and the other may have answered. -/
def conclude (p : Pair σ) (who : Member) (acting other : Session σ) (reply : Reply)
    (notices otherNotices : List Notice) : PairOutcome σ :=
  match who with
  | .first => ⟨{ p with first := acting, second := other }, reply, notices, otherNotices⟩
  | .second => ⟨{ p with first := other, second := acting }, reply, otherNotices, notices⟩

/-- Cuts or restores the link. -/
def setCut (p : Pair σ) (on : Bool) : Pair σ := { p with isCut := on }

variable [SettingsStore σ]

/-- One member performs an operation. -/
def step (p : Pair σ) (policy : Policy) (who : Member) (op : Op) : PairOutcome σ :=
  let o := (p.session who).step policy op
  p.conclude who o.session (p.session who.other) o.reply o.notices []

/-- One member does its periodic work over the link to the other. -/
def housekeeping (p : Pair σ) (who : Member) (now : UInt32) : PairOutcome σ :=
  let acting := p.session who
  let other := p.session who.other
  let pass := acting.half.housekeeping (LiveLink.mk other.half [] p.isCut) acting.store now
  p.conclude who ⟨pass.half, pass.store⟩ { other with half := pass.link.peer }
    (.exchanged pass.calls) pass.notices pass.link.notices

end Pair

end TwinBall
