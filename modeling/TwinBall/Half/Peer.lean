import TwinBall.Half.Settings
import TwinBall.Layout
import TwinBall.Link
import TwinBall.Policy

/-!
# The half and its peer

The half on USB does its periodic work in one pass: the handshake while it is due, and, once the
other half is known to have a ball, a pull of its motion and a push of the resolution.  The other
half answers.

A failure of the link counts as silence and an answer that cannot be read likewise.
-/

namespace TwinBall

/-- A pass of periodic work: the half, the link and the store as they are, and what happened so
far. -/
structure Pass (ℓ σ : Type) where
  /-- The half. -/
  half : Half
  /-- The link to the other half. -/
  link : ℓ
  /-- The store of the layout options. -/
  store : σ
  /-- What went over the link. -/
  calls : List LinkCall
  /-- What the keyboard was told. -/
  notices : List Notice

namespace Half

/-- What the outcome of a request says, of an answer with at most `room` bytes. -/
def readAnswer {α : Type} (decode : List UInt8 → Except DecodeError α) (room : Nat)
    (outcome : Except LinkError (List UInt8)) : Option α :=
  match outcome with
  | .error _ => none
  | .ok bytes => (decode (bytes.take room)).toOption

/-- Whether motion should be pulled at time `now`. -/
def isPullDue (h : Half) (now : UInt32) : Bool :=
  h.peerBall && now - h.lastPull ≥ h.config.motionInterval

/-- Whether the resolution should be pushed. -/
def isPushDue (h : Half) : Bool := h.peerBall && h.cpiUnsent

/-- The ball bits of the layout options. -/
def layoutMask (h : Half) : UInt32 := Layout.mask h.ownBall h.peerBall h.isLeft

/-- The motion of the other half is added, and the time of the pull is noted, answered or not. -/
def notePull (h : Half) (answer : Option Motion) (now : UInt32) : Half :=
  let h :=
    match answer with
    | some m => h.accumulate .peer m
    | none => h
  { h with lastPull := now }

/-- The resolution has been pushed, or not. -/
def notePush (h : Half) (outcome : Except LinkError Unit) : Half :=
  match outcome with
  | .ok () => { h with cpiUnsent := false }
  | .error _ => h

end Half

namespace Pass

variable {ℓ σ : Type} [PeerLink ℓ] [SettingsStore σ]

/-- Writes the ball bits into the layout options, if that changes them. -/
def writeLayout (p : Pass ℓ σ) : Pass ℓ σ :=
  match Layout.merge? (SettingsStore.layoutWord p.store) p.half.layoutMask with
  | some word => { p with store := SettingsStore.putLayoutWord p.store word }
  | none => p

/-- Takes in the answer to the question of the handshake.  Once the handshake settles, the layout
options are brought up to date and the keyboard may adjust its layout. -/
def settle (p : Pass ℓ σ) (answer : Option BallInfo) : Pass ℓ σ :=
  match p.half.handshake.finish (answer.map BallInfo.hasBall) with
  | (handshake, none) => { p with half := { p.half with handshake := handshake } }
  | (handshake, some ball) =>
    let p := { p with half := { p.half with handshake := handshake, peerBall := ball } }.writeLayout
    { p with notices := p.notices ++ [.layout .primary] }

/-- Sends the question of the handshake, if it is due. -/
def negotiate (p : Pass ℓ σ) (now : UInt32) : Pass ℓ σ :=
  if p.half.handshake.isDue now then
    let half := { p.half with handshake := p.half.handshake.start now }
    let (outcome, link) := PeerLink.exec p.link .info [] BallInfo.size
    let calls := p.calls ++ [.exec .info [] BallInfo.size outcome]
    { p with half := half, link := link, calls := calls }.settle
      (Half.readAnswer BallInfo.ofBytes BallInfo.size outcome)
  else p

/-- Pulls the motion of the other half, if that is due. -/
def pullMotion (p : Pass ℓ σ) (now : UInt32) : Pass ℓ σ :=
  if p.half.isPullDue now then
    let (outcome, link) := PeerLink.exec p.link .motion [] Motion.size
    { p with
      half := p.half.notePull (Half.readAnswer Motion.ofBytes Motion.size outcome) now
      link := link
      calls := p.calls ++ [.exec .motion [] Motion.size outcome] }
  else p

/-- Pushes the resolution to the other half, if that is due. -/
def pushCpi (p : Pass ℓ σ) : Pass ℓ σ :=
  if p.half.isPushDue then
    let request := CpiUpdate.bytes ⟨p.half.cpiStored⟩
    let (outcome, link) := PeerLink.send p.link .cpi request
    { p with
      half := p.half.notePush outcome
      link := link
      calls := p.calls ++ [.send .cpi request outcome] }
  else p

end Pass

namespace Half

/-- The periodic work of the half on USB at time `now`.  The other half has none. -/
def housekeeping {ℓ σ : Type} [PeerLink ℓ] [SettingsStore σ] (h : Half) (link : ℓ)
    (store : σ) (now : UInt32) : Pass ℓ σ :=
  let p : Pass ℓ σ := ⟨h, link, store, [], []⟩
  if h.role = .primary then ((p.negotiate now).pullMotion now).pushCpi else p

/-! ## Answering -/

/-- What answering a request came to. -/
structure Answered where
  /-- The answer. -/
  result : Except LinkError (List UInt8)
  /-- What the keyboard was told. -/
  notices : List Notice
  /-- The half afterwards. -/
  half : Half

/-- Answers a request, with room for an answer of `room` bytes.  Whether the answer fits is
decided before anything changes. -/
def answer (h : Half) (id : Transaction) (request : List UInt8) (room : Nat) : Answered :=
  match id with
  | .info =>
    if room < BallInfo.size then ⟨.error .malformed, [], h⟩
    else ⟨.ok (BallInfo.ofBall h.ownBall).bytes, [.layout .secondary], h⟩
  | .motion =>
    if room < Motion.size then ⟨.error .malformed, [], h⟩
    else
      let (m, rest) := h.ownMotion.drain
      ⟨.ok m.bytes, [], { h with ownMotion := rest }⟩
  | .cpi =>
    match CpiUpdate.ofBytes request with
    | .error e => ⟨.error e.toLinkError, [], h⟩
    | .ok update => ⟨.ok [], [], h.setCpi update.cpi⟩

/-- Answers a request into the start of a buffer.  Answers the number of bytes written and the
buffer. -/
def answerInto (h : Half) (id : Transaction) (request buffer : List UInt8) :
    Except LinkError Nat × List UInt8 :=
  match (h.answer id request buffer.length).result with
  | .ok bytes => (.ok bytes.length, writeFront buffer bytes)
  | .error e => (.error e, buffer)

end Half

end TwinBall
