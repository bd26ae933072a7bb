import TwinBall.Proofs.Relay.System
import TwinBall.Proofs.Wire.RoundTrip

/-!
# Frames that arrive whole

What a serial link makes of a frame that arrives whole (`receiveAll_bytes`), how a wait goes on when
one more burst arrives (`awaitAnswer_concat`), and what an exchange comes to (`exec_sent`,
`exec_fault`).  A frame carries the same motion on the line and in the queue.
-/

namespace TwinBall

/-- A parser that is ready for the next frame. -/
structure Parser.Ready (p : Parser) : Prop where
  sound : p.Sound
  stage : p.stage = .sync

theorem Parser.ready_initial : Parser.initial.Ready := ⟨Parser.sound_initial, rfl⟩

/-- The bytes of a frame. -/
def IsFrame (wire : List UInt8) : Prop :=
  ∃ kind id payload, payload.length ≤ maxPayload ∧ wire = Frame.bytes kind id payload

theorem Frame.motion?_congr {f g : Frame} (hkind : f.kind = g.kind) (hid : f.id = g.id)
    (hpayload : f.payload = g.payload) : f.motion? = g.motion? := by
  unfold motion? SerialLink.isAnswer
  rw [hkind, hid, hpayload]

namespace Parser

/-- A frame that arrives whole is read, and carries what it carries on the line. -/
theorem Ready.feed_bytes {p : Parser} (hp : p.Ready) (kind : FrameKind) (id : UInt8)
    {payload : List UInt8} (hle : payload.length ≤ maxPayload) :
    ∃ f : Frame, f.kind = kind ∧ f.id = id ∧ f.payload = payload ∧
      (p.feed (Frame.bytes kind id payload)).1.Ready ∧
      (p.feed (Frame.bytes kind id payload)).2 =
        List.replicate (payload.length + 4) .pending ++ [.frame f] := by
  obtain ⟨f, hkind, hid, hpayload, hstage, hread⟩ := feed_frame hp.sound hp.stage kind id hle
  exact ⟨f, hkind, hid, hpayload, ⟨sound_feed hp.sound _, hstage⟩, hread⟩

theorem filterMap_frame?_replicate (n : Nat) :
    (List.replicate n Reception.pending).filterMap Reception.frame? = [] := by
  simp [Reception.frame?]

end Parser

theorem filterMap_singleton {α β : Type} (f : α → Option β) (a : α) :
    [a].filterMap f = (f a).toList := by
  cases h : f a with
  | none => simp [h]
  | some b => simp [h]

theorem motionsOn_bytes {f : Frame} (hle : f.payload.length ≤ maxPayload) :
    motionsOn (Frame.bytes f.kind f.id f.payload) = f.motion?.toList := by
  obtain ⟨g, hkind, hid, hpayload, -, hread⟩ :=
    Parser.ready_initial.feed_bytes f.kind f.id hle
  rw [motionsOn, hread, List.filterMap_append, Parser.filterMap_frame?_replicate,
    ← Frame.motion?_congr hkind hid hpayload]
  exact filterMap_singleton Frame.motion? g

namespace SerialLink

variable (l : SerialLink)

/-- Bytes of which none breaks a frame go to the parser, and the frames that they complete to the
queue. -/
theorem receiveAll_feed (bytes : List UInt8)
    (hok : ∀ e, .failed e ∉ (l.parser.feed bytes).2) :
    l.receiveAll (bytes.map .byte) =
      ((l.parser.feed bytes).2.filterMap Reception.frame?).foldl offer
        { l with parser := (l.parser.feed bytes).1 } := by
  induction bytes generalizing l with
  | nil => rfl
  | cons byte bytes ih =>
    rw [Parser.feed_cons] at hok ⊢
    rcases hpush : l.parser.push byte with ⟨q, reception⟩
    rw [hpush] at hok
    have hrest : ∀ e, .failed e ∉ (q.feed bytes).2 := fun e hmem =>
      hok e (List.mem_cons_of_mem _ hmem)
    rw [receiveAll, List.map_cons, List.foldl_cons]
    cases reception with
    | failed e => exact absurd List.mem_cons_self (hok e)
    | pending =>
      have hreceive : l.receive (.byte byte) = { l with parser := q } := by
        simp only [receive, Parser.receive, hpush]
      rw [hreceive]
      exact ih { l with parser := q } hrest
    | frame f =>
      have hreceive : l.receive (.byte byte) = ({ l with parser := q } : SerialLink).offer f := by
        simp only [receive, Parser.receive, hpush]
      have hparser : (({ l with parser := q } : SerialLink).offer f).parser = q := by
        unfold offer
        split
        · rfl
        · rfl
      have hoffer : { ({ l with parser := q } : SerialLink).offer f with
          parser := (q.feed bytes).1 } =
            ({ l with parser := (q.feed bytes).1 } : SerialLink).offer f := by
        unfold offer
        dsimp only
        split
        · rfl
        · rfl
      have hrun := ih (({ l with parser := q } : SerialLink).offer f) (by rw [hparser]; exact hrest)
      rw [hparser, hoffer] at hrun
      rw [hreceive]
      exact hrun

/-- **A frame that arrives whole is offered to the queue.** -/
theorem receiveAll_bytes (hp : l.parser.Ready) {wire : List UInt8} (hwire : IsFrame wire) :
    ∃ (q : Parser) (f : Frame), q.Ready ∧ motionsOn wire = f.motion?.toList ∧
      l.receiveAll (wire.map .byte) = offer ⟨q, l.queue⟩ f := by
  obtain ⟨kind, id, payload, hle, rfl⟩ := hwire
  obtain ⟨f, hkind, hid, hpayload, hready, hread⟩ := hp.feed_bytes kind id hle
  refine ⟨_, f, hready, ?_, ?_⟩
  · rw [← hkind, ← hid, ← hpayload]
    exact motionsOn_bytes (hpayload.symm ▸ hle)
  · rw [l.receiveAll_feed _ (fun e => by simp [hread]), hread, List.filterMap_append,
      Parser.filterMap_frame?_replicate]
    rfl

/-! ## Waiting -/

/-- A wait that has brought nothing goes on with the next burst. -/
theorem awaitAnswer_concat {id : Transaction} {bursts : List (List LineEvent)} {l' : SerialLink}
    (h : l.awaitAnswer id bursts = (none, l')) (burst : List LineEvent) :
    l.awaitAnswer id (bursts ++ [burst]) = (l'.receiveAll burst).awaitAnswer id [] := by
  induction bursts generalizing l with
  | nil =>
    rcases htake : takeAnswer id l.queue with ⟨answer, queue⟩
    simp only [awaitAnswer, htake, Prod.mk.injEq] at h
    obtain ⟨rfl, rfl⟩ := h
    simp only [List.nil_append, awaitAnswer, htake]
  | cons first bursts ih =>
    rcases htake : takeAnswer id l.queue with ⟨answer, queue⟩
    cases answer with
    | some f =>
      simp only [awaitAnswer, htake, Prod.mk.injEq] at h
      exact absurd h.1 (by simp)
    | none =>
      simp only [List.cons_append, awaitAnswer, htake] at h ⊢
      exact ih _ h

/-- A frame that is seen on its own is the answer, or forgotten. -/
theorem awaitAnswer_singleton (id : Transaction) (p : Parser) (f : Frame) :
    awaitAnswer ⟨p, [f]⟩ id [] = (if isAnswer id f then some f else none, ⟨p, []⟩) := by
  simp only [awaitAnswer, takeAnswer]
  split
  · rfl
  · rfl

/-! ## Exchanges -/

/-- The outcome of a wait: the payload of the answer, if there is one and it fits. -/
def outcomeOf (room : Nat) : Option Frame → Except LinkError (List UInt8)
  | none => .error .timeout
  | some f => if f.payload.length ≤ room then .ok f.payload else .error .malformed

/-- A write of an allowed payload comes to its fate. -/
theorem write_eq (kind : FrameKind) (id : Transaction) {payload : List UInt8}
    (hle : payload.length ≤ maxPayload) (fate : WriteFate) :
    write kind id payload fate =
      match fate with
      | .sent => (some (.ok ()), [.sent (Frame.bytes kind id.code payload)])
      | .fault f => (some (.error f.toLinkError), [.failed])
      | .stuck => (none, [.stuck]) := by
  have hencode : Frame.encode kind id.code payload (maxPayload + 5) =
      .ok (Frame.bytes kind id.code payload) :=
    Frame.encode_eq_ok_iff.mpr ⟨hle, Nat.add_le_add_right hle 5, rfl⟩
  cases fate with
  | sent => rw [write, hencode]
  | fault f => rw [write, hencode]
  | stuck => rw [write, hencode]

/-- An exchange whose request goes out forgets the queue and comes to what the wait brings. -/
theorem exec_sent (id : Transaction) {request : List UInt8} (hle : request.length ≤ maxPayload)
    (room : Nat) (bursts : List (List LineEvent)) :
    let wait := awaitAnswer { l with queue := [] } id bursts
    (l.exec id request room .sent bursts).result = some (outcomeOf room wait.1) ∧
      (l.exec id request room .sent bursts).link = wait.2 := by
  rw [exec, write_eq .request id hle]
  dsimp only
  rcases awaitAnswer { l with queue := [] } id bursts with ⟨answer, l'⟩
  cases answer with
  | none => exact ⟨rfl, rfl⟩
  | some f =>
    dsimp only [outcomeOf]
    split
    · exact ⟨rfl, rfl⟩
    · exact ⟨rfl, rfl⟩

/-- An exchange whose request cannot be written forgets the queue and fails. -/
theorem exec_fault (id : Transaction) {request : List UInt8} (hle : request.length ≤ maxPayload)
    (room : Nat) (f : LineFault) (bursts : List (List LineEvent)) :
    (l.exec id request room (.fault f) bursts).result = some (.error f.toLinkError) ∧
      (l.exec id request room (.fault f) bursts).link = { l with queue := [] } := by
  rw [exec, write_eq .request id hle]
  exact ⟨rfl, rfl⟩

end SerialLink

end TwinBall
