import TwinBall.Proofs.Relay.Invariant

/-!
# Peer motion is relayed at most once, in order and undistorted

Answers carry no number, so a late answer can be taken for the answer to a later question.  Still
each motion that the other half drained is added at most once, what is added is in the order in
which it was drained, and what is not added is lost or under way: every move keeps what `Right` says
(`Right.step`), so it holds after all moves.
-/

namespace TwinBall

namespace Relay

variable {σ : Type} [SettingsStore σ] {r : Relay}

/-! ## The other half -/

theorem Right.actSecondary (h : Right r) (c : Call σ) : Right (r.actSecondary c) := by
  unfold Relay.actSecondary
  by_cases hanswer : c.op.isAnswer = true
  · rw [if_pos hanswer]
    exact h
  rw [if_neg hanswer]
  obtain ⟨hrole, hmotion⟩ := Half.gains_perform h.role c (Bool.eq_false_iff.mpr hanswer)
  refine ⟨hrole.trans h.role, h.frames, h.idle, h.listening, h.due, h.books, fun hclip axis => ?_⟩
  obtain ⟨hbefore, hnow⟩ := Bool.or_eq_false_iff.mp hclip
  have hbalance := h.balance hbefore axis
  change axis.total (r.tally.gained ++ (r.secondary.gain? c.op).toList) =
    axis.count (r.secondary.perform c).session.half.ownMotion.peek + axis.total r.tally.drained
  rw [hmotion, axis.total_append]
  cases hgain : r.secondary.gain? c.op with
  | none => simpa using hbalance
  | some m =>
    rw [hgain] at hnow
    have hexact : r.secondary.ownMotion.peek.clips m = false := by simpa using hnow
    simp only [Option.toList_some, Option.elim_some, Axis.total_singleton, Accumulator.peek_add,
      axis.count_add hexact]
    omega

/-- A request is answered by nothing or by one frame. -/
theorem answerTo_cases (l : SerialLink) (id : Transaction) (kind : FrameKind)
    (result : Except LinkError (List UInt8)) (fault : Option LineFault)
    (hle : ∀ payload, result = .ok payload → payload.length ≤ maxPayload) :
    answerTo l id kind result (.ofFault? fault) = [] ∨
      ∃ payload, result = .ok payload ∧
        answerTo l id kind result (.ofFault? fault) = [Frame.bytes .response id.code payload] := by
  cases kind with
  | notify => exact .inl rfl
  | response => exact .inl rfl
  | request =>
    cases result with
    | error e => exact .inl rfl
    | ok payload =>
      cases fault with
      | none =>
        refine .inr ⟨payload, rfl, ?_⟩
        simp [answerTo, SerialLink.respond, WriteFate.ofFault?, LineOutput.wire?,
          SerialLink.write_eq .response id (hle payload rfl)]
      | some f =>
        refine .inl ?_
        simp [answerTo, SerialLink.respond, WriteFate.ofFault?, LineOutput.wire?,
          SerialLink.write_eq .response id (hle payload rfl)]

/-- Answering drains what `drainedBy` says, and answers with that motion or with none. -/
theorem answer_cases (h : Half) (id : Transaction) (request : List UInt8) :
    let a := h.answer id request maxPayload
    (∀ payload, a.result = .ok payload →
      payload.length ≤ maxPayload ∧
        motionsOn (Frame.bytes .response id.code payload) = drainedBy h id) ∧
    ∀ axis : Axis, axis.count h.ownMotion.peek =
      axis.count a.half.ownMotion.peek + axis.total (drainedBy h id) := by
  intro a
  cases id with
  | info =>
    refine ⟨fun payload hok => ?_, fun axis => (Int.add_zero _).symm⟩
    cases hok
    exact ⟨by simp [BallInfo.bytes, maxPayload], motionsOn_response .info (Nat.le_add_left 1 7)⟩
  | motion =>
    refine ⟨fun payload hok => ?_, fun axis => ?_⟩
    · cases hok
      exact ⟨Nat.le_add_left 4 4, motionsOn_motion _⟩
    · have hpeek : a.half.ownMotion.peek = .zero := Accumulator.peek_empty
      rw [hpeek, axis.count_zero, Int.zero_add]
      exact (axis.total_singleton _).symm
  | cpi =>
    cases request with
    | nil =>
      refine ⟨fun payload hok => ?_, fun axis => (Int.add_zero _).symm⟩
      cases hok
    | cons v request =>
      refine ⟨fun payload hok => ?_, fun axis => (Int.add_zero _).symm⟩
      cases hok
      exact ⟨Nat.zero_le _, motionsOn_response .cpi (Nat.zero_le _)⟩

theorem Right.serve (h : Right r) (fault : Option LineFault) : Right (r.serve fault) := by
  unfold Relay.serve
  split
  · exact ⟨h.role, h.frames, h.idle, h.listening, h.due, h.books, h.balance⟩
  · next id f responder _ =>
    obtain ⟨hanswer, hdrain⟩ := answer_cases r.secondary id f.payload
    have hrole : (r.secondary.answer id f.payload maxPayload).half.role = r.secondary.role :=
      congrArg Half.Standing.role (Half.standing_answer _ _ _ _)
    have hbalance : r.tally.clipped = false → ∀ axis : Axis,
        axis.total r.tally.gained =
          axis.count (r.secondary.answer id f.payload maxPayload).half.ownMotion.peek +
            axis.total (r.tally.drained ++ drainedBy r.secondary id) := by
      intro hclip axis
      have hbefore := h.balance hclip axis
      have hnow := hdrain axis
      rw [axis.total_append]
      omega
    have hsent := answerTo_cases responder id f.kind
      (r.secondary.answer id f.payload maxPayload).result fault
      (fun payload hok => (hanswer payload hok).1)
    dsimp only
    -- From here on it only matters that nothing was sent, or one answer with what was drained.
    generalize answerTo responder id f.kind
      (r.secondary.answer id f.payload maxPayload).result (.ofFault? fault) = sent at hsent ⊢
    refine ⟨hrole.trans h.role, ?_, h.idle, h.listening, h.due, ?_, hbalance⟩
    · intro wire hmem
      rcases List.mem_append.mp hmem with hmem | hmem
      · exact h.frames wire hmem
      · rcases hsent with rfl | ⟨payload, hok, rfl⟩
        · cases hmem
        · rw [List.mem_singleton.mp hmem]
          exact ⟨_, _, _, (hanswer payload hok).1, rfl⟩
    · change Books r.tally.added (r.heard ++ (r.replies ++ sent).flatMap motionsOn)
        (r.tally.lost ++ if sent.isEmpty then drainedBy r.secondary id else [])
        (r.tally.drained ++ drainedBy r.secondary id)
      rcases hsent with rfl | ⟨payload, hok, rfl⟩
      · rw [List.append_nil]
        exact h.books.waste _
      · rw [List.flatMap_append, List.flatMap_singleton, (hanswer payload hok).2,
          ← List.append_assoc]
        change Books r.tally.added (r.heard ++ r.flight ++ drainedBy r.secondary id)
          (r.tally.lost ++ []) (r.tally.drained ++ drainedBy r.secondary id)
        rw [List.append_nil]
        exact h.books.drain _

/-! ## The line -/

/-- The motions on the line after the oldest write of the other half. -/
theorem Right.books_cons (h : Right r) {wire : List UInt8} {replies : List (List UInt8)}
    (hreplies : r.replies = wire :: replies) :
    Books r.tally.added (r.heard ++ (motionsOn wire ++ replies.flatMap motionsOn)) r.tally.lost
      r.tally.drained := by
  have hbooks := h.books
  rwa [flight, hreplies, List.flatMap_cons] at hbooks

/-- A frame that arrives while nobody waits is queued, or lost where the queue is full. -/
theorem Right.deliver_idle (h : Right r) (hidle : r.waiting = none) {wire : List UInt8}
    {replies : List (List UInt8)} (hreplies : r.replies = wire :: replies) :
    Right r.deliverReply := by
  have hframe : IsFrame wire := h.frames wire (hreplies ▸ List.mem_cons_self)
  have hrest : ∀ wire ∈ replies, IsFrame wire := fun wire hmem =>
    h.frames wire (hreplies ▸ List.mem_cons_of_mem _ hmem)
  obtain ⟨q, f, hready, hmotions, hlink⟩ := r.link.receiveAll_bytes (h.idle hidle) hframe
  have hbooks := h.books_cons hreplies
  rw [heard_idle hidle, hmotions] at hbooks
  unfold Relay.deliverReply
  rw [hreplies, hidle]
  dsimp only
  rw [hlink, hmotions]
  unfold SerialLink.offer
  -- A full queue drops the new frame, not an old one.
  by_cases hroom : r.link.queue.length < queueCapacity
  · simp only [if_pos hroom, List.append_nil]
    refine ⟨h.role, hrest, fun _ => hready, nofun, nofun, ?_, h.balance⟩
    change Books r.tally.added ((r.link.queue ++ [f]).filterMap Frame.motion? ++
      replies.flatMap motionsOn) r.tally.lost r.tally.drained
    rw [List.filterMap_append, filterMap_singleton, List.append_assoc]
    exact hbooks
  · simp only [if_neg hroom]
    refine ⟨h.role, hrest, fun _ => hready, nofun, nofun, ?_, h.balance⟩
    rw [← List.append_assoc] at hbooks
    exact hbooks.forget

/-- A frame that arrives during a wait is seen on its own: it is the answer, or forgotten. -/
theorem Listening.next {l : SerialLink} {w : Wait} (hl : Listening l w)
    (hopen : (l.awaitAnswer w.id w.bursts).1 = none) {wire : List UInt8} (hframe : IsFrame wire) :
    ∃ f : Frame, motionsOn wire = f.motion?.toList ∧
      Listening l { w with bursts := w.bursts ++ [wire.map .byte] } ∧
      (l.awaitAnswer w.id (w.bursts ++ [wire.map .byte])).1 =
        if SerialLink.isAnswer w.id f then some f else none := by
  rcases hawait : l.awaitAnswer w.id w.bursts with ⟨answer, l'⟩
  obtain rfl : answer = none := by simpa [hawait] using hopen
  have hready : l'.parser.Ready := by simpa [hawait] using hl.ready
  have hseen : l'.queue = [] := by simpa [hawait] using hl.seen
  obtain ⟨q, f, hq, hmotions, hlink⟩ := l'.receiveAll_bytes hready hframe
  have hnext : l.awaitAnswer w.id (w.bursts ++ [wire.map .byte]) =
      (if SerialLink.isAnswer w.id f then some f else none, ⟨q, []⟩) := by
    rw [l.awaitAnswer_concat hawait, hlink, hseen]
    exact SerialLink.awaitAnswer_singleton w.id q f
  refine ⟨f, hmotions, ⟨hl.clear, hnext ▸ hq, by rw [hnext], fun g hg => ?_⟩, by rw [hnext]⟩
  rw [hnext] at hg
  obtain ⟨hanswer, heq⟩ := Option.ite_none_right_eq_some.mp hg
  cases heq
  exact hanswer

theorem Right.deliver_waiting (h : Right r) {w : Wait} (hw : r.waiting = some w)
    {wire : List UInt8} {replies : List (List UInt8)} (hreplies : r.replies = wire :: replies) :
    Right r.deliverReply := by
  have hl := h.listening w hw
  have hframe : IsFrame wire := h.frames wire (hreplies ▸ List.mem_cons_self)
  have hrest : ∀ wire ∈ replies, IsFrame wire := fun wire hmem =>
    h.frames wire (hreplies ▸ List.mem_cons_of_mem _ hmem)
  have hbooks := h.books_cons hreplies
  rw [heard, hw, heardBy_wait hl] at hbooks
  unfold Relay.deliverReply
  rw [hreplies, hw]
  dsimp only
  cases hopen : (r.link.awaitAnswer w.id w.bursts).1 with
  | some f => exact h
  | none =>
    obtain ⟨f, hmotions, hnext, hanswer⟩ := hl.next hopen hframe
    rw [hopen, hmotions] at hbooks
    rw [Option.isSome_none, if_neg Bool.false_ne_true, hmotions, hanswer]
    refine ⟨h.role, hrest, fun hnone => absurd hnone (Option.some_ne_none _),
      fun w' hw' => ?_, fun w' hw' => ?_, ?_, h.balance⟩
    · cases hw'
      exact hnext
    · cases hw'
      exact h.due w hw
    · change Books r.tally.added
        (heardBy r.link (some { w with bursts := w.bursts ++ [wire.map .byte] }) ++
          replies.flatMap motionsOn) (r.tally.lost ++ _) r.tally.drained
      rw [heardBy_wait hnext, hanswer]
      -- Nothing was heard before: a wait that goes on has seen no answer, and keeps nothing else.
      by_cases hmatch : SerialLink.isAnswer w.id f = true
      · rw [if_pos hmatch, Option.isSome_some, if_pos rfl, List.append_nil]
        exact hbooks
      · rw [if_neg hmatch]
        exact Books.forget (a := []) hbooks

theorem flatMap_eraseIdx {α β : Type} (f : α → List β) (l : List α) {i : Nat}
    (h : i < l.length) :
    l.flatMap f = (l.take i).flatMap f ++ f l[i] ++ (l.drop (i + 1)).flatMap f ∧
      (l.eraseIdx i).flatMap f = (l.take i).flatMap f ++ (l.drop (i + 1)).flatMap f := by
  constructor
  · rw [List.append_assoc, ← List.flatMap_cons, ← List.drop_eq_getElem_cons h,
      ← List.flatMap_append, List.take_append_drop]
  · rw [List.eraseIdx_eq_take_drop_succ, List.flatMap_append]

theorem Right.loseReply (h : Right r) (i : Nat) : Right (r.loseReply i) := by
  refine ⟨h.role, ?_, h.idle, h.listening, h.due, ?_, h.balance⟩
  · intro wire hmem
    exact h.frames wire (List.mem_of_mem_eraseIdx hmem)
  · change Books r.tally.added (r.heard ++ (r.replies.eraseIdx i).flatMap motionsOn)
      (r.tally.lost ++ (r.replies[i]?.map motionsOn).getD []) r.tally.drained
    have hbooks := h.books
    rw [flight] at hbooks
    by_cases hi : i < r.replies.length
    · obtain ⟨hall, hrest⟩ := flatMap_eraseIdx motionsOn r.replies hi
      rw [hall, ← List.append_assoc, ← List.append_assoc] at hbooks
      rw [hrest, ← List.append_assoc, List.getElem?_eq_getElem hi]
      exact hbooks.forget
    · rw [List.eraseIdx_of_length_le (Nat.le_of_not_lt hi),
        List.getElem?_eq_none (Nat.le_of_not_lt hi)]
      simpa using hbooks

theorem Right.stray (h : Right r) (kind : FrameKind) (id : UInt8) (payload : List UInt8) :
    Right (r.stray kind id payload) := by
  unfold Relay.stray
  split
  · next hstray =>
    obtain ⟨hle, hnone⟩ := hstray
    refine ⟨h.role, ?_, h.idle, h.listening, h.due, ?_, h.balance⟩
    · intro wire hmem
      rcases List.mem_append.mp hmem with hmem | hmem
      · exact h.frames wire hmem
      · rw [List.mem_singleton.mp hmem]
        exact ⟨kind, id, payload, hle, rfl⟩
    · change Books r.tally.added
        (r.heard ++ (r.replies ++ [Frame.bytes kind id payload]).flatMap motionsOn) r.tally.lost
        r.tally.drained
      rw [List.flatMap_append, List.flatMap_singleton, hnone, List.append_nil]
      exact h.books
  · exact h

/-! ## Every move -/

theorem Right.deliverReply (h : Right r) : Right r.deliverReply := by
  cases hreplies : r.replies with
  | nil =>
    unfold Relay.deliverReply
    rw [hreplies]
    exact h
  | cons wire replies =>
    cases hw : r.waiting with
    | none => exact h.deliver_idle hw hreplies
    | some w => exact h.deliver_waiting hw hreplies

theorem Right.actPrimary (h : Right r) (c : Call σ) : Right (r.actPrimary c) := by
  unfold Relay.actPrimary
  split
  · exact h
  · next hfree =>
    have hidle : r.waiting = none := by
      cases hw : r.waiting with
      | none => rfl
      | some w => simp [hw] at hfree
    exact ⟨h.role, h.frames, h.idle, h.listening, fun w hw => absurd (hidle.symm.trans hw) nofun,
      h.books, h.balance⟩

theorem Right.deliverRequest (h : Right r) : Right r.deliverRequest := by
  unfold Relay.deliverRequest
  split
  · exact h
  · exact ⟨h.role, h.frames, h.idle, h.listening, h.due, h.books, h.balance⟩

/-- **Every move keeps everything right.** -/
theorem Right.step (h : Right r) (move : Move σ) : Right (r.step move) := by
  cases move with
  | primary c => exact h.actPrimary c
  | secondary c => exact h.actSecondary c
  | ask id now fault store => exact h.ask id now fault store
  | finish store => exact h.finish store
  | serve fault => exact h.serve fault
  | deliverRequest => exact h.deliverRequest
  | loseRequest i => exact ⟨h.role, h.frames, h.idle, h.listening, h.due, h.books, h.balance⟩
  | deliverReply => exact h.deliverReply
  | loseReply i => exact h.loseReply i
  | stray kind id payload => exact h.stray kind id payload

theorem Right.run (h : Right r) (moves : List (Move σ)) : Right (r.run moves) := by
  induction moves generalizing r with
  | nil => exact h
  | cons move moves ih => exact ih (h.step move)

/-! ## What pulls do -/

theorem motion?_of_malformed {q : Pull}
    (h : ∀ bytes, q.outcome = .ok bytes → bytes.length < Motion.size) : q.motion? = none := by
  obtain ⟨time, outcome⟩ := q
  cases outcome with
  | error e => rfl
  | ok bytes =>
    have hshort : bytes.length < 4 := h bytes rfl
    match bytes with
    | [] | [_] | [_, _] | [_, _, _] => rfl
    | _ :: _ :: _ :: _ :: _ =>
      simp only [List.length_cons] at hshort
      omega

/-- A part of the periodic work adds the motion of its pull, if it is one, and otherwise leaves the
motion of the other half as it is. -/
theorem part_cases {id : Transaction} {now : UInt32} (hdue : r.isDue id now = true)
    (fate : WriteFate) (bursts : List (List LineEvent)) (store : σ) :
    let p := r.part id now fate bursts store
    p.calls.filterMap (Pull.ofCall? now) = [] ∧ p.half.peerMotion = r.primary.peerMotion ∨
      ∃ q : Pull, p.calls.filterMap (Pull.ofCall? now) = [q] ∧
        p.half = { r.primary with
          peerMotion := q.motion?.elim r.primary.peerMotion r.primary.peerMotion.add
          lastPull := q.time } := by
  intro p
  cases id with
  | info =>
    refine .inl ⟨pulls_part_info now fate bursts store, ?_⟩
    obtain ⟨handshake, ball, hframe⟩ :=
      (Pass.mk r.primary (Exchange.mk r.link fate bursts []) store [] []).negotiate_frame now
    have hmotion := congrArg Half.peerMotion hframe
    exact hmotion
  | cpi =>
    refine .inl ⟨pulls_part_cpi now fate bursts store, ?_⟩
    obtain ⟨unsent, hframe⟩ :=
      (Pass.mk r.primary (Exchange.mk r.link fate bursts []) store [] []).pushCpi_frame
    have hmotion := congrArg Half.peerMotion hframe
    exact hmotion
  | motion =>
    obtain ⟨hcalls, hhalf⟩ := part_motion hdue fate bursts store
    refine .inr ⟨_, hcalls, hhalf.trans ?_⟩
    unfold Half.notePull
    cases Pull.motion? _ with
    | none => rfl
    | some m => rfl

/-- What a move does to the pulls and to the motion of the other half. -/
inductive Pulled (r g : Relay) (move : Move σ) : Prop
  /-- No pull ends, and the motion stays, unless the half on USB does something of its own. -/
  | rest (pulls : g.tally.pulls = r.tally.pulls)
      (motion : (∀ c, move ≠ .primary c) → g.primary.peerMotion = r.primary.peerMotion)
  /-- A pull ends and adds the motion that it brought. -/
  | pull (q : Pull) (pulls : g.tally.pulls = r.tally.pulls ++ [q])
      (half : g.primary = { r.primary with
        peerMotion := q.motion?.elim r.primary.peerMotion r.primary.peerMotion.add
        lastPull := q.time })

theorem pulled_of_part {g : Relay} {move : Move σ} {id : Transaction} {now : UInt32}
    (hdue : r.isDue id now = true) (fate : WriteFate) (bursts : List (List LineEvent)) (store : σ)
    (hpulls : g.tally.pulls =
      r.tally.pulls ++ (r.part id now fate bursts store).calls.filterMap (Pull.ofCall? now))
    (hhalf : g.primary = (r.part id now fate bursts store).half) : Pulled r g move := by
  rcases part_cases hdue fate bursts store with ⟨hcalls, hmotion⟩ | ⟨q, hcalls, hpart⟩
  · rw [hcalls, List.append_nil] at hpulls
    exact .rest hpulls fun _ => hhalf ▸ hmotion
  · rw [hcalls] at hpulls
    exact .pull q hpulls (hhalf.trans hpart)

theorem pulled_ask (id : Transaction) (now : UInt32) (fault : Option LineFault) (store : σ) :
    Pulled r (r.ask id now fault store) (.ask id now fault store) := by
  unfold ask
  split
  · next hask =>
    have hdue := (Bool.and_eq_true_iff.mp hask).2
    cases id with
    | cpi => exact pulled_of_part hdue (.ofFault? fault) [] store rfl rfl
    | info =>
      cases fault with
      | none => exact .rest rfl fun _ => rfl
      | some f => exact pulled_of_part hdue (.fault f) [] store rfl rfl
    | motion =>
      cases fault with
      | none => exact .rest rfl fun _ => rfl
      | some f => exact pulled_of_part hdue (.fault f) [] store rfl rfl
  · exact .rest rfl fun _ => rfl

theorem Right.pulled_finish (h : Right r) (store : σ) :
    Pulled r (r.finish store) (.finish store) := by
  unfold Relay.finish
  split
  · exact .rest rfl fun _ => rfl
  · next w hw => exact pulled_of_part (h.due w hw).2 .sent w.bursts store rfl rfl

omit [SettingsStore σ] in
theorem pulled_deliverReply (r : Relay) : Pulled r r.deliverReply (.deliverReply : Move σ) := by
  unfold deliverReply
  split
  · exact .rest rfl fun _ => rfl
  · exact .rest rfl fun _ => rfl
  · split
    · exact .rest rfl fun _ => rfl
    · exact .rest rfl fun _ => rfl

/-- **Only a pull that ends adds to the motion of the other half**, besides what the half on USB
does on its own. -/
theorem Right.pulled (h : Right r) (move : Move σ) : Pulled r (r.step move) move := by
  cases move with
  | ask id now fault store => exact pulled_ask id now fault store
  | finish store => exact h.pulled_finish store
  | deliverReply => exact r.pulled_deliverReply
  | loseRequest i => exact .rest rfl fun _ => rfl
  | loseReply i => exact .rest rfl fun _ => rfl
  | primary c =>
    refine .rest ?_ fun hne => absurd rfl (hne c)
    simp only [Relay.step, Relay.actPrimary]
    split
    · rfl
    · rfl
  | secondary c =>
    simp only [Relay.step, Relay.actSecondary]
    split
    · exact .rest rfl fun _ => rfl
    · exact .rest rfl fun _ => rfl
  | serve fault =>
    simp only [Relay.step, Relay.serve]
    split
    · exact .rest rfl fun _ => rfl
    · exact .rest rfl fun _ => rfl
  | deliverRequest =>
    simp only [Relay.step, Relay.deliverRequest]
    split
    · exact .rest rfl fun _ => rfl
    · exact .rest rfl fun _ => rfl
  | stray kind id payload =>
    simp only [Relay.step, Relay.stray]
    split
    · exact .rest rfl fun _ => rfl
    · exact .rest rfl fun _ => rfl

/-! ## The law of the relay -/

/-- **Motion is relayed at most once, in order and undistorted.**  After any moves, what pulls added
is, in order, a part of what the other half drained; all that it drained was added, was lost, or is
still under way, and only once; and as long as nothing was clipped, no count is missing on either
axis.  A pull adds the motion that its answer carries, and one that fails or cannot be read adds
nothing. -/
theorem motion_relayed_once_in_order (config other : Config) (side otherSide : Side)
    (moves : List (Move σ)) :
    let r := (start config other side otherSide).run moves
    r.tally.added.Sublist r.tally.drained ∧
    r.tally.drained.Perm (r.tally.added ++ r.tally.lost ++ (r.heard ++ r.flight)) ∧
    (r.tally.clipped = false → ∀ axis : Axis,
      axis.total r.tally.gained =
        axis.count r.secondary.ownMotion.peek + axis.total r.tally.added +
          axis.total r.tally.lost + axis.total (r.heard ++ r.flight)) ∧
    ∀ move : Move σ,
      let g := r.step move
      (g.tally.pulls = r.tally.pulls ∧
        ((∀ c, move ≠ .primary c) → g.primary.peerMotion = r.primary.peerMotion)) ∨
      ∃ q : Pull, g.tally.pulls = r.tally.pulls ++ [q] ∧
        g.primary = { r.primary with
          peerMotion := q.motion?.elim r.primary.peerMotion r.primary.peerMotion.add
          lastPull := q.time } ∧
        ((∀ bytes, q.outcome = .ok bytes → bytes.length < Motion.size) →
          g.tally.added = r.tally.added ∧
            g.primary = { r.primary with lastPull := q.time }) := by
  intro r
  have hr : Right r := (right_start config other side otherSide).run moves
  refine ⟨?_, hr.books.fates, fun hclip axis => ?_, fun move => ?_⟩
  · exact (List.sublist_append_left _ _).trans hr.books.order
  · -- All that was drained is accounted for, so its total splits up.
    have hbalance := hr.balance hclip axis
    have hfates := axis.total_perm hr.books.fates
    rw [axis.total_append, axis.total_append] at hfates
    omega
  · cases hr.pulled move with
    | rest pulls motion => exact .inl ⟨pulls, motion⟩
    | pull q pulls half =>
      refine .inr ⟨q, pulls, half, fun hmalformed => ?_⟩
      have hnone := motion?_of_malformed hmalformed
      rw [hnone] at half
      refine ⟨?_, half⟩
      rw [Tally.added, pulls, List.filterMap_append, filterMap_singleton, hnone, Tally.added]
      exact List.append_nil _

/-- A pull times out, and its late answer is taken by the next pull, whose own answer is still under
way. -/
example :
    let other (op : Op) : Move MemoryStore := .secondary ⟨.standard, .empty, op⟩
    let r := (start .default .default .left .right).run
      [other (.boot true), .ask .info 500 none .empty, .deliverRequest, .serve none,
        .deliverReply, .finish .empty,
        other (.accumulate .own ⟨5, -7⟩), .ask .motion 504 none .empty, .deliverRequest,
        .serve none, .finish .empty,
        other (.accumulate .own ⟨1, 1⟩), .ask .motion 508 none .empty, .deliverReply,
        .finish .empty, .deliverRequest, .serve none]
    r.tally.drained = [⟨5, -7⟩, ⟨1, 1⟩] ∧ r.tally.added = [⟨5, -7⟩] ∧ r.flight = [⟨1, 1⟩] := by
  decide +kernel

end Relay

end TwinBall
