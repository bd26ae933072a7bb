import TwinBall.Proofs.Half.Turn
import TwinBall.Proofs.Relay.Gains
import TwinBall.Proofs.Relay.Line

/-!
# What holds of the relay at all times

`Books` says of lists alone that what was drained was added, is held on the way, or was lost, each
motion once, and that what was added and what is held is in the order in which it was drained.
`Right` ties the books to the two halves and the line between them.  Here it is kept by the periodic
work of the half on USB: the queue is forgotten when a question is sent, and the end of a wait adds
the motion of the answer, if it waited for motion.
-/

namespace TwinBall

/-! ## The books -/

/-- What was drained is added, held on the way, or lost, and what is added or held is in order. -/
structure Books (added held lost drained : List Motion) : Prop where
  order : (added ++ held).Sublist drained
  fates : drained.Perm (added ++ lost ++ held)

namespace Books

variable {added held lost drained a b c : List Motion}

theorem empty : Books [] [] [] [] := ⟨.slnil, .nil⟩

/-- Some of what is held is lost. -/
theorem forget (h : Books added (a ++ b ++ c) lost drained) :
    Books added (a ++ c) (lost ++ b) drained := by
  constructor
  · have hdrop : (a ++ c).Sublist (a ++ b ++ c) :=
      (List.sublist_append_left a b).append_right c
    exact (hdrop.append_left added).trans h.order
  · refine h.fates.trans (List.perm_iff_count.mpr fun m => ?_)
    simp only [List.count_append]
    omega

/-- The oldest that is held is added. -/
theorem add (h : Books added (a ++ held) lost drained) : Books (added ++ a) held lost drained := by
  constructor
  · rw [List.append_assoc]
    exact h.order
  · refine h.fates.trans (List.perm_iff_count.mpr fun m => ?_)
    simp only [List.count_append]
    omega

/-- More is drained, and is held. -/
theorem drain (h : Books added held lost drained) (a : List Motion) :
    Books added (held ++ a) lost (drained ++ a) := by
  constructor
  · rw [← List.append_assoc]
    exact h.order.append_right a
  · rw [← List.append_assoc]
    exact h.fates.append_right a

/-- More is drained, and is lost at once. -/
theorem waste (h : Books added held lost drained) (a : List Motion) :
    Books added held (lost ++ a) (drained ++ a) := by
  constructor
  · exact h.order.trans (List.sublist_append_left drained a)
  · refine (h.fates.append_right a).trans (List.perm_iff_count.mpr fun m => ?_)
    simp only [List.count_append]
    omega

end Books

/-! ## Motion and answers -/

theorem motionsOn_response (id : Transaction) {payload : List UInt8}
    (hle : payload.length ≤ maxPayload) :
    motionsOn (Frame.bytes .response id.code payload) =
      if id = .motion ∧ payload.length ≤ Motion.size then
        (Motion.ofBytes payload).toOption.toList
      else [] := by
  have hpayload : (Frame.mk .response id.code payload.length payload).payload = payload :=
    List.take_length
  have hmotions := motionsOn_bytes (f := Frame.mk .response id.code payload.length payload)
    (hpayload.symm ▸ hle)
  rw [hpayload] at hmotions
  refine hmotions.trans ?_
  unfold Frame.motion? SerialLink.isAnswer
  rw [hpayload]
  cases id with
  | motion =>
    by_cases hsize : payload.length ≤ Motion.size
    · simp [hsize]
    · simp [hsize]
  | info => simp [Transaction.code]
  | cpi => simp [Transaction.code]

theorem motionsOn_motion (m : Motion) :
    motionsOn (Frame.bytes .response Transaction.motion.code m.bytes) = [m] := by
  have hsize : m.bytes.length = Motion.size := rfl
  rw [motionsOn_response .motion (show m.bytes.length ≤ maxPayload by rw [hsize]; decide),
    if_pos ⟨rfl, Nat.le_of_eq hsize⟩, Motion.ofBytes_bytes]
  rfl

/-- A pull brings the motion that its answer carries. -/
theorem motion?_outcomeOf {answer : Option Frame} (now : UInt32)
    (hanswer : ∀ f, answer = some f → SerialLink.isAnswer .motion f = true) :
    (Pull.mk now (SerialLink.outcomeOf Motion.size answer)).motion? =
      answer.bind Frame.motion? := by
  cases answer with
  | none => rfl
  | some f =>
    rw [Option.bind_some, Frame.motion?, hanswer f rfl, Bool.true_and, SerialLink.outcomeOf,
      Pull.motion?]
    by_cases hsize : f.payload.length ≤ Motion.size
    · rw [if_pos hsize, if_pos (decide_eq_true hsize), Half.readAnswer,
        List.take_of_length_le hsize]
    · rw [if_neg hsize, if_neg (by simpa using hsize)]
      rfl

theorem motion?_of_info {f : Frame} (h : SerialLink.isAnswer .info f = true) :
    f.motion? = none := by
  obtain ⟨-, hid⟩ := Bool.and_eq_true_iff.mp h
  have hcode : f.id = Transaction.info.code := by simpa using hid
  rw [Frame.motion?, SerialLink.isAnswer, hcode]
  simp [Transaction.code]

namespace Relay

variable {σ : Type} [SettingsStore σ] {r : Relay}

/-! ## What is right at all times -/

/-- The link of a half that waits: nothing was queued before, and each frame was seen at once. -/
structure Listening (l : SerialLink) (w : Wait) : Prop where
  clear : l.queue = []
  ready : (l.awaitAnswer w.id w.bursts).2.parser.Ready
  seen : (l.awaitAnswer w.id w.bursts).2.queue = []
  answer : ∀ f, (l.awaitAnswer w.id w.bursts).1 = some f → SerialLink.isAnswer w.id f = true

structure Right (r : Relay) : Prop where
  role : r.secondary.role = .secondary
  frames : ∀ wire ∈ r.replies, IsFrame wire
  idle : r.waiting = none → r.link.parser.Ready
  listening : ∀ w, r.waiting = some w → Listening r.link w
  due : ∀ w, r.waiting = some w → w.id ≠ .cpi ∧ r.isDue w.id w.now = true
  books : Books r.tally.added (r.heard ++ r.flight) r.tally.lost r.tally.drained
  /-- Until something is clipped, what was gained is still there or was drained. -/
  balance : r.tally.clipped = false → ∀ axis : Axis,
    axis.total r.tally.gained =
      axis.count r.secondary.ownMotion.peek + axis.total r.tally.drained

omit [SettingsStore σ] in
theorem right_start (config other : Config) (side otherSide : Side) :
    Right (start config other side otherSide) where
  role := rfl
  frames := nofun
  idle _ := Parser.ready_initial
  listening := nofun
  due := nofun
  books := .empty
  balance _ axis := by
    have hpeek : (start config other side otherSide).secondary.ownMotion.peek = .zero :=
      Accumulator.peek_empty
    rw [hpeek, axis.count_zero]
    rfl

omit [SettingsStore σ] in
theorem heard_idle (h : r.waiting = none) :
    r.heard = r.link.queue.filterMap Frame.motion? := by
  rw [heard, h]
  rfl

omit [SettingsStore σ] in
theorem heardBy_wait {l : SerialLink} {w : Wait} (hl : Listening l w) :
    heardBy l (some w) = ((l.awaitAnswer w.id w.bursts).1.bind Frame.motion?).toList := by
  simp only [heardBy, hl.seen, List.append_nil]
  cases (l.awaitAnswer w.id w.bursts).1 with
  | none => rfl
  | some f => exact filterMap_singleton Frame.motion? f

/-! ## Periodic work -/

theorem link_part {id : Transaction} {now : UInt32} (hdue : r.isDue id now = true)
    (hid : id ≠ .cpi) (fate : WriteFate) (bursts : List (List LineEvent)) (store : σ) :
    ∃ room, (r.part id now fate bursts store).link.link =
      (r.link.exec id [] room fate bursts).link := by
  have hpart := (Bool.and_eq_true_iff.mp hdue).2
  cases id with
  | cpi => exact absurd rfl hid
  | motion =>
    refine ⟨Motion.size, ?_⟩
    simp only [part, Pass.pullMotion, if_pos hpart]
    rfl
  | info =>
    refine ⟨BallInfo.size, ?_⟩
    simp only [part, Pass.negotiate, if_pos hpart, Half.link_settle]
    rfl

theorem pulls_part_info (now : UInt32) (fate : WriteFate) (bursts : List (List LineEvent))
    (store : σ) : (r.part .info now fate bursts store).calls.filterMap (Pull.ofCall? now) = [] := by
  simp only [part, Pass.negotiate]
  split
  · simp [Half.calls_settle, Pull.ofCall?]
  · rfl

/-- A pull notes what came of it, and adds the motion that it brought. -/
theorem part_motion {now : UInt32} (hdue : r.isDue .motion now = true) (fate : WriteFate)
    (bursts : List (List LineEvent)) (store : σ) :
    let q : Pull := ⟨now, (r.link.exec .motion [] Motion.size fate bursts).result.getD
      (.error .timeout)⟩
    (r.part .motion now fate bursts store).calls.filterMap (Pull.ofCall? now) = [q] ∧
      (r.part .motion now fate bursts store).half = r.primary.notePull q.motion? now := by
  have hpart : r.primary.isPullDue now = true := (Bool.and_eq_true_iff.mp hdue).2
  simp only [part, Pass.pullMotion, if_pos hpart]
  exact ⟨rfl, rfl⟩

theorem pulls_part_cpi (now : UInt32) (fate : WriteFate) (bursts : List (List LineEvent))
    (store : σ) : (r.part .cpi now fate bursts store).calls.filterMap (Pull.ofCall? now) = [] := by
  simp only [part, Pass.pushCpi]
  split
  · rfl
  · rfl

theorem link_part_cpi (now : UInt32) (fault : Option LineFault) (bursts : List (List LineEvent))
    (store : σ) : (r.part .cpi now (.ofFault? fault) bursts store).link.link = r.link := by
  have hle : (CpiUpdate.bytes ⟨r.primary.cpiStored⟩).length ≤ maxPayload := by
    simp [CpiUpdate.bytes, maxPayload]
  simp only [part, Pass.pushCpi]
  split
  · cases fault with
    | none =>
      simp [PeerLink.send, SerialLink.send, WriteFate.ofFault?,
        SerialLink.write_eq .notify .cpi hle]
    | some f =>
      simp [PeerLink.send, SerialLink.send, WriteFate.ofFault?,
        SerialLink.write_eq .notify .cpi hle]
  · rfl

omit [SettingsStore σ] in
/-- A part that ends keeps everything right if its link is ready and the books are kept. -/
theorem Right.conclude (h : Right r) {now : UInt32} {p : Pass Exchange σ}
    (hready : p.link.link.parser.Ready)
    (hbooks : Books (r.tally.added ++ (p.calls.filterMap (Pull.ofCall? now)).filterMap Pull.motion?)
      (p.link.link.queue.filterMap Frame.motion? ++ r.flight) r.tally.lost r.tally.drained) :
    Right (r.conclude now p) where
  role := h.role
  frames := h.frames
  idle _ := hready
  listening := nofun
  due := nofun
  books := by
    have hadded : (r.conclude now p).tally.added =
        r.tally.added ++ (p.calls.filterMap (Pull.ofCall? now)).filterMap Pull.motion? :=
      List.filterMap_append
    rw [hadded]
    exact hbooks
  balance := h.balance

/-- What is queued is lost. -/
theorem Right.discarded (h : Right r) (hidle : r.waiting = none) :
    Books r.tally.added r.flight (r.tally.lost ++ r.link.queue.filterMap Frame.motion?)
      r.tally.drained := by
  have hbooks := h.books
  rw [heard_idle hidle] at hbooks
  exact Books.forget (a := []) hbooks

theorem Right.discard (h : Right r) (hidle : r.waiting = none) : Right r.discard where
  role := h.role
  frames := h.frames
  idle := h.idle
  listening w hw := absurd (hidle.symm.trans hw) nofun
  due w hw := absurd (hidle.symm.trans hw) nofun
  books := by
    have hheard : r.discard.heard = [] := heard_idle (r := r.discard) hidle
    rw [hheard]
    exact h.discarded hidle
  balance := h.balance

/-- A wait starts with an empty queue. -/
theorem Right.listen (h : Right r) (hidle : r.waiting = none) {id : Transaction} {now : UInt32}
    (hid : id ≠ .cpi) (hdue : r.isDue id now = true) :
    Right { r.discard with waiting := some ⟨id, now, []⟩ } where
  role := h.role
  frames := h.frames
  idle := nofun
  listening w hw := by
    cases hw
    exact ⟨rfl, h.idle hidle, rfl, nofun⟩
  due w hw := by
    cases hw
    exact ⟨hid, hdue⟩
  books := h.discarded hidle
  balance := h.balance

/-- A request that cannot be written brings nothing. -/
theorem Right.fail (h : Right r) (hidle : r.waiting = none) {id : Transaction} {now : UInt32}
    (hid : id ≠ .cpi) (hdue : r.isDue id now = true) (f : LineFault) (store : σ) :
    Right (r.discard.conclude now (r.part id now (.fault f) [] store)) := by
  obtain ⟨room, hlink⟩ := link_part hdue hid (.fault f) [] store
  rw [(SerialLink.exec_fault _ _ (Nat.zero_le _) _ _ _).2] at hlink
  have hnone : ((r.part id now (.fault f) [] store).calls.filterMap (Pull.ofCall? now)).filterMap
      Pull.motion? = [] := by
    cases id with
    | cpi => exact absurd rfl hid
    | info =>
      rw [pulls_part_info]
      rfl
    | motion =>
      rw [(part_motion hdue (.fault f) [] store).1,
        (SerialLink.exec_fault _ _ (Nat.zero_le _) _ _ _).1]
      rfl
  refine (h.discard hidle).conclude ?_ ?_
  · rw [hlink]
    exact h.idle hidle
  · rw [hnone, hlink, List.append_nil]
    exact h.discarded hidle

theorem Right.ask (h : Right r) (id : Transaction) (now : UInt32) (fault : Option LineFault)
    (store : σ) : Right (r.ask id now fault store) := by
  unfold Relay.ask
  split
  · next hask =>
    obtain ⟨hnone, hdue⟩ := Bool.and_eq_true_iff.mp hask
    have hidle : r.waiting = none := Option.isNone_iff_eq_none.mp hnone
    -- What the half on USB writes carries no motion, so the books do not see it.
    have hsent : Right { r with requests := r.requests ++
        (r.part id now (.ofFault? fault) [] store).link.output.filterMap LineOutput.wire? } :=
      ⟨h.role, h.frames, h.idle, h.listening, h.due, h.books, h.balance⟩
    by_cases hid : id = .cpi
    · subst hid
      refine hsent.conclude ?_ ?_
      · rw [link_part_cpi]
        exact h.idle hidle
      · rw [link_part_cpi, pulls_part_cpi, ← heard_idle hidle, List.filterMap_nil,
          List.append_nil]
        exact h.books
    · cases fault with
      | none =>
        have hlisten := hsent.listen hidle hid hdue
        cases id with
        | cpi => exact absurd rfl hid
        | info => exact hlisten
        | motion => exact hlisten
      | some f =>
        have hfail := hsent.fail hidle hid hdue f store
        cases id with
        | cpi => exact absurd rfl hid
        | info => exact hfail
        | motion => exact hfail
  · exact h

/-- A wait that ends adds the motion of the answer, if it waited for one. -/
theorem Right.finish (h : Right r) (store : σ) : Right (r.finish store) := by
  unfold Relay.finish
  split
  · exact h
  · next w hw =>
    have hl := h.listening w hw
    obtain ⟨hid, hdue⟩ := h.due w hw
    -- The queue was forgotten when the wait began, so the exchange finds nothing to forget.
    have hclear : ({ r.link with queue := [] } : SerialLink) = r.link := by
      rw [← hl.clear]
    obtain ⟨room, hlink⟩ := link_part hdue hid .sent w.bursts store
    rw [(SerialLink.exec_sent _ _ (Nat.zero_le _) _ _).2, hclear] at hlink
    have hbooks := h.books
    rw [heard, hw, heardBy_wait hl] at hbooks
    refine h.conclude ?_ ?_
    · rw [hlink]
      exact hl.ready
    · rw [hlink, hl.seen]
      have hadd := hbooks.add
      cases hwid : w.id with
      | cpi => exact absurd hwid hid
      | info =>
        have hsilent : (r.link.awaitAnswer w.id w.bursts).1.bind Frame.motion? = none := by
          rw [Option.bind_eq_none_iff]
          intro f hf
          exact motion?_of_info (hwid ▸ hl.answer f hf)
        rw [hsilent] at hadd
        rw [pulls_part_info]
        exact hadd
      | motion =>
        rw [hwid] at hdue hadd
        have hanswer : ∀ f, (r.link.awaitAnswer .motion w.bursts).1 = some f →
            SerialLink.isAnswer .motion f = true := hwid ▸ hl.answer
        rw [(part_motion hdue .sent w.bursts store).1,
          (SerialLink.exec_sent _ _ (Nat.zero_le _) _ _).1, hclear, Option.getD_some,
          filterMap_singleton, motion?_outcomeOf w.now hanswer]
        exact hadd

end Relay

end TwinBall
