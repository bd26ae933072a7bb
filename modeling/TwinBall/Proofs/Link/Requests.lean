import TwinBall.Proofs.Link.Queue

/-!
# Requests and their answers

While a link waits for an answer, frames reach it burst by burst (`Parser.arrivals`).  The wait ends
with the first of them that answers the request (`fst_awaitAnswer`), and the exchange comes to what
this frame carries (`request_takes_first_answer`).  Any frames can arrive
(`Ready.content_arrivals`).
-/

namespace TwinBall

/-- A frame that answers a request about a transaction. -/
def Frame.Answers (f : Frame) (id : Transaction) : Prop := f.kind = .response ∧ f.id = id.code

theorem SerialLink.isAnswer_iff {id : Transaction} {f : Frame} :
    isAnswer id f = true ↔ f.Answers id := by
  simp [isAnswer, Frame.Answers]

namespace Parser

/-- The frames that reach a waiting reader.  It empties the queue before every burst, and what finds
the queue full again is lost. -/
def arrivals (p : Parser) : List (List LineEvent) → List Frame
  | [] => []
  | burst :: bursts =>
    (p.offers burst).take queueCapacity ++ (p.receiveAll burst).arrivals bursts

/-- A reader that sees the queue after every event misses nothing. -/
theorem arrivals_singletons (p : Parser) (events : List LineEvent) :
    p.arrivals (events.map fun e => [e]) = p.offers events := by
  induction events generalizing p with
  | nil => rfl
  | cons e events ih =>
    have hone : (p.offers [e]).length ≤ queueCapacity := by
      rw [offers, offers, List.append_nil]
      exact Nat.le_trans Option.length_toList_le (by decide)
    rw [List.map_cons, arrivals, List.take_of_length_le hone, ih]
    exact (p.offers_append [e] events).symm

theorem receiveAll_bytes (p : Parser) (bytes : List UInt8) :
    p.receiveAll (bytes.map .byte) = (p.feed bytes).1 := by
  induction bytes generalizing p with
  | nil => rfl
  | cons byte bytes ih =>
    have hnext : p.receiveAll ((byte :: bytes).map .byte) =
        (p.receive (.byte byte)).1.receiveAll (bytes.map .byte) := rfl
    rw [hnext, receive_byte, ih, feed_cons]

/-- A parser that is ready reads from the bytes of a frame what was put into them. -/
theorem Ready.content_frames {p : Parser} (hp : p.Ready) (kind : FrameKind) (id : UInt8)
    {payload : List UInt8} (hle : payload.length ≤ maxPayload) :
    (p.feed (Frame.bytes kind id payload)).1.Ready ∧
      (p.frames (Frame.bytes kind id payload)).map Frame.content = [(kind, id, payload)] := by
  obtain ⟨f, rfl, rfl, rfl, hready, hread⟩ := hp.feed_bytes kind id hle
  refine ⟨hready, ?_⟩
  rw [frames, hread, List.filterMap_append, filterMap_frame?_replicate]
  rfl

/-- Any frames can arrive, one in a burst. -/
theorem Ready.content_arrivals {p : Parser} (hp : p.Ready)
    (contents : List (FrameKind × UInt8 × List UInt8))
    (hle : ∀ c ∈ contents, c.2.2.length ≤ maxPayload) :
    (p.arrivals (contents.map fun c => (Frame.bytes c.1 c.2.1 c.2.2).map .byte)).map
      Frame.content = contents := by
  induction contents generalizing p with
  | nil => rfl
  | cons c contents ih =>
    obtain ⟨hready, hcontent⟩ := hp.content_frames c.1 c.2.1 (hle c List.mem_cons_self)
    have hrest := ih hready fun d hd => hle d (List.mem_cons_of_mem c hd)
    rw [List.map_cons, arrivals, offers_bytes, receiveAll_bytes, List.map_append, List.map_take,
      hcontent, hrest]
    rfl

end Parser

namespace SerialLink

variable (l : SerialLink)

/-! ## Waiting -/

theorem receiveAll_eq (events : List LineEvent) :
    l.receiveAll events =
      ⟨l.parser.receiveAll events,
        l.queue ++ (l.parser.offers events).take (queueCapacity - l.queue.length)⟩ := by
  induction events generalizing l with
  | nil => simp [receiveAll, Parser.receiveAll, Parser.offers]
  | cons e events ih =>
    have hnext : l.receiveAll (e :: events) = (l.receive e).receiveAll events := rfl
    rw [hnext, ih, receive_eq, Parser.offers, List.take_append, ← List.append_assoc]
    simp only [SerialLink.mk.injEq, List.append_cancel_left_eq, List.length_append,
      List.length_take]
    refine ⟨rfl, ?_⟩
    congr 1
    omega

theorem fst_takeAnswer (id : Transaction) (queue : List Frame) :
    (takeAnswer id queue).1 = queue.find? (isAnswer id) := by
  induction queue with
  | nil => rfl
  | cons f queue ih =>
    rw [takeAnswer, List.find?_cons]
    cases isAnswer id f with
    | true => rfl
    | false => exact ih

/-- A search that finds nothing leaves nothing. -/
theorem snd_takeAnswer {id : Transaction} {queue : List Frame}
    (h : (takeAnswer id queue).1 = none) : (takeAnswer id queue).2 = [] := by
  induction queue with
  | nil => rfl
  | cons f queue ih =>
    rw [takeAnswer] at h ⊢
    split at h
    · cases h
    · next hstray =>
      rw [if_neg hstray]
      exact ih h

/-- **A wait ends with the first answer** among what is queued and what arrives. -/
theorem fst_awaitAnswer (id : Transaction) (bursts : List (List LineEvent)) :
    (l.awaitAnswer id bursts).1 =
      (l.queue ++ l.parser.arrivals bursts).find? (isAnswer id) := by
  induction bursts generalizing l with
  | nil => rw [Parser.arrivals, List.append_nil, ← fst_takeAnswer, awaitAnswer]
  | cons burst bursts ih =>
    have hfirst := fst_takeAnswer id l.queue
    have hrest : (takeAnswer id l.queue).1 = none → (takeAnswer id l.queue).2 = [] := snd_takeAnswer
    rw [List.find?_append, ← hfirst]
    rcases htake : takeAnswer id l.queue with ⟨answer, queue⟩
    cases answer with
    | some f => simp only [awaitAnswer, htake, Option.some_or]
    | none =>
      -- The reader has emptied the queue, so the burst finds room for four frames.
      obtain rfl : queue = [] := by simpa [htake] using hrest
      simp only [awaitAnswer, htake, Option.none_or]
      rw [ih, receiveAll_eq]
      rfl

theorem find?_of_first {id : Transaction} {skipped later : List Frame} {f : Frame}
    (hskipped : ∀ g ∈ skipped, ¬ g.Answers id) (hf : f.Answers id) :
    (skipped ++ f :: later).find? (isAnswer id) = some f := by
  rw [List.find?_eq_some_iff_append]
  refine ⟨isAnswer_iff.mpr hf, skipped, later, rfl, fun g hg => ?_⟩
  rw [Bool.not_eq_true', Bool.eq_false_iff, ne_eq, isAnswer_iff]
  exact hskipped g hg

theorem find?_of_silent {id : Transaction} {frames : List Frame}
    (hsilent : ∀ g ∈ frames, ¬ g.Answers id) : frames.find? (isAnswer id) = none := by
  rw [List.find?_eq_none]
  exact fun g hg hanswer => hsilent g hg (isAnswer_iff.mp hanswer)

/-! ## Exchanges -/

theorem write_oversized (kind : FrameKind) (id : Transaction) {payload : List UInt8}
    (hlarge : maxPayload < payload.length) (fate : WriteFate) :
    write kind id payload fate = (some (.error .malformed), []) := by
  simp [write, Frame.encode, hlarge, FrameError.toLinkError]

section Exchange

variable (id : Transaction) {request : List UInt8} (buffer : List UInt8)
  (bursts : List (List LineEvent))

theorem output_exec (room : Nat) (fate : WriteFate) :
    (l.exec id request room fate bursts).output = (write .request id request fate).2 := by
  unfold exec
  rcases write .request id request fate with ⟨_ | _ | _, output⟩
  · rfl
  · rfl
  · dsimp only
    split
    · rfl
    · split
      · rfl
      · rfl

theorem execInto_oversized (hlarge : maxPayload < request.length) (fate : WriteFate) :
    (l.execInto id request buffer fate bursts).output = [] ∧
      (l.execInto id request buffer fate bursts).result = some (.error .malformed, buffer) := by
  rw [execInto, exec, write_oversized .request id hlarge]
  exact ⟨rfl, rfl⟩

variable (hle : request.length ≤ maxPayload)

include hle

theorem execInto_fault (f : LineFault) :
    (l.execInto id request buffer (.fault f) bursts).output = [.failed] ∧
      (l.execInto id request buffer (.fault f) bursts).result =
        some (.error f.toLinkError, buffer) := by
  rw [execInto, exec, write_eq .request id hle]
  exact ⟨rfl, rfl⟩

theorem execInto_stuck :
    (l.execInto id request buffer .stuck bursts).output = [.stuck] ∧
      (l.execInto id request buffer .stuck bursts).result = none := by
  rw [execInto, exec, write_eq .request id hle]
  exact ⟨rfl, rfl⟩

theorem output_execInto_sent :
    (l.execInto id request buffer .sent bursts).output =
      [.sent (Frame.bytes .request id.code request)] := by
  rw [execInto, output_exec, write_eq .request id hle]

theorem execInto_silent (hsilent : ∀ g ∈ l.parser.arrivals bursts, ¬ g.Answers id) :
    (l.execInto id request buffer .sent bursts).result = some (.error .timeout, buffer) := by
  rw [execInto, (l.exec_sent id hle buffer.length bursts).1, fst_awaitAnswer, List.nil_append,
    find?_of_silent hsilent]
  rfl

theorem execInto_answered {skipped later : List Frame} {f : Frame}
    (harrived : l.parser.arrivals bursts = skipped ++ f :: later)
    (hskipped : ∀ g ∈ skipped, ¬ g.Answers id) (hf : f.Answers id) :
    (l.execInto id request buffer .sent bursts).result =
      some (if f.payload.length ≤ buffer.length then
        (.ok f.payload.length, writeFront buffer f.payload) else (.error .malformed, buffer)) := by
  rw [execInto, (l.exec_sent id hle buffer.length bursts).1, fst_awaitAnswer, List.nil_append,
    harrived, find?_of_first hskipped hf, outcomeOf]
  split
  · rfl
  · rfl

end Exchange

/-- **A request takes the first answer to it.**  A request is made on any link, whatever is queued.

What is queued makes no difference.  A request that is too long is refused, and nothing goes out.
Otherwise exactly one frame goes out, which reads back as the request, unless the line fails.  The
exchange then comes to the first response with the id of the request among the frames that arrive,
however many others come before it: its payload is written to the start of the buffer, or refused if
the buffer is too short.  Without such a frame the request times out.  An exchange that fails leaves
the buffer as it was. -/
theorem request_takes_first_answer (id : Transaction) (request buffer : List UInt8)
    (fate : WriteFate) (bursts : List (List LineEvent)) :
    let o := l.execInto id request buffer fate bursts
    let arrived := l.parser.arrivals bursts
    let wire := Frame.bytes .request id.code request
    (∀ queue, ({ l with queue := queue } : SerialLink).execInto id request buffer fate bursts = o) ∧
    (maxPayload < request.length →
      o.output = [] ∧ o.result = some (.error .malformed, buffer)) ∧
    (request.length ≤ maxPayload →
      (∀ f, fate = .fault f → o.output = [.failed] ∧
        o.result = some (.error (if f = .overrun ∨ f = .held then .busy else .io), buffer)) ∧
      (fate = .stuck → o.output = [.stuck] ∧ o.result = none) ∧
      (fate = .sent →
        o.output = [.sent wire] ∧
        (Parser.initial.frames wire).map Frame.content = [(.request, id.code, request)] ∧
        ((∀ g ∈ arrived, ¬ g.Answers id) → o.result = some (.error .timeout, buffer)) ∧
        ∀ (skipped : List Frame) (f : Frame) (later : List Frame),
          arrived = skipped ++ f :: later → (∀ g ∈ skipped, ¬ g.Answers id) → f.Answers id →
            (buffer.length < f.payload.length → o.result = some (.error .malformed, buffer)) ∧
            (f.payload.length ≤ buffer.length → ∃ filled,
              o.result = some (.ok f.payload.length, filled) ∧
              filled.length = buffer.length ∧
              filled.take f.payload.length = f.payload ∧
              filled.drop f.payload.length = buffer.drop f.payload.length))) := by
  intro o arrived wire
  refine ⟨fun _ => rfl, fun hlarge => l.execInto_oversized id buffer bursts hlarge fate, ?_⟩
  intro hle
  refine ⟨?_, ?_, ?_⟩
  · rintro f rfl
    have hmapped : f.toLinkError = if f = .overrun ∨ f = .held then .busy else .io := by
      cases f <;> rfl
    rw [← hmapped]
    exact l.execInto_fault id buffer bursts hle f
  · rintro rfl
    exact l.execInto_stuck id buffer bursts hle
  · rintro rfl
    refine ⟨l.output_execInto_sent id buffer bursts hle,
      (Parser.ready_initial.content_frames .request id.code hle).2,
      l.execInto_silent id buffer bursts hle, ?_⟩
    intro skipped f later harrived hskipped hf
    have hresult := l.execInto_answered id buffer bursts hle harrived hskipped hf
    refine ⟨fun hlong => hresult.trans (by rw [if_neg (Nat.not_le.mpr hlong)]), fun hfits => ?_⟩
    exact ⟨writeFront buffer f.payload, hresult.trans (by rw [if_pos hfits]),
      length_writeFront hfits, take_writeFront _ _, drop_writeFront _ _⟩

/-- A request for motion is made while an answer to an earlier one is queued.  It takes the answer
that comes after a request and a response about something else, and leaves the last two bytes of the
buffer.  The answer does not fit into three bytes.  The other exchanges bring nothing. -/
theorem request_takes_first_answer_past_strays :
    let wire (kind : FrameKind) (id : UInt8) (payload : List UInt8) : List LineEvent :=
      (Frame.bytes kind id payload).map .byte
    let l : SerialLink := ⟨.initial, [⟨.response, 1, 4, [9, 9, 9, 9, 0, 0, 0, 0]⟩]⟩
    let bursts := [wire .request 1 [7] ++ wire .response 0 [1],
      wire .response 1 [3, 0, 4, 0] ++ wire .response 1 [5]]
    let buffer : List UInt8 := [238, 238, 238, 238, 238, 238]
    (∃ filled, (l.execInto .motion [] buffer .sent bursts).result = some (.ok 4, filled) ∧
        filled.length = 6 ∧ filled.take 4 = [3, 0, 4, 0] ∧ filled.drop 4 = [238, 238]) ∧
      (l.execInto .motion [] [238, 238, 238] .sent bursts).result =
        some (.error .malformed, [238, 238, 238]) ∧
      (l.execInto .motion [] buffer .sent []).result = some (.error .timeout, buffer) ∧
      (l.execInto .motion [] buffer (.fault .held) bursts).result = some (.error .busy, buffer) ∧
      (l.execInto .motion [] buffer .stuck bursts).result = none ∧
      (l.execInto .motion (List.replicate 9 0) buffer .sent bursts).output = [] := by
  intro wire l bursts buffer
  let skipped : List Frame :=
    [⟨.request, 1, 1, [7, 0, 0, 0, 0, 0, 0, 0]⟩, ⟨.response, 0, 1, [1, 0, 0, 0, 0, 0, 0, 0]⟩]
  let f : Frame := ⟨.response, 1, 4, [3, 0, 4, 0, 0, 0, 0, 0]⟩
  let later : List Frame := [⟨.response, 1, 1, [5, 0, 4, 0, 0, 0, 0, 0]⟩]
  have harrived : l.parser.arrivals bursts = skipped ++ f :: later := by decide +kernel
  have hskipped : ∀ g ∈ skipped, ¬ g.Answers .motion := by
    simp [skipped, Frame.Answers, Transaction.code]
  have hf : f.Answers .motion := ⟨rfl, rfl⟩
  have hempty : ([] : List UInt8).length ≤ maxPayload := Nat.zero_le _
  obtain ⟨-, -, hsent⟩ := l.request_takes_first_answer .motion [] buffer .sent bursts
  obtain ⟨-, -, -, hanswer⟩ := (hsent hempty).2.2 rfl
  obtain ⟨-, -, hshort⟩ := l.request_takes_first_answer .motion [] [238, 238, 238] .sent bursts
  obtain ⟨-, -, -, hrefused⟩ := (hshort hempty).2.2 rfl
  obtain ⟨-, -, hwait⟩ := l.request_takes_first_answer .motion [] buffer .sent []
  obtain ⟨-, -, hsilent, -⟩ := (hwait hempty).2.2 rfl
  obtain ⟨-, -, hfault⟩ := l.request_takes_first_answer .motion [] buffer (.fault .held) bursts
  obtain ⟨-, -, hstuck⟩ := l.request_takes_first_answer .motion [] buffer .stuck bursts
  obtain ⟨-, hlarge, -⟩ :=
    l.request_takes_first_answer .motion (List.replicate 9 0) buffer .sent bursts
  exact ⟨(hanswer skipped f later harrived hskipped hf).2 (by decide),
    (hrefused skipped f later harrived hskipped hf).1 (by decide),
    hsilent (by simp [Parser.arrivals]), ((hfault hempty).1 .held rfl).2,
    ((hstuck hempty).2.1 rfl).2, (hlarge (by decide)).1⟩

end SerialLink

end TwinBall
