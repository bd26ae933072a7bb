import TwinBall.Half.Boot
import TwinBall.Half.Keys
import TwinBall.Half.Peer
import TwinBall.Half.Report

/-!
# Sessions

A session is a half together with its store.  Everything that can happen to it is an operation;
what the sensor and the link answer is part of the operation.  `run` performs operations one after
the other, so a statement about all sessions is a statement about all lists of operations.
-/

namespace TwinBall

/-- Something that happens to a half. -/
inductive Op
  /-- It boots, and its sensor answers or not. -/
  | boot (ball : Bool)
  /-- Motion of a ball is added. -/
  | accumulate (ball : Ball) (m : Motion)
  /-- Its sensor is polled, and gives these answers. -/
  | poll (cpi : Except SensorError Unit) (motion : Except SensorError (Option Motion))
  /-- A report is completed. -/
  | report (r : Report) (now : UInt32)
  /-- Its periodic work is done, and the link gives these answers. -/
  | housekeeping (link : ScriptedLink) (now : UInt32)
  /-- It answers a request. -/
  | answer (id : Transaction) (request : List UInt8) (room : Nat)
  /-- The resolution is set. -/
  | setCpi (v : UInt8)
  /-- The scroll divider exponent is set. -/
  | setScrollDiv (v : UInt8)
  /-- Scrolling is switched. -/
  | setScrolling (on : Bool) (now : UInt32)
  /-- The axes that may scroll are selected. -/
  | setSnapMode (m : SnapMode)
  /-- The auto mouse layer is switched. -/
  | setAutoMouse (on : Bool)
  /-- The timeout of the auto mouse layer is set. -/
  | setAutoMouseTimeout (ms : UInt16)
  /-- The timeout of the auto mouse layer is moved one step up or down. -/
  | stepAutoMouseTimeout (up : Bool)
  /-- The timeout of the auto mouse layer is set from a stored step. -/
  | setAutoMouseTimeoutStep (q : UInt8)
  /-- The auto mouse layer goes back to its defaults. -/
  | resetAutoMouse
  /-- The settings go back to their defaults. -/
  | resetSettings
  /-- A settings record is taken in. -/
  | applyRecord (r : SettingsRecord)
  /-- A key event comes in. -/
  | key (e : KeyEvent) (now : UInt32)
  /-- The settings are loaded. -/
  | load
  /-- The settings are saved. -/
  | save

/-- What an operation answers. -/
inductive Reply
  /-- Nothing. -/
  | done
  /-- How polling went, and what was asked of the sensor. -/
  | polled (result : Except SensorError Unit) (calls : List SensorCall)
  /-- Whether there is a report, and the report. -/
  | reported (emitted : Bool) (r : Report)
  /-- What went over the link. -/
  | exchanged (calls : List LinkCall)
  /-- The answer to a request. -/
  | answered (result : Except LinkError (List UInt8))
  /-- Whether a key event should be processed further. -/
  | passed (further : Bool)
  /-- Whether there were settings to load. -/
  | loaded (found : Bool)
  /-- How saving went. -/
  | saved (result : Except StorageError Unit)

/-- A half and its store. -/
structure Session (σ : Type) where
  /-- The half. -/
  half : Half
  /-- Its store. -/
  store : σ

/-- What an operation came to. -/
structure Outcome (σ : Type) where
  /-- The session afterwards. -/
  session : Session σ
  /-- What the operation answers. -/
  reply : Reply
  /-- What the keyboard was told and asked. -/
  notices : List Notice

namespace Session

variable {σ : Type} [SettingsStore σ]

/-- Performs one operation. -/
def step (s : Session σ) (policy : Policy) : Op → Outcome σ
  | .boot ball =>
    let (h, notices) := s.half.boot ball s.store
    ⟨{ s with half := h }, .done, notices⟩
  | .accumulate ball m => ⟨{ s with half := s.half.accumulate ball m }, .done, []⟩
  | .poll cpi motion =>
    let (result, h, sensor) := s.half.poll (ScriptedSensor.mk cpi motion [])
    ⟨{ s with half := h }, .polled result sensor.calls, []⟩
  | .report r now =>
    let r := s.half.makeReport policy r now
    ⟨{ s with half := r.half }, .reported r.emitted r.report, r.notices⟩
  | .housekeeping link now =>
    let p := s.half.housekeeping link s.store now
    ⟨⟨p.half, p.store⟩, .exchanged p.calls, p.notices⟩
  | .answer id request room =>
    let a := s.half.answer id request room
    ⟨{ s with half := a.half }, .answered a.result, a.notices⟩
  | .setCpi v => ⟨{ s with half := s.half.setCpi v }, .done, []⟩
  | .setScrollDiv v => ⟨{ s with half := s.half.setScrollDiv v }, .done, []⟩
  | .setScrolling on now => ⟨{ s with half := s.half.setScrolling on now }, .done, []⟩
  | .setSnapMode m => ⟨{ s with half := s.half.setSnapMode m }, .done, []⟩
  | .setAutoMouse on =>
    ⟨{ s with half := { s.half with autoMouse := s.half.autoMouse.setEnabled on } }, .done, []⟩
  | .setAutoMouseTimeout ms =>
    ⟨{ s with half := { s.half with autoMouse := s.half.autoMouse.setTimeout ms } }, .done, []⟩
  | .stepAutoMouseTimeout up =>
    ⟨{ s with half := { s.half with autoMouse := s.half.autoMouse.step up } }, .done, []⟩
  | .setAutoMouseTimeoutStep q =>
    ⟨{ s with half := { s.half with autoMouse := s.half.autoMouse.setTimeoutStep q } }, .done, []⟩
  | .resetAutoMouse =>
    ⟨{ s with half := { s.half with autoMouse := s.half.autoMouse.reset } }, .done, []⟩
  | .resetSettings => ⟨{ s with half := s.half.resetSettings }, .done, []⟩
  | .applyRecord r => ⟨{ s with half := s.half.applyRecord r }, .done, []⟩
  | .key e now =>
    let (further, h, store) := s.half.key policy e s.store now
    ⟨⟨h, store⟩, .passed further, []⟩
  | .load =>
    let (found, h) := s.half.load s.store
    ⟨{ s with half := h }, .loaded found, []⟩
  | .save =>
    match s.half.save s.store with
    | .ok store => ⟨{ s with store := store }, .saved (.ok ()), []⟩
    | .error e => ⟨s, .saved (.error e), []⟩

/-- The session after operations, each with the policy that the keyboard has at that moment. -/
def run (s : Session σ) (ops : List (Policy × Op)) : Session σ :=
  ops.foldl (fun s o => (s.step o.1 o.2).session) s

/-- What each of the operations comes to. -/
def outcomes (s : Session σ) : List (Policy × Op) → List (Outcome σ)
  | [] => []
  | o :: ops => s.step o.1 o.2 :: (s.step o.1 o.2).session.outcomes ops

omit [SettingsStore σ] in
/-- A session of a half that has not booted. -/
def new (config : Config) (role : Role) (side : Side) (store : σ) : Session σ :=
  ⟨.new config role side, store⟩

@[simp] theorem run_nil (s : Session σ) : s.run [] = s := rfl

@[simp] theorem run_cons (s : Session σ) (o : Policy × Op) (ops : List (Policy × Op)) :
    s.run (o :: ops) = (s.step o.1 o.2).session.run ops := rfl

/-- Operations may be performed piece by piece. -/
theorem run_append (s : Session σ) (ops more : List (Policy × Op)) :
    s.run (ops ++ more) = (s.run ops).run more :=
  List.foldl_append

@[simp] theorem length_outcomes (s : Session σ) (ops : List (Policy × Op)) :
    (s.outcomes ops).length = ops.length := by
  induction ops generalizing s with
  | nil => rfl
  | cons o ops ih => simp [outcomes, ih]

end Session

end TwinBall
