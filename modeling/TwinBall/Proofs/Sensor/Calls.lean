import TwinBall.Sensor.Pmw3360

/-!
# Calls of the sensor driver

What a run of a script leaves on the bus are the actions of the script, in order, up to the first
transfer that fails (`Bus.ran_run`).  A call of the driver is the run of one script, which depends
on the call, on whether bursts are armed and on what answers as the product id
(`Pmw3360.perform_eq`).  So a property of what happens on the bus is a property of the few scripts
and of their beginnings.
-/

namespace TwinBall

/-! ## Runs of scripts -/

namespace BusAction

/-- Whether an action sends or receives. -/
def isTransfer : BusAction → Bool
  | .write _ | .read _ => true
  | _ => false

end BusAction

namespace BusEvent

/-- The action that was carried out, or that failed. -/
def action : BusEvent → BusAction
  | selected high => .select high
  | waited us => .wait us
  | wrote bytes => .write bytes
  | received bytes => .read bytes.length
  | failed transfer => transfer

/-- Whether it was carried out. -/
def succeeded : BusEvent → Bool
  | failed _ => false
  | _ => true

end BusEvent

namespace Bus

/-- What a run of a script leaves on the bus, and whether it went through: all actions, or the
actions up to a transfer, which failed. -/
inductive Ran (script : List BusAction) : Bool → List BusEvent → Prop
  | through (events : List BusEvent) (done : script = events.map BusEvent.action)
      (fine : ∀ e ∈ events, e.succeeded = true) : Ran script true events
  | broken (events : List BusEvent) (transfer : BusAction) (rest : List BusAction)
      (done : script = events.map BusEvent.action ++ transfer :: rest)
      (fine : ∀ e ∈ events, e.succeeded = true) (kind : transfer.isTransfer = true) :
      Ran script false (events ++ [.failed transfer])

theorem Ran.cons {script : List BusAction} {ok : Bool} {events : List BusEvent}
    (h : Ran script ok events) (e : BusEvent) (he : e.succeeded = true) :
    Ran (e.action :: script) ok (e :: events) := by
  cases h with
  | through events done fine =>
    exact .through (e :: events) (congrArg (e.action :: ·) done)
      (List.forall_mem_cons.mpr ⟨he, fine⟩)
  | broken events transfer rest done fine kind =>
    exact .broken (e :: events) transfer rest (congrArg (e.action :: ·) done)
      (List.forall_mem_cons.mpr ⟨he, fine⟩) kind

/-- A run that has something to do begins with it; unless it is a transfer, it cannot fail there. -/
theorem Ran.uncons {a : BusAction} {script : List BusAction} {ok : Bool} {events : List BusEvent}
    (h : Ran (a :: script) ok events) :
    ∃ e rest, events = e :: rest ∧ e.action = a ∧ (a.isTransfer = false → Ran script ok rest) := by
  cases h with
  | through events done fine =>
    cases events with
    | nil => cases done
    | cons e rest =>
      obtain ⟨rfl, rfl⟩ := List.cons.inj done
      exact ⟨e, rest, rfl, rfl, fun _ => .through rest rfl (List.forall_mem_cons.mp fine).2⟩
  | broken events transfer left done fine kind =>
    cases events with
    | nil =>
      obtain ⟨rfl, rfl⟩ := List.cons.inj done
      exact ⟨.failed a, [], rfl, rfl, fun hkind => absurd (kind.symm.trans hkind) nofun⟩
    | cons e rest =>
      obtain ⟨rfl, rfl⟩ := List.cons.inj done
      exact ⟨e, rest ++ [.failed transfer], rfl, rfl,
        fun _ => .broken rest transfer left rfl (List.forall_mem_cons.mp fine).2 kind⟩

/-- A run goes through exactly if no transfer fails. -/
theorem Ran.ok_eq_false_iff {script : List BusAction} {ok : Bool} {events : List BusEvent}
    (h : Ran script ok events) : ok = false ↔ ∃ transfer, .failed transfer ∈ events := by
  cases h with
  | through events done fine =>
    refine iff_of_false nofun ?_
    rintro ⟨transfer, hmem⟩
    exact absurd (fine _ hmem) nofun
  | broken events transfer rest done fine kind =>
    exact iff_of_true rfl ⟨transfer, List.mem_append_right _ (List.mem_singleton_self _)⟩

theorem length_serve (b : Bus) (count : Nat) : (b.serve count).length = count := by
  simp only [serve, List.length_append, List.length_take, List.length_replicate]
  omega

theorem ran_run (b : Bus) (script : List BusAction) :
    Ran script (b.run script).ok (b.run script).events := by
  induction script generalizing b with
  | nil => exact .through [] rfl (List.forall_mem_nil _)
  | cons action script ih =>
    cases action with
    | select high => exact (ih b).cons (.selected high) rfl
    | wait us => exact (ih b).cons (.waited us) rfl
    | write bytes =>
      rw [run]
      split
      · exact .broken [] (.write bytes) script rfl (List.forall_mem_nil _) rfl
      · exact (ih _).cons (.wrote bytes) rfl
    | read count =>
      rw [run]
      split
      · exact .broken [] (.read count) script rfl (List.forall_mem_nil _) rfl
      · have hrest := (ih ⟨b.incoming.drop count, b.faults.rest⟩).cons
          (.received (b.serve count)) rfl
        rw [BusEvent.action, length_serve] at hrest
        exact hrest

end Bus

/-! ## Calls -/

namespace Pmw3360

/-- A call of the driver. -/
inductive Call
  /-- The sensor is reset and made ready. -/
  | init
  /-- The resolution register is set. -/
  | setCpi (register : UInt8)
  /-- The movement is read. -/
  | readMotion

/-- Why a call failed, if it did. -/
def failure {α : Type} : Except SensorError α → Option SensorError
  | .error e => some e
  | .ok _ => none

/-- Makes a call.  Answers why it failed, if it did. -/
def perform (d : Pmw3360) : Call → Option SensorError × Pmw3360
  | .init => (failure d.init.1, d.init.2)
  | .setCpi register => (failure (d.setCpi register).1, (d.setCpi register).2)
  | .readMotion => (failure d.readMotion.1, d.readMotion.2)

/-- The script of a call. -/
def script (d : Pmw3360) : Call → List BusAction
  | .init =>
    if (d.bus.run wakeUp).received = [productId] then wakeUp ++ setUp d.firmware else wakeUp
  | .setCpi register => writeRegister resolutionRegister (min register maxResolution)
  | .readMotion => (if d.armed then [] else armBurst) ++ readBurst

/-- Every call begins with the line; `init` drives it high, the other calls begin an access. -/
theorem script_cases (d : Pmw3360) (c : Call) :
    (c = .init ∧ ∃ rest, d.script c = .select true :: rest) ∨
      (c ≠ .init ∧ ∃ bytes rest,
        d.script c = .select false :: .wait 1 :: .write bytes :: rest) := by
  cases c with
  | init =>
    rw [script]
    split
    · exact .inl ⟨rfl, _, rfl⟩
    · exact .inl ⟨rfl, _, rfl⟩
  | setCpi register => exact .inr ⟨nofun, _, _, rfl⟩
  | readMotion =>
    rw [script]
    split
    · exact .inr ⟨nofun, _, _, rfl⟩
    · exact .inr ⟨nofun, _, _, rfl⟩

/-- Whether bursts are armed after a call. -/
def armedAfter (d : Pmw3360) : Call → Bool
  | .readMotion => d.armed || (d.bus.run armBurst).ok
  | _ => false

/-- A call runs its script, and fails with an error of the bus exactly if a transfer fails. -/
theorem perform_eq (d : Pmw3360) (c : Call) :
    (d.perform c).2 =
        { d with
          armed := d.armedAfter c
          bus := (d.bus.run (d.script c)).bus
          events := d.events ++ (d.bus.run (d.script c)).events } ∧
      ((d.perform c).1 = some .io ↔ (d.bus.run (d.script c)).ok = false) := by
  cases c with
  | init =>
    simp only [perform, script, armedAfter, init, access, run]
    cases hok : (d.bus.run wakeUp).ok with
    | false =>
      by_cases hid : (d.bus.run wakeUp).received = [productId] <;>
        simp [hid, Bus.run_append, hok, failure]
    | true =>
      by_cases hid : (d.bus.run wakeUp).received = [productId]
      · cases hset : ((d.bus.run wakeUp).bus.run (setUp d.firmware)).ok <;>
          simp [hid, Bus.run_append, hok, hset, failure]
      · simp [hid, hok, failure]
  | setCpi register =>
    simp only [perform, script, armedAfter, setCpi, access, run]
    cases hok : (d.bus.run (writeRegister resolutionRegister (min register maxResolution))).ok <;>
      simp [failure]
  | readMotion =>
    simp only [perform, script, armedAfter, readMotion, arm, access, run]
    cases harmed : d.armed with
    | true => cases hok : (d.bus.run readBurst).ok <;> simp [hok, harmed, failure]
    | false =>
      cases hok : (d.bus.run armBurst).ok with
      | false => simp [Bus.run_append, hok, failure]
      | true =>
        cases hread : ((d.bus.run armBurst).bus.run readBurst).ok <;>
          simp [Bus.run_append, hok, hread, failure]

/-! ## Calls one after the other -/

/-- A call, and the other side of the bus during it. -/
structure Use where
  bus : Bus
  call : Call

/-- Makes a call with a given other side of the bus. -/
def use (d : Pmw3360) (u : Use) : Option SensorError × Pmw3360 :=
  { d with bus := u.bus }.perform u.call

/-- The driver after calls. -/
def after (d : Pmw3360) (uses : List Use) : Pmw3360 := uses.foldl (fun d u => (d.use u).2) d

end Pmw3360

end TwinBall
