import TwinBall.Proofs.Sensor.Calls

/-!
# The select line of the sensor

Every access to the sensor should begin with a falling edge of the select line, which takes the
line to be high when the access begins.  The scripts see to it as long as every transfer succeeds
(`Line.Bracketed`): each drives the line low only from high, and leaves it high.  A transfer that
fails ends its call with the line low.  So the line is high after a call exactly if no transfer
failed, and the next call begins with an edge exactly if the line is high then, or the call drives
it high first (`released_unless_transfer_failed`).
-/

namespace TwinBall

/-- The select line. -/
inductive Line
  /-- It is high. -/
  | high
  /-- It is low, and was high before it was last driven. -/
  | opened
  /-- It is low, and was low before it was last driven. -/
  | stale
  deriving DecidableEq

namespace Line

/-- The line after an action. -/
def next (l : Line) : BusAction → Line
  | .select true => .high
  | .select false => if l = .high then .opened else .stale
  | _ => l

/-- The line after actions. -/
def after (l : Line) (actions : List BusAction) : Line := actions.foldl next l

/-- Whether a falling edge of the line opens every access: nothing is sent or received except
while the line is low since a falling edge. -/
def Opens (l : Line) : List BusAction → Prop
  | [] => True
  | a :: actions => (a.isTransfer = true → l = .opened) ∧ (l.next a).Opens actions

instance decidableOpens : (l : Line) → (actions : List BusAction) → Decidable (l.Opens actions)
  | _, [] => .isTrue trivial
  | l, a :: actions =>
    have : Decidable ((l.next a).Opens actions) := decidableOpens (l.next a) actions
    inferInstanceAs (Decidable (_ ∧ _))

@[simp] theorem after_nil (l : Line) : l.after [] = l := rfl

@[simp] theorem after_cons (l : Line) (a : BusAction) (actions : List BusAction) :
    l.after (a :: actions) = (l.next a).after actions := rfl

theorem after_append (l : Line) (actions more : List BusAction) :
    l.after (actions ++ more) = (l.after actions).after more := List.foldl_append

theorem opens_append (l : Line) (actions more : List BusAction) :
    l.Opens (actions ++ more) ↔ l.Opens actions ∧ (l.after actions).Opens more := by
  induction actions generalizing l with
  | nil => simp [Opens]
  | cons a actions ih => simp [Opens, ih, and_assoc]

theorem next_of_isTransfer {a : BusAction} (ha : a.isTransfer = true) (l : Line) :
    l.next a = l := by
  cases a with
  | select => cases ha
  | wait => cases ha
  | write => rfl
  | read => rfl

/-- Whether the line is high does not depend on how it came to be low. -/
theorem after_eq_high_iff {l m : Line} (h : l = .high ↔ m = .high) (actions : List BusAction) :
    l.after actions = .high ↔ m.after actions = .high := by
  induction actions generalizing l m with
  | nil => exact h
  | cons a actions ih =>
    refine ih ?_
    cases a with
    | select up =>
      cases up with
      | true => exact Iff.rfl
      | false =>
        have hlow (l : Line) : l.next (.select false) ≠ .high := by cases l <;> decide
        exact iff_of_false (hlow l) (hlow m)
    | wait => exact h
    | write => exact h
    | read => exact h

/-! ## Scripts that keep the line -/

/-- With the line high before, every access of the actions begins with an edge, and the line is high
after them. -/
structure Bracketed (actions : List BusAction) : Prop where
  opens : Line.high.Opens actions
  released : Line.high.after actions = .high

theorem Bracketed.append {actions more : List BusAction} (h : Bracketed actions)
    (hmore : Bracketed more) : Bracketed (actions ++ more) := by
  refine ⟨(opens_append ..).mpr ⟨h.opens, ?_⟩, ?_⟩
  · rw [h.released]
    exact hmore.opens
  · rw [after_append, h.released, hmore.released]

theorem Bracketed.flatMap {α : Type} {f : α → List BusAction} (h : ∀ x, Bracketed (f x))
    (xs : List α) : Bracketed (xs.flatMap f) := by
  induction xs with
  | nil => exact ⟨trivial, rfl⟩
  | cons x xs ih => exact (h x).append ih

/-! ## Runs of such scripts -/

section Runs

variable {script : List BusAction} {ok : Bool} {events : List BusEvent}

theorem Bracketed.opens_ran (h : Bracketed script) (hran : Bus.Ran script ok events) :
    Line.high.Opens (events.map BusEvent.action) := by
  have hopens := h.opens
  cases hran with
  | through events done fine =>
    rw [done] at hopens
    exact hopens
  | broken events transfer rest done fine kind =>
    rw [done, List.append_cons, opens_append] at hopens
    rw [List.map_append]
    exact hopens.1

/-- The line is high after a run exactly if the run went through. -/
theorem Bracketed.after_ran (h : Bracketed script) (hran : Bus.Ran script ok events) :
    Line.high.after (events.map BusEvent.action) = .high ↔ ok = true := by
  cases hran with
  | through events done fine => exact iff_of_true (done ▸ h.released) rfl
  | broken events transfer rest done fine kind =>
    refine iff_of_false (fun hhigh => ?_) nofun
    have hopens := h.opens
    rw [done, opens_append] at hopens
    have hopened := hopens.2.1 kind
    rw [List.map_append, after_append, hopened] at hhigh
    exact absurd ((next_of_isTransfer kind .opened).symm.trans hhigh) nofun

/-- After the line was driven, it does not matter where it was. -/
theorem after_ran_of_select {up : Bool} (hran : Bus.Ran (.select up :: script) ok events)
    (l m : Line) : l.after (events.map BusEvent.action) = .high ↔
      m.after (events.map BusEvent.action) = .high := by
  obtain ⟨e, rest, rfl, he, -⟩ := hran.uncons
  rw [List.map_cons, he]
  refine after_eq_high_iff ?_ (rest.map BusEvent.action)
  cases up with
  | true => exact Iff.rfl
  | false =>
    refine iff_of_false ?_ ?_
    · simp only [next]
      split <;> simp
    · simp only [next]
      split <;> simp

/-- An access that begins while the line is low is not opened by an edge. -/
theorem not_opens_ran {l : Line} (hl : l ≠ .high) {us : Nat} {bytes : List UInt8}
    (hran : Bus.Ran (.select false :: .wait us :: .write bytes :: script) ok events) :
    ¬ l.Opens (events.map BusEvent.action) := by
  obtain ⟨e₁, rest, rfl, he₁, hrest⟩ := hran.uncons
  obtain ⟨e₂, rest, rfl, he₂, hrest⟩ := (hrest rfl).uncons
  obtain ⟨e₃, rest, rfl, he₃, -⟩ := (hrest rfl).uncons
  rw [List.map_cons, List.map_cons, List.map_cons, he₁, he₂, he₃]
  rintro ⟨-, -, hopened, -⟩
  have hstale : (l.next (.select false)).next (.wait us) = .stale := if_neg hl
  exact absurd (hstale.symm.trans (hopened rfl)) nofun

end Runs

end Line

/-! ## The scripts of the driver -/

namespace Pmw3360

open Line (Bracketed)

theorem bracketed_wait (us : Nat) : Bracketed [.wait us] :=
  ⟨by simp [Line.Opens, BusAction.isTransfer], rfl⟩

theorem bracketed_readRegister (address : UInt8) : Bracketed (readRegister address) :=
  ⟨by simp [readRegister, Line.Opens, Line.next, BusAction.isTransfer], rfl⟩

theorem bracketed_writeRegister (address value : UInt8) :
    Bracketed (writeRegister address value) :=
  ⟨by simp [writeRegister, Line.Opens, Line.next, BusAction.isTransfer], rfl⟩

theorem bracketed_readBurst : Bracketed readBurst :=
  ⟨by simp [readBurst, Line.Opens, Line.next, BusAction.isTransfer], rfl⟩

theorem bracketed_wakeUp : Bracketed wakeUp := by
  have hstart : Bracketed [.select true, .wait 1000] :=
    ⟨by simp [Line.Opens, BusAction.isTransfer], rfl⟩
  exact ((hstart.append (bracketed_writeRegister _ _)).append (bracketed_wait _)).append
    (bracketed_readRegister _)

/-- The bytes of a firmware image are sent while the line stays low. -/
theorem opens_image (image : List UInt8) :
    Line.opened.Opens (image.flatMap fun b => [.write [b], .wait 15]) ∧
      Line.opened.after (image.flatMap fun b => [.write [b], .wait 15]) = .opened := by
  induction image with
  | nil => exact ⟨trivial, rfl⟩
  | cons b image ih => exact ⟨⟨fun _ => rfl, nofun, ih.1⟩, ih.2⟩

theorem bracketed_loadFirmware (image : List UInt8) : Bracketed (loadFirmware image) := by
  obtain ⟨hopens, hafter⟩ := opens_image image
  have hload : Bracketed ([.select false, .wait 1, .write [firmwareLoadRegister ||| writeBit],
      .wait 15] ++ image.flatMap (fun b => [.write [b], .wait 15]) ++ [.select true, .wait 1]) := by
    refine ⟨(Line.opens_append ..).mpr ⟨(Line.opens_append ..).mpr ⟨?_, hopens⟩, ?_⟩, ?_⟩
    · simp [Line.Opens, Line.next, BusAction.isTransfer]
    · simp [Line.Opens, BusAction.isTransfer]
    · rw [Line.after_append, Line.after_append]
      exact congrArg (Line.after · [.select true, .wait 1]) hafter
  have hprepare := ((((bracketed_writeRegister restModeRegister 0x00).append
    (bracketed_writeRegister firmwareEnableRegister 0x1D)).append (bracketed_wait 10000)).append
    (bracketed_writeRegister firmwareEnableRegister 0x18)).append hload
  simpa only [loadFirmware, List.append_assoc] using
    hprepare.append (bracketed_readRegister firmwareIdRegister)

theorem bracketed_setUp (image : Option (List UInt8)) : Bracketed (setUp image) := by
  have hload : Bracketed (image.elim [] loadFirmware) := by
    cases image with
    | none => exact ⟨trivial, rfl⟩
    | some image => exact bracketed_loadFirmware image
  exact ((Bracketed.flatMap bracketed_readRegister motionRegisters).append hload).append
    (bracketed_writeRegister _ _)

theorem bracketed_script (d : Pmw3360) (c : Call) : Bracketed (d.script c) := by
  cases c with
  | init =>
    rw [script]
    split
    · exact bracketed_wakeUp.append (bracketed_setUp _)
    · exact bracketed_wakeUp
  | setCpi register => exact bracketed_writeRegister _ _
  | readMotion =>
    rw [script]
    split
    · exact bracketed_readBurst
    · exact (bracketed_writeRegister _ _).append bracketed_readBurst

/-! ## The line around calls -/

/-- The line after all that the driver did, if it stood at `start` before. -/
def line (d : Pmw3360) (start : Line) : Line := start.after (d.events.map BusEvent.action)

/-- **The line is released unless a transfer fails.**  A driver with or without a firmware image
makes any calls, with anything on the other side of the bus and any transfers failing, and then
one more call `u`; before the first call the line is anywhere.

After `u` the line is high exactly if it did not fail with an error of the bus, that is if none of
its transfers failed.  All accesses of `u` begin with a falling edge exactly if the line was high
before it, or it drives the line high first, as `init` does.  In any case this holds of all
accesses of `u` but the first. -/
theorem released_unless_transfer_failed (firmware : Option (List UInt8)) (start : Line)
    (uses : List Use) (u : Use) :
    let d := (new firmware).after uses
    let r := d.use u
    ∃ events, r.2.events = d.events ++ events ∧
      (r.2.line start = .high ↔ r.1 ≠ some .io) ∧
      (r.1 = some .io ↔ ∃ transfer, .failed transfer ∈ events) ∧
      ((d.line start).Opens (events.map BusEvent.action) ↔
        u.call = .init ∨ d.line start = .high) ∧
      ∀ before later, events = before ++ .selected true :: later →
        Line.high.Opens (later.map BusEvent.action) := by
  intro d r
  obtain ⟨heffect, hio⟩ := { d with bus := u.bus }.perform_eq u.call
  have hbracketed := { d with bus := u.bus }.bracketed_script u.call
  have hcases := { d with bus := u.bus }.script_cases u.call
  have hran := u.bus.ran_run ({ d with bus := u.bus }.script u.call)
  generalize { d with bus := u.bus }.script u.call = script at heffect hio hbracketed hcases hran
  generalize hok : (u.bus.run script).ok = ok at hio hran
  have hevents : r.2.events = d.events ++ (u.bus.run script).events :=
    congrArg Pmw3360.events heffect
  generalize (u.bus.run script).events = events at hevents hran
  have hopens := hbracketed.opens_ran hran
  have hfailed : r.1 = some .io ↔ ok = false := hio
  refine ⟨events, hevents, ?_, hfailed.trans hran.ok_eq_false_iff, ?_, fun before later heq => ?_⟩
  · have hline : r.2.line start = (d.line start).after (events.map BusEvent.action) := by
      rw [line, hevents, List.map_append, Line.after_append]
      rfl
    have hsame : (d.line start).after (events.map BusEvent.action) = .high ↔
        Line.high.after (events.map BusEvent.action) = .high := by
      rcases hcases with ⟨-, rest, rfl⟩ | ⟨-, bytes, rest, rfl⟩
      · exact Line.after_ran_of_select hran _ _
      · exact Line.after_ran_of_select hran _ _
    rw [hline, hsame, hbracketed.after_ran hran, ne_eq, hfailed, Bool.not_eq_false]
  · rcases hcases with ⟨hinit, rest, rfl⟩ | ⟨hother, bytes, rest, rfl⟩
    · refine iff_of_true ?_ (.inl hinit)
      obtain ⟨e, later, rfl, he, -⟩ := hran.uncons
      rw [List.map_cons, he] at hopens ⊢
      exact ⟨nofun, hopens.2⟩
    · by_cases hhigh : d.line start = .high
      · exact iff_of_true (hhigh ▸ hopens) (.inr hhigh)
      · exact iff_of_false (Line.not_opens_ran hhigh hran) (not_or.mpr ⟨hother, hhigh⟩)
  · subst heq
    rw [List.map_append, Line.opens_append] at hopens
    exact hopens.2.2

/-- The first byte of a firmware image fails: the line stays low, until the driver starts over and
drives it high before the first access. -/
theorem released_unless_transfer_failed_in_image :
    let broken : Use := ⟨⟨[0x42], .after 17⟩, .init⟩
    let again : Use := ⟨⟨[0x42], .none⟩, .init⟩
    let d := (new (some [0x50])).after [broken]
    d.line .high ≠ .high ∧ (d.use again).2.line .high = .high ∧
      ∃ events, (d.use again).2.events = d.events ++ events ∧
        (d.line .high).Opens (events.map BusEvent.action) := by
  intro broken again d
  obtain ⟨-, -, hbroken, -⟩ :=
    released_unless_transfer_failed (some [0x50]) .high [] broken
  obtain ⟨events, hevents, hagain, -, hopens, -⟩ :=
    released_unless_transfer_failed (some [0x50]) .high [broken] again
  have hio : ((new (some [0x50])).use broken).1 = some .io := by decide
  have hfine : (d.use again).1 ≠ some .io := by decide
  exact ⟨fun hhigh => hbroken.mp hhigh hio, hagain.mpr hfine, events, hevents,
    hopens.mpr (.inl rfl)⟩

/-- Setting the resolution fails, and the line is low afterwards; the next setting, in which nothing
fails, does not begin with a falling edge. -/
theorem line_low_after_failed_transfer :
    let first := (new none).use ⟨⟨[], .after 0⟩, .setCpi 5⟩
    let second := first.2.use ⟨⟨[], .none⟩, .setCpi 5⟩
    first.1 = some .io ∧ first.2.line .high = .opened ∧ second.1 = none ∧
      ¬ (first.2.line .high).Opens
        ((second.2.events.drop first.2.events.length).map BusEvent.action) := by
  decide

end Pmw3360

end TwinBall
