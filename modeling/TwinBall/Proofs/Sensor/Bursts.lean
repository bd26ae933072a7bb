import TwinBall.Proofs.Sensor.Calls

/-!
# Motion bursts of the sensor

A burst may be read only while bursts are armed, and every other access to the sensor ends that.
The driver keeps one flag for it across its calls.  Here the flag is compared with all that went
over the bus: it is set exactly if the last transfer that was not part of a burst armed bursts
(`Kept.armed_iff`).  This is kept by every call, whatever fails in it, since a call other than a
reading clears the flag and transfers something else (`Pmw3360.added_use`).

To which access a transfer belongs is read off the bus: it is told by what was sent first since
the select line was last driven.  So a byte of a firmware image is no burst, whatever its value.
-/

namespace TwinBall

/-- A transfer on the bus of the sensor. -/
structure Transfer where
  /-- What was sent first since the select line was last driven. -/
  address : List UInt8
  /-- What was sent or received. -/
  action : BusAction
  /-- Whether it succeeded. -/
  ok : Bool
  deriving DecidableEq, Repr

namespace Transfer

/-! ## Kinds of transfers -/

/-- Part of a burst, or of what should be one: the access began with the address of bursts and
nothing else. -/
def isBurst (t : Transfer) : Bool := t.address == [Pmw3360.burstRegister]

/-- Zero was written to the burst register. -/
def arming : Transfer :=
  let bytes := [Pmw3360.burstRegister ||| Pmw3360.writeBit, 0x00]
  ⟨bytes, .write bytes, true⟩

/-- A burst: its address is sent, and its bytes are received. -/
def burst : List Transfer :=
  let address := [Pmw3360.burstRegister]
  [⟨address, .write address, true⟩, ⟨address, .read Pmw3360.burstSize, true⟩]

/-- A transfer that neither belongs to a burst nor arms bursts: of another register or of a firmware
image, or an arming that failed. -/
def Other (t : Transfer) : Prop := t.isBurst = false ∧ t ≠ arming

theorem isBurst_arming : arming.isBurst = false := by decide

/-- Both transfers of a burst belong to one, also if they fail. -/
theorem isBurst_of_mem_burst {t : Transfer} (h : { t with ok := true } ∈ burst) :
    t.isBurst = true := by
  have hall : burst.all isBurst = true := by decide
  exact List.all_eq_true.mp hall { t with ok := true } h

theorem other_of_address {t : Transfer} (hburst : t.address ≠ [Pmw3360.burstRegister])
    (harm : t.address ≠ arming.address) : t.Other :=
  ⟨beq_eq_false_iff_ne.mpr hburst, fun h => harm (congrArg address h)⟩

/-- A transfer other than a burst does not become one by failing, and nothing that fails arms. -/
theorem other_of_failed {t : Transfer} (h : t.isBurst = false) : Other { t with ok := false } :=
  ⟨h, fun heq => Bool.noConfusion (congrArg ok heq)⟩

/-! ## The last transfer other than a burst -/

/-- The last transfer that does not belong to a burst. -/
def lastOther (ts : List Transfer) : Option Transfer := (ts.filter (!·.isBurst)).getLast?

theorem lastOther_append (ts more : List Transfer) :
    lastOther (ts ++ more) = (lastOther more).or (lastOther ts) := by
  simp only [lastOther, List.filter_append, List.getLast?_append]

theorem lastOther_concat (ts : List Transfer) {t : Transfer} (h : t.isBurst = false) :
    lastOther (ts ++ [t]) = some t := by
  simp [lastOther, h]

theorem lastOther_append_bursts (ts : List Transfer) {bursts : List Transfer}
    (h : ∀ t ∈ bursts, t.isBurst = true) : lastOther (ts ++ bursts) = lastOther ts := by
  have hnone : bursts.filter (!·.isBurst) = [] :=
    List.filter_eq_nil_iff.mpr fun t ht => by simp [h t ht]
  rw [lastOther, List.filter_append, hnone, List.append_nil]
  rfl

theorem mem_of_lastOther {ts : List Transfer} {t : Transfer} (h : lastOther ts = some t) :
    t ∈ ts :=
  (List.mem_filter.mp (List.mem_of_getLast? h)).1

/-- The last of transfers that neither arm bursts nor belong to one is no arming. -/
theorem lastOther_ne_arming {ts : List Transfer} (hne : ts ≠ []) (h : ∀ t ∈ ts, t.Other)
    (before : List Transfer) : lastOther (before ++ ts) ≠ some arming := by
  have hfilter : ts.filter (!·.isBurst) = ts :=
    List.filter_eq_self.mpr fun t ht => by rw [(h t ht).1]; rfl
  rw [lastOther_append, lastOther, hfilter, List.getLast?_eq_some_getLast hne]
  intro heq
  exact (h _ (List.getLast_mem hne)).2 (Option.some.inj heq)

end Transfer

open Transfer (arming burst lastOther)

/-! ## Bursts and the flag for them -/

/-- What the driver keeps true of its flag and of all transfers so far. -/
structure Kept (armed : Bool) (ts : List Transfer) : Prop where
  /-- The flag tells whether bursts are armed. -/
  armed_iff : armed = true ↔ lastOther ts = some arming
  /-- They were, whenever a burst was read. -/
  bursts : ∀ before t later, ts = before ++ t :: later → t.isBurst = true →
    lastOther before = some arming
  /-- Nothing else was sent or received in a burst than what belongs there. -/
  shape : ∀ t ∈ ts, t.isBurst = true → { t with ok := true } ∈ burst

/-- What a call may transfer, by the flag before and after it. -/
inductive Added : Bool → Bool → List Transfer → Prop
  /-- Something else than a burst. -/
  | other {armed : Bool} {added : List Transfer} (hne : added ≠ []) (h : ∀ t ∈ added, t.Other) :
      Added armed false added
  /-- A burst, or the beginning of one. -/
  | read {added : List Transfer} (h : ∀ t ∈ added, { t with ok := true } ∈ burst) :
      Added true true added
  /-- The same after arming. -/
  | armed {added : List Transfer} (h : Added true true added) : Added false true (arming :: added)

theorem Added.lastOther_of_burst {armed after : Bool} {added : List Transfer}
    (h : Added armed after added) {ts : List Transfer}
    (hflag : armed = true → lastOther ts = some arming) {front later : List Transfer} {t : Transfer}
    (hsplit : added = front ++ t :: later) (ht : t.isBurst = true) :
    lastOther (ts ++ front) = some arming := by
  induction h generalizing ts front with
  | other hne h =>
    have hmem : t ∈ front ++ t :: later := List.mem_append_right _ List.mem_cons_self
    exact absurd ((h t (hsplit ▸ hmem)).1.symm.trans ht) nofun
  | read h =>
    have hfront : ∀ x ∈ front, x.isBurst = true := fun x hx =>
      Transfer.isBurst_of_mem_burst (h x (hsplit ▸ List.mem_append_left _ hx))
    rw [Transfer.lastOther_append_bursts ts hfront, hflag rfl]
  | armed h ih =>
    cases front with
    | nil =>
      obtain ⟨rfl, -⟩ := List.cons.inj hsplit
      exact absurd (Transfer.isBurst_arming.symm.trans ht) nofun
    | cons x front =>
      obtain ⟨rfl, htail⟩ := List.cons.inj hsplit
      -- the arming counts as transferred before, and the rest is read with the flag set
      rw [List.append_cons]
      exact ih (fun _ => Transfer.lastOther_concat ts Transfer.isBurst_arming) htail

theorem Added.armed_iff {armed after : Bool} {added : List Transfer}
    (h : Added armed after added) {ts : List Transfer}
    (hflag : armed = true → lastOther ts = some arming) :
    after = true ↔ lastOther (ts ++ added) = some arming := by
  induction h generalizing ts with
  | other hne h => exact iff_of_false nofun (Transfer.lastOther_ne_arming hne h ts)
  | read h =>
    refine iff_of_true rfl ?_
    rw [Transfer.lastOther_append_bursts ts fun t ht => Transfer.isBurst_of_mem_burst (h t ht)]
    exact hflag rfl
  | armed h ih =>
    rw [List.append_cons]
    exact ih fun _ => Transfer.lastOther_concat ts Transfer.isBurst_arming

theorem Added.shape {armed after : Bool} {added : List Transfer} (h : Added armed after added) :
    ∀ t ∈ added, t.isBurst = true → { t with ok := true } ∈ burst := by
  induction h with
  | other hne h => exact fun t ht hburst => absurd ((h t ht).1.symm.trans hburst) nofun
  | read h => exact fun t ht _ => h t ht
  | armed h ih =>
    refine List.forall_mem_cons.mpr ⟨fun hburst => ?_, ih⟩
    exact absurd (Transfer.isBurst_arming.symm.trans hburst) nofun

theorem Kept.append {armed after : Bool} {ts added : List Transfer} (h : Kept armed ts)
    (hadded : Added armed after added) : Kept after (ts ++ added) where
  armed_iff := hadded.armed_iff h.armed_iff.mp
  bursts before t later heq ht := by
    rcases List.append_eq_append_iff.mp heq with ⟨front, rfl, hsplit⟩ | ⟨back, hts, hback⟩
    · exact hadded.lastOther_of_burst h.armed_iff.mp hsplit ht
    · -- the first new transfer, or an old one
      rcases List.cons_eq_append_iff.mp hback with ⟨rfl, hsplit⟩ | ⟨rest, rfl, -⟩
      · rw [List.append_nil] at hts
        have hlast : lastOther (ts ++ []) = some arming :=
          hadded.lastOther_of_burst h.armed_iff.mp hsplit ht
        rwa [List.append_nil, hts] at hlast
      · exact h.bursts before t rest hts ht
  shape t ht hburst := by
    rcases List.mem_append.mp ht with hold | hnew
    · exact h.shape t hold hburst
    · exact hadded.shape t hnew hburst

/-! ## The transfers on a bus -/

/-- An event as the action that was tried and whether it succeeded. -/
def BusEvent.outcome (e : BusEvent) : BusAction × Bool := (e.action, e.succeeded)

/-- The transfers among actions that succeeded or failed; `address` is what was sent first since the
select line was last driven, if anything was. -/
def transfers (address : Option (List UInt8)) : List (BusAction × Bool) → List Transfer
  | [] => []
  | (.select _, _) :: rest => transfers none rest
  | (.wait _, _) :: rest => transfers address rest
  | (.write bytes, ok) :: rest =>
    ⟨address.getD bytes, .write bytes, ok⟩ :: transfers (some (address.getD bytes)) rest
  | (.read count, ok) :: rest => ⟨address.getD [], .read count, ok⟩ :: transfers address rest

/-- The transfers of a script in which nothing fails. -/
def planned (address : Option (List UInt8)) (script : List BusAction) : List Transfer :=
  transfers address (script.map (·, true))

theorem transfers_append (address : Option (List UInt8)) (first : List (BusAction × Bool)) :
    ∃ later, ∀ second,
      transfers address (first ++ second) = transfers address first ++ transfers later second := by
  induction first generalizing address with
  | nil => exact ⟨address, fun second => rfl⟩
  | cons x first ih =>
    obtain ⟨action, ok⟩ := x
    cases action with
    | select high => exact ih none
    | wait us => exact ih address
    | write bytes =>
      obtain ⟨later, h⟩ := ih (some (address.getD bytes))
      exact ⟨later, fun second => congrArg (_ :: ·) (h second)⟩
    | read count =>
      obtain ⟨later, h⟩ := ih address
      exact ⟨later, fun second => congrArg (_ :: ·) (h second)⟩

theorem planned_append (address : Option (List UInt8)) (first : List BusAction) :
    ∃ later, ∀ second,
      planned address (first ++ second) = planned address first ++ planned later second := by
  obtain ⟨later, h⟩ := transfers_append address (first.map (·, true))
  refine ⟨later, fun second => ?_⟩
  rw [planned, List.map_append, h]
  rfl

/-- A transfer is what it was planned to be, whether it succeeds or not. -/
theorem transfers_cons_of_isTransfer {action : BusAction} (h : action.isTransfer = true)
    (address : Option (List UInt8)) (script : List BusAction) :
    ∃ t rest, planned address (action :: script) = t :: rest ∧
      transfers address [(action, false)] = [{ t with ok := false }] := by
  cases action with
  | select => cases h
  | wait => cases h
  | write => exact ⟨_, _, rfl, rfl⟩
  | read => exact ⟨_, _, rfl, rfl⟩

namespace Bus

/-- The transfers of the run of a script. -/
def sent (b : Bus) (script : List BusAction) : List Transfer :=
  transfers none ((b.run script).events.map BusEvent.outcome)

/-- A run transfers what was planned, up to the first transfer that fails. -/
theorem sent_cases (b : Bus) (script : List BusAction) :
    ((b.run script).ok = true ∧ b.sent script = planned none script) ∨
      ((b.run script).ok = false ∧ ∃ before t later, planned none script = before ++ t :: later ∧
        b.sent script = before ++ [{ t with ok := false }]) := by
  have houtcome : ∀ events : List BusEvent, (∀ e ∈ events, e.succeeded = true) →
      events.map BusEvent.outcome = (events.map BusEvent.action).map (·, true) := by
    intro events fine
    rw [List.map_map]
    exact List.map_congr_left fun e he => congrArg (e.action, ·) (fine e he)
  have hran := b.ran_run script
  rw [sent]
  generalize (b.run script).ok = ok at hran
  generalize (b.run script).events = events at hran
  cases hran with
  | through events done fine =>
    refine .inl ⟨rfl, ?_⟩
    rw [houtcome events fine, ← done]
    rfl
  | broken events transfer rest done fine kind =>
    obtain ⟨later, hlater⟩ := transfers_append none ((events.map BusEvent.action).map (·, true))
    obtain ⟨t, tail, hplanned, hfailed⟩ := transfers_cons_of_isTransfer kind later rest
    refine .inr ⟨rfl, planned none (events.map BusEvent.action), t, tail, ?_, ?_⟩
    · rw [done, planned, List.map_append, hlater]
      exact congrArg (_ ++ ·) hplanned
    · rw [List.map_append, houtcome events fine, hlater]
      exact congrArg (_ ++ ·) hfailed

theorem forall_sent {P : Transfer → Prop} (hfailed : ∀ t, P t → P { t with ok := false })
    {script : List BusAction} (h : ∀ t ∈ planned none script, P t) (b : Bus) :
    ∀ t ∈ b.sent script, P t := by
  rcases b.sent_cases script with ⟨-, heq⟩ | ⟨-, before, t, later, hplanned, heq⟩
  · rw [heq]
    exact h
  · rw [hplanned] at h
    obtain ⟨hbefore, ht⟩ := List.forall_mem_append.mp h
    rw [heq]
    exact List.forall_mem_append.mpr
      ⟨hbefore, List.forall_mem_singleton.mpr (hfailed t (ht t List.mem_cons_self))⟩

theorem sent_ne_nil {script : List BusAction} (h : planned none script ≠ []) (b : Bus) :
    b.sent script ≠ [] := by
  rcases b.sent_cases script with ⟨-, heq⟩ | ⟨-, before, t, later, -, heq⟩
  · rw [heq]
    exact h
  · rw [heq]
    exact List.append_ne_nil_of_right_ne_nil _ (List.cons_ne_nil _ _)

/-- After the select line was driven, it does not matter what was sent before. -/
theorem transfers_run_select (b : Bus) (high : Bool) (rest : List BusAction)
    (address : Option (List UInt8)) :
    transfers address ((b.run (.select high :: rest)).events.map BusEvent.outcome) =
      b.sent (.select high :: rest) := rfl

/-- Two scripts one after the other. -/
theorem sent_append (b : Bus) (first : List BusAction) (high : Bool) (rest : List BusAction) :
    b.sent (first ++ .select high :: rest) =
      if (b.run first).ok then b.sent first ++ (b.run first).bus.sent (.select high :: rest)
      else b.sent first := by
  simp only [sent, run_append]
  split
  · obtain ⟨later, h⟩ :=
      transfers_append none ((b.run first).events.map BusEvent.outcome)
    rw [List.map_append, h]
    rfl
  · rfl

end Bus

/-! ## Scripts without bursts -/

/-- Nothing that a script transfers arms bursts or belongs to one. -/
def Plain (script : List BusAction) : Prop :=
  ∀ address, ∀ t ∈ planned address script, t.Other

theorem Plain.append {first second : List BusAction} (hfirst : Plain first)
    (hsecond : Plain second) : Plain (first ++ second) := by
  intro address
  obtain ⟨later, h⟩ := planned_append address first
  rw [h]
  exact List.forall_mem_append.mpr ⟨hfirst address, hsecond later⟩

theorem Plain.flatMap {α : Type} {f : α → List BusAction} {xs : List α}
    (h : ∀ x ∈ xs, Plain (f x)) : Plain (xs.flatMap f) := by
  induction xs with
  | nil => exact fun _ => List.forall_mem_nil _
  | cons x xs ih =>
    have hcons := List.forall_mem_cons.mp h
    exact hcons.1.append (ih hcons.2)

theorem plain_wait (us : Nat) : Plain [.wait us] := fun _ => List.forall_mem_nil _

/-- Whatever fails in it, a script without bursts leaves bursts unarmed. -/
theorem Plain.added {script : List BusAction} (h : Plain script) (hne : planned none script ≠ [])
    (b : Bus) (armed : Bool) : Added armed false (b.sent script) :=
  .other (Bus.sent_ne_nil hne b)
    (b.forall_sent (fun _ ht => Transfer.other_of_failed ht.1) (h none))

namespace Pmw3360

theorem plain_readRegister (address : UInt8) (h : address &&& ~~~writeBit ≠ burstRegister) :
    Plain (readRegister address) := by
  have hother : ∀ action ok, Transfer.Other ⟨[address &&& ~~~writeBit], action, ok⟩ :=
    fun action ok => Transfer.other_of_address (by simpa using h) (by simp [arming])
  intro a
  exact List.forall_mem_cons.mpr ⟨hother _ _, List.forall_mem_cons.mpr ⟨hother _ _, nofun⟩⟩

theorem plain_writeRegister (address value : UInt8)
    (h : address ||| writeBit ≠ burstRegister ||| writeBit) :
    Plain (writeRegister address value) := by
  intro a
  refine List.forall_mem_cons.mpr ⟨Transfer.other_of_address (by simp) ?_, nofun⟩
  exact fun heq => h (List.cons.inj heq).1

theorem plain_wakeUp : Plain wakeUp := by
  have hstart : Plain [.select true, .wait 1000] := fun _ => List.forall_mem_nil _
  exact ((hstart.append (plain_writeRegister _ _ (by decide))).append (plain_wait _)).append
    (plain_readRegister _ (by decide))

/-- The bytes of a firmware image belong to the access in which they are sent. -/
theorem planned_image (address : List UInt8) (image : List UInt8) :
    ∀ t ∈ planned (some address) (image.flatMap fun b => [.write [b], .wait 15]),
      t.address = address := by
  induction image with
  | nil => exact List.forall_mem_nil _
  | cons b image ih => exact List.forall_mem_cons.mpr ⟨rfl, ih⟩

theorem plain_loadFirmware (image : List UInt8) : Plain (loadFirmware image) := by
  have hload : Plain ([.select false, .wait 1, .write [firmwareLoadRegister ||| writeBit],
      .wait 15] ++ image.flatMap (fun b => [.write [b], .wait 15])) := by
    intro a t ht
    have haddress : t.address = [firmwareLoadRegister ||| writeBit] := by
      rcases List.mem_cons.mp ht with rfl | himage
      · rfl
      · exact planned_image _ image t himage
    exact Transfer.other_of_address (haddress ▸ by decide) (haddress ▸ by decide)
  have hend : Plain [.select true, .wait 1] := fun _ => List.forall_mem_nil _
  have hprepare := (((plain_writeRegister restModeRegister 0x00 (by decide)).append
    (plain_writeRegister firmwareEnableRegister 0x1D (by decide))).append (plain_wait 10000)).append
    (plain_writeRegister firmwareEnableRegister 0x18 (by decide))
  simpa only [loadFirmware, List.append_assoc] using
    ((hprepare.append hload).append hend).append
      (plain_readRegister firmwareIdRegister (by decide))

theorem plain_setUp (image : Option (List UInt8)) : Plain (setUp image) := by
  have hload : Plain (image.elim [] loadFirmware) := by
    cases image with
    | none => exact fun _ => List.forall_mem_nil _
    | some image => exact plain_loadFirmware image
  have hregisters :
      motionRegisters.all (fun address => address &&& ~~~writeBit ≠ burstRegister) = true := by
    decide
  have hclear : Plain (motionRegisters.flatMap readRegister) :=
    Plain.flatMap fun address haddress => plain_readRegister address
      (of_decide_eq_true (List.all_eq_true.mp hregisters address haddress))
  exact (hclear.append hload).append (plain_writeRegister _ _ (by decide))

/-! ## The transfers of calls -/

/-- All transfers so far. -/
def history (d : Pmw3360) : List Transfer := transfers none (d.events.map BusEvent.outcome)

theorem history_use (d : Pmw3360) (u : Use) :
    (d.use u).2.history =
        d.history ++ u.bus.sent ({ d with bus := u.bus }.script u.call) ∧
      (d.use u).2.armed = { d with bus := u.bus }.armedAfter u.call := by
  obtain ⟨heffect, -⟩ := { d with bus := u.bus }.perform_eq u.call
  obtain ⟨high, rest, hscript⟩ :
      ∃ high rest, { d with bus := u.bus }.script u.call = .select high :: rest := by
    rcases { d with bus := u.bus }.script_cases u.call with ⟨-, rest, h⟩ | ⟨-, bytes, rest, h⟩
    · exact ⟨_, _, h⟩
    · exact ⟨_, _, h⟩
  refine ⟨?_, congrArg Pmw3360.armed heffect⟩
  have hevents : (d.use u).2.events =
      d.events ++ (u.bus.run ({ d with bus := u.bus }.script u.call)).events :=
    congrArg Pmw3360.events heffect
  obtain ⟨later, h⟩ := transfers_append none (d.events.map BusEvent.outcome)
  rw [history, hevents, List.map_append, h, hscript, Bus.transfers_run_select]
  rfl

/-- A burst or the beginning of one, in a script that reads one. -/
theorem added_readBurst (b : Bus) : Added true true (b.sent readBurst) := by
  have hplanned : ∀ t ∈ planned none readBurst, { t with ok := true } ∈ burst := by decide
  exact .read (b.forall_sent (fun _ ht => ht) hplanned)

/-- A reading for which bursts are not armed arms them first, and reads one if that succeeds. -/
theorem sent_armBurst_readBurst (b : Bus) : b.sent (armBurst ++ readBurst) =
    if (b.run armBurst).ok then arming :: (b.run armBurst).bus.sent readBurst
    else [{ arming with ok := false }] := by
  have happend : b.sent (armBurst ++ readBurst) =
      if (b.run armBurst).ok then b.sent armBurst ++ (b.run armBurst).bus.sent readBurst
      else b.sent armBurst := b.sent_append armBurst false _
  rw [happend]
  rcases b.sent_cases armBurst with ⟨hok, heq⟩ | ⟨hok, before, t, later, hplanned, heq⟩
  · rw [if_pos hok, if_pos hok, heq]
    rfl
  · have hsplit : [arming] = before ++ t :: later := hplanned
    rcases List.singleton_eq_append_iff.mp hsplit with ⟨rfl, ht⟩ | ⟨-, ht⟩
    · obtain ⟨rfl, -⟩ := List.cons.inj ht
      rw [hok, heq]
      rfl
    · cases ht

/-- What a call transfers. -/
theorem added_use (d : Pmw3360) (u : Use) :
    Added d.armed (d.use u).2.armed (u.bus.sent ({ d with bus := u.bus }.script u.call)) := by
  rw [(d.history_use u).2]
  cases u.call with
  | init =>
    rw [script]
    split
    · exact (plain_wakeUp.append (plain_setUp _)).added (List.cons_ne_nil _ _) _ _
    · exact plain_wakeUp.added (List.cons_ne_nil _ _) _ _
  | setCpi register =>
    have hplain : Plain (writeRegister resolutionRegister (min register maxResolution)) :=
      plain_writeRegister _ _ (by decide)
    exact hplain.added (List.cons_ne_nil _ _) _ _
  | readMotion =>
    simp only [script, armedAfter]
    cases d.armed with
    | true => exact added_readBurst u.bus
    | false =>
      have hsent := sent_armBurst_readBurst u.bus
      cases hok : (u.bus.run armBurst).ok with
      | true =>
        rw [hok, if_pos rfl] at hsent
        exact hsent ▸ .armed (added_readBurst _)
      | false =>
        rw [hok, if_neg Bool.false_ne_true] at hsent
        exact hsent ▸ .other (List.cons_ne_nil _ _)
          (List.forall_mem_singleton.mpr (Transfer.other_of_failed Transfer.isBurst_arming))

/-! ## Calls one after the other -/

/-- Every call keeps the flag right. -/
theorem kept_after {d : Pmw3360} (h : Kept d.armed d.history) (uses : List Use) :
    Kept (d.after uses).armed (d.after uses).history := by
  induction uses generalizing d with
  | nil => exact h
  | cons u uses ih =>
    refine ih ?_
    rw [(d.history_use u).1]
    exact h.append (d.added_use u)

theorem kept_new (firmware : Option (List UInt8)) :
    Kept (new firmware).armed (new firmware).history where
  armed_iff := iff_of_false nofun nofun
  bursts before t later heq := absurd heq (by simp [history, new, transfers])
  shape := List.forall_mem_nil _

/-- Whether none of the calls fails. -/
def Succeeds (d : Pmw3360) : List Use → Prop
  | [] => True
  | u :: uses => (d.use u).1 = none ∧ (d.use u).2.Succeeds uses

/-- What a reading transfers in which nothing fails. -/
theorem history_readMotion {d : Pmw3360} {u : Use} (hcall : u.call = .readMotion)
    (hok : (d.use u).1 = none) :
    (d.use u).2.history = d.history ++ (if d.armed then [] else [arming]) ++ burst ∧
      (d.use u).2.armed = true := by
  obtain ⟨hhistory, harmed⟩ := d.history_use u
  obtain ⟨-, hio⟩ := { d with bus := u.bus }.perform_eq u.call
  have hrun : (u.bus.run ({ d with bus := u.bus }.script u.call)).ok = true := by
    refine eq_true_of_ne_false fun hfalse => ?_
    exact absurd (hok.symm.trans (hio.mpr hfalse)) nofun
  have hsent : u.bus.sent ({ d with bus := u.bus }.script u.call) =
      planned none ({ d with bus := u.bus }.script u.call) := by
    rcases u.bus.sent_cases ({ d with bus := u.bus }.script u.call) with ⟨-, heq⟩ | ⟨hfalse, -⟩
    · exact heq
    · exact absurd (hrun.symm.trans hfalse) nofun
  rw [hhistory, harmed, hsent]
  rw [hcall, script] at hrun ⊢
  have hplanned : planned none ((if d.armed then [] else armBurst) ++ readBurst) =
      (if d.armed then [] else [arming]) ++ burst := by
    cases d.armed with
    | true => rfl
    | false => rfl
  refine ⟨by rw [hplanned, List.append_assoc], ?_⟩
  rw [armedAfter]
  cases harm : d.armed with
  | true => rfl
  | false =>
    rw [harm, Bus.run_append] at hrun
    cases hfirst : (u.bus.run armBurst).ok with
    | true => rfl
    | false => simp [hfirst] at hrun

/-- Consecutive readings arm bursts once. -/
theorem history_readings {d : Pmw3360} (harmed : d.armed = true) {readings : List Use}
    (hcalls : ∀ u ∈ readings, u.call = .readMotion) (hok : d.Succeeds readings) :
    (d.after readings).history = d.history ++ readings.flatMap fun _ => burst := by
  induction readings generalizing d with
  | nil => exact (List.append_nil _).symm
  | cons u readings ih =>
    obtain ⟨hcall, hrest⟩ := List.forall_mem_cons.mp hcalls
    obtain ⟨hhistory, hafter⟩ := history_readMotion hcall hok.1
    rw [if_pos harmed, List.append_nil] at hhistory
    calc ((d.use u).2.after readings).history
        = (d.use u).2.history ++ readings.flatMap fun _ => burst := ih hafter hrest hok.2
      _ = d.history ++ (u :: readings).flatMap fun _ => burst := by
        rw [hhistory, List.flatMap_cons, List.append_assoc]

/-- **Bursts are read only while they are armed.**  A driver with or without a firmware image
makes any calls, with anything on the other side of the bus and any transfers failing; `ts` are
its transfers.

Whenever part of a burst is transferred, it is the address or the bytes of a burst, and the last
transfer before that is not part of a burst has armed bursts; so after any other transfer, and
after an arming that failed, bursts are armed again before one is read.  Further readings, of
which none fails, transfer their bursts and nothing else, but for one arming before the first of
them, if bursts are not armed by then. -/
theorem bursts_are_armed (firmware : Option (List UInt8)) (uses : List Use) :
    let d := (new firmware).after uses
    let ts := d.history
    (∀ before t later, ts = before ++ t :: later → t.isBurst = true →
      { t with ok := true } ∈ burst ∧ lastOther before = some arming) ∧
    (∀ before x between t later, ts = before ++ x :: between ++ t :: later → x.Other →
      t.isBurst = true → arming ∈ between) ∧
    ∀ readings, readings ≠ [] → (∀ u ∈ readings, u.call = .readMotion) → d.Succeeds readings →
      (d.after readings).history = ts ++ (if lastOther ts = some arming then [] else [arming]) ++
        readings.flatMap fun _ => burst := by
  intro d ts
  have hkept : Kept d.armed ts := kept_after (kept_new firmware) uses
  refine ⟨fun before t later heq ht => ?_, fun before x between t later heq hx ht => ?_,
    fun readings hne hcalls hok => ?_⟩
  · exact ⟨hkept.shape t (heq ▸ List.mem_append_right _ List.mem_cons_self) ht,
      hkept.bursts before t later heq ht⟩
  · have hlast := hkept.bursts (before ++ x :: between) t later heq ht
    rw [List.append_cons, Transfer.lastOther_append] at hlast
    cases hbetween : lastOther between with
    | some y =>
      rw [hbetween] at hlast
      exact Transfer.mem_of_lastOther (hbetween.trans hlast)
    | none =>
      rw [hbetween, Transfer.lastOther_concat before hx.1] at hlast
      exact absurd (Option.some.inj hlast) hx.2
  · cases readings with
    | nil => exact absurd rfl hne
    | cons u readings =>
      obtain ⟨hcall, hrest⟩ := List.forall_mem_cons.mp hcalls
      obtain ⟨hhistory, hafter⟩ := history_readMotion hcall hok.1
      have hflag : (if d.armed then [] else [arming]) =
          if lastOther ts = some arming then [] else [arming] := by
        simp only [hkept.armed_iff]
      calc ((d.use u).2.after readings).history
          = (d.use u).2.history ++ readings.flatMap fun _ => burst :=
            history_readings hafter hrest hok.2
        _ = _ := by
          rw [hhistory, hflag, List.flatMap_cons, ← List.append_assoc]

/-- The only byte of the firmware image is the address of bursts, and the first arming fails: two
readings after that arm bursts once. -/
theorem bursts_are_armed_after_failed_arming :
    let idle : Bus := ⟨[], .none⟩
    let uses : List Use := [⟨⟨[0x42], .none⟩, .init⟩, ⟨⟨[], .after 0⟩, .readMotion⟩]
    let readings : List Use := [⟨idle, .readMotion⟩, ⟨idle, .readMotion⟩]
    let d := (new (some [0x50])).after uses
    (d.after readings).history = d.history ++ [arming] ++ (burst ++ burst) ∧
      lastOther (d.history ++ [arming] ++ burst) = some arming := by
  intro idle uses readings d
  obtain ⟨-, -, hreadings⟩ := bursts_are_armed (some [0x50]) uses
  have hcalls : ∀ u ∈ readings, u.call = .readMotion :=
    List.forall_mem_cons.mpr ⟨rfl, List.forall_mem_singleton.mpr rfl⟩
  have hhistory := hreadings readings nofun hcalls ⟨by decide, by decide, trivial⟩
  have hlast : lastOther d.history ≠ some arming := by decide
  rw [if_neg hlast] at hhistory
  obtain ⟨hbursts, -⟩ := bursts_are_armed (some [0x50]) (uses ++ readings)
  refine ⟨hhistory, (hbursts _ ⟨[0x50], .write [0x50], true⟩ [⟨[0x50], .read 6, true⟩] ?_ rfl).2⟩
  rw [after, List.foldl_append]
  exact hhistory.trans (List.append_assoc (d.history ++ [arming]) burst burst).symm

end Pmw3360

end TwinBall
