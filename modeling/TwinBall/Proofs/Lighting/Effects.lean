import TwinBall.Lighting

/-!
# What the lighting is asked to do

Handling a packet or a change of layers comes down to a list of effects: words written to the store
and calls of the lighting driver, in this order.  A refused write ends the list.

`asks` is that list for an event, and `step_eq_handle` says that handling the event is performing
it.  So what can be read off the list is what happens: a word is written only by a save, and the
lighting becomes the one at power-on only right after such a write (`durable_handle`).
-/

namespace TwinBall

/-! ## Stores that refuse -/

/-- A store whose lighting words cannot be written as long as there is a reason. -/
structure Refusing (σ : Type) where
  store : σ
  refusal : Option StorageError

namespace Refusing

variable {σ : Type} [SettingsStore σ]

def putLayerWord (s : Refusing σ) (n : UInt8) (word : UInt32) :
    Except StorageError (Refusing σ) :=
  match s.refusal with
  | some e => .error e
  | none => (SettingsStore.putLayerWord s.store n word).map fun store => { s with store := store }

instance : SettingsStore (Refusing σ) where
  keyboardWord? s := SettingsStore.keyboardWord? s.store
  putKeyboardWord s word :=
    (SettingsStore.putKeyboardWord s.store word).map fun store => { s with store := store }
  layerWord? s n := SettingsStore.layerWord? s.store n
  putLayerWord := putLayerWord
  layoutWord s := SettingsStore.layoutWord s.store
  putLayoutWord s word := { s with store := SettingsStore.putLayoutWord s.store word }

end Refusing

/-! ## Events -/

/-- Something that the lighting has to react to. -/
inductive LightingEvent
  /-- A packet of the host tool under a layer state; writes fail during it if there is a reason. -/
  | packet (data : List UInt8) (layers : UInt32) (refusal : Option StorageError)
  /-- Other layers are active. -/
  | changeLayer (layers : UInt32)

/-- Whether an event is a packet that asks for a save. -/
def LightingEvent.isSave : LightingEvent → Bool
  | .packet (command :: _) _ _ => LightingCommand.ofCode? command == some .save
  | _ => false

/-- The state of a lighting driver, and a store. -/
structure LightingState (L σ : Type) where
  light : L
  store : σ

/-- A call of a lighting driver. -/
def LampCall.on {L : Type} [Lighting L] (l : L) : LampCall → L
  | .setHsv h s v => Lighting.setHsv l h s v
  | .setMode m => Lighting.setMode l m
  | .setEnabled on => Lighting.setEnabled l on
  | .setSpeed s => Lighting.setSpeed l s
  | .apply word => Lighting.applyConfigWord l word
  | .persist => Lighting.persist l

/-- Something that is done to a lighting driver or to a store. -/
inductive LightingEffect
  | write (layer : UInt8) (word : UInt32)
  | lamp (call : LampCall)
  deriving DecidableEq

/-- Whether an effect outlives a power cycle. -/
def LightingEffect.isDurable : LightingEffect → Bool
  | write _ _ | lamp .persist => true
  | lamp _ => false

/-- How performing effects went: the effects up to the first refused write, and the state after
them. -/
structure Performed (L σ : Type) where
  result : Except StorageError Unit
  effects : List LightingEffect
  state : LightingState L σ

namespace LightingState

open Lighting

variable {L σ : Type} [Lighting L] [SettingsStore σ] (layerCount : UInt8)

/-- Handles an event. -/
def step (s : LightingState L σ) : LightingEvent → Except StorageError Unit × LightingState L σ
  | .packet data layers refusal =>
    let r := receive layerCount s.light (Refusing.mk s.store refusal) data layers
    (r.result, ⟨r.light, r.store.store⟩)
  | .changeLayer layers => (.ok (), ⟨changeLayer layerCount s.light s.store layers, s.store⟩)

/-- The state after events. -/
def run (s : LightingState L σ) (events : List LightingEvent) : LightingState L σ :=
  events.foldl (fun s e => (s.step layerCount e).2) s

@[simp] theorem run_nil (s : LightingState L σ) : s.run layerCount [] = s := rfl

@[simp] theorem run_cons (s : LightingState L σ) (e : LightingEvent) (events : List LightingEvent) :
    s.run layerCount (e :: events) = (s.step layerCount e).2.run layerCount events := rfl

/-! ## Effects of an event -/

/-- What setting a value asks of the driver. -/
def valueCalls (l : L) (data : List UInt8) : List LampCall :=
  match data with
  | code :: v :: rest =>
    match LightingValue.ofCode? code, rest with
    | some .brightness, _ => [.setHsv (hue l) (sat l) v]
    | some .effect, _ => [.setMode v, .setEnabled (v != 0)]
    | some .effectSpeed, _ => [.setSpeed v]
    | some .color, s :: _ => [.setHsv v s (val l)]
    | _, _ => []
  | _ => []

/-- What an event asks for, unless there is no layer to save. -/
def asks (s : LightingState L σ) : LightingEvent → Except StorageError (List LightingEffect)
  | .packet [] _ _ => .ok []
  | .packet (command :: data) layers _ =>
    match LightingCommand.ofCode? command with
    | some .setValue => .ok ((valueCalls s.light data).map .lamp)
    | some .save =>
      if highestLayer layers ≥ layerCount then .error .outOfRange
      else .ok [.write (highestLayer layers) (configWord s.light), .lamp .persist]
    | _ => .ok []
  | .changeLayer layers =>
    if highestLayer layers ≥ layerCount then .ok []
    else
      match SettingsStore.layerWord? s.store (highestLayer layers) with
      | some word => .ok [.lamp (.apply word)]
      | none => .ok []

/-- Performs an effect, unless it is a write that is refused. -/
def perform (s : LightingState L σ) (refusal : Option StorageError) :
    LightingEffect → Except StorageError (LightingState L σ)
  | .write layer word =>
    (SettingsStore.putLayerWord (Refusing.mk s.store refusal) layer word).map fun r =>
      { s with store := r.store }
  | .lamp call => .ok { s with light := call.on s.light }

/-- Performs effects in order, up to the first refused write. -/
def performAll (s : LightingState L σ) (refusal : Option StorageError) :
    List LightingEffect → Performed L σ
  | [] => ⟨.ok (), [], s⟩
  | x :: rest =>
    match s.perform refusal x with
    | .error e => ⟨.error e, [], s⟩
    | .ok t =>
      let done := t.performAll refusal rest
      { done with effects := x :: done.effects }

/-- Performs what an event asks for. -/
def handle (s : LightingState L σ) (e : LightingEvent) : Performed L σ :=
  let refusal :=
    match e with
    | .packet _ _ refusal => refusal
    | .changeLayer _ => none
  match s.asks layerCount e with
  | .error err => ⟨.error err, [], s⟩
  | .ok effects => s.performAll refusal effects

/-! ## Handling an event is performing what it asks for -/

variable {layerCount} {s : LightingState L σ} {command : UInt8} {data : List UInt8}
  {layers : UInt32} {refusal : Option StorageError}

omit [SettingsStore σ] in
/-- Setting a value is what is asked of the driver for it, and never makes the lighting the one at
power-on. -/
theorem setValue_eq_foldl (l : L) (data : List UInt8) :
    setValue l data = (valueCalls l data).foldl LampCall.on l ∧ .persist ∉ valueCalls l data := by
  rcases data with _ | ⟨code, _ | ⟨v, rest⟩⟩
  · exact ⟨rfl, List.not_mem_nil⟩
  · exact ⟨rfl, List.not_mem_nil⟩
  · simp only [setValue, valueCalls]
    cases LightingValue.ofCode? code with
    | none => exact ⟨rfl, List.not_mem_nil⟩
    | some value =>
      cases value with
      | brightness | effect | effectSpeed => exact ⟨rfl, by simp⟩
      | color =>
        cases rest with
        | nil => exact ⟨rfl, List.not_mem_nil⟩
        | cons sat rest => exact ⟨rfl, by simp⟩

theorem performAll_lamp (calls : List LampCall) :
    s.performAll refusal (calls.map .lamp) =
      ⟨.ok (), calls.map .lamp, { s with light := calls.foldl LampCall.on s.light }⟩ := by
  induction calls generalizing s with
  | nil => rfl
  | cons c calls ih => simp only [List.map_cons, performAll, perform, ih, List.foldl_cons]

/-- A save is refused for want of a layer or by the store, and then changes nothing; or the word is
in the store and the lighting is the one at power-on. -/
theorem step_save (hcommand : LightingCommand.ofCode? command = some .save) :
    s.step layerCount (.packet (command :: data) layers refusal) =
      if highestLayer layers ≥ layerCount then (.error .outOfRange, s)
      else
        match SettingsStore.putLayerWord (Refusing.mk s.store refusal) (highestLayer layers)
          (configWord s.light) with
        | .ok r => (.ok (), ⟨persist s.light, r.store⟩)
        | .error e => (.error e, s) := by
  simp only [step, receive, hcommand, save]
  by_cases hlayer : highestLayer layers ≥ layerCount
  · simp only [if_pos hlayer]
  · simp only [if_neg hlayer]
    cases SettingsStore.putLayerWord (Refusing.mk s.store refusal) (highestLayer layers)
      (configWord s.light) with
    | ok r => rfl
    | error e => rfl

/-- Any other event comes down to calls of the driver, of which none makes the lighting the one at
power-on. -/
theorem step_of_not_save (layerCount : UInt8) (s : LightingState L σ) {e : LightingEvent}
    (he : e.isSave = false) :
    ∃ calls : List LampCall, .persist ∉ calls ∧ s.asks layerCount e = .ok (calls.map .lamp) ∧
      s.step layerCount e = (.ok (), { s with light := calls.foldl LampCall.on s.light }) := by
  cases e with
  | packet data layers refusal =>
    cases data with
    | nil => exact ⟨[], nofun, rfl, rfl⟩
    | cons command data =>
      simp only [asks, step, receive]
      cases hcommand : LightingCommand.ofCode? command with
      | none => exact ⟨[], nofun, rfl, rfl⟩
      | some c =>
        cases c with
        | setValue =>
          obtain ⟨heq, hpersist⟩ := setValue_eq_foldl s.light data
          exact ⟨valueCalls s.light data, hpersist, rfl, by rw [← heq]⟩
        | getValue => exact ⟨[], nofun, rfl, rfl⟩
        | save =>
          rw [LightingEvent.isSave, hcommand] at he
          exact absurd he (by decide)
  | changeLayer layers =>
    simp only [asks, step, changeLayer]
    split
    · exact ⟨[], nofun, rfl, rfl⟩
    · cases SettingsStore.layerWord? s.store (highestLayer layers) with
      | none => exact ⟨[], nofun, rfl, rfl⟩
      | some word => exact ⟨[.apply word], by simp, rfl, rfl⟩

theorem handle_save (hcommand : LightingCommand.ofCode? command = some .save) :
    s.handle layerCount (.packet (command :: data) layers refusal) =
      if highestLayer layers ≥ layerCount then ⟨.error .outOfRange, [], s⟩
      else
        match SettingsStore.putLayerWord (Refusing.mk s.store refusal) (highestLayer layers)
          (configWord s.light) with
        | .ok r =>
          ⟨.ok (), [.write (highestLayer layers) (configWord s.light), .lamp .persist],
            ⟨persist s.light, r.store⟩⟩
        | .error e => ⟨.error e, [], s⟩ := by
  simp only [handle, asks, hcommand]
  by_cases hlayer : highestLayer layers ≥ layerCount
  · simp only [if_pos hlayer]
  · simp only [if_neg hlayer, performAll, perform]
    cases SettingsStore.putLayerWord (Refusing.mk s.store refusal) (highestLayer layers)
      (configWord s.light) with
    | ok r => rfl
    | error e => rfl

theorem eq_packet_of_isSave {e : LightingEvent} (he : e.isSave = true) :
    ∃ command data layers refusal, e = .packet (command :: data) layers refusal ∧
      LightingCommand.ofCode? command = some .save := by
  cases e with
  | packet data layers refusal =>
    cases data with
    | nil => cases he
    | cons command data => exact ⟨command, data, layers, refusal, rfl, eq_of_beq he⟩
  | changeLayer layers => cases he

/-- **Handling an event is performing what it asks for.** -/
theorem step_eq_handle (layerCount : UInt8) (s : LightingState L σ) (e : LightingEvent) :
    s.step layerCount e = ((s.handle layerCount e).result, (s.handle layerCount e).state) := by
  cases hsave : e.isSave with
  | false =>
    obtain ⟨calls, -, hasks, hstep⟩ := step_of_not_save layerCount s hsave
    simp only [handle, hasks, hstep, performAll_lamp]
  | true =>
    obtain ⟨command, data, layers, refusal, rfl, hcommand⟩ := eq_packet_of_isSave hsave
    rw [step_save hcommand, handle_save hcommand]
    split
    · rfl
    · split
      · rfl
      · rfl

/-! ## Saves -/

/-- The save that an event makes, if it is not refused: its layer, and the word that the lighting
has. -/
def saved? (layerCount : UInt8) (s : LightingState L σ) (e : LightingEvent) :
    Option (UInt8 × UInt32) :=
  match e with
  | .packet _ layers _ =>
    if e.isSave ∧ (s.step layerCount e).1.isOk then some (highestLayer layers, configWord s.light)
    else none
  | .changeLayer _ => none

theorem saved?_of_not_save {e : LightingEvent} (he : e.isSave = false) :
    s.saved? layerCount e = none := by
  cases e with
  | packet data layers refusal => exact if_neg fun h => Bool.false_ne_true (he.symm.trans h.1)
  | changeLayer layers => rfl

theorem saved?_save (hcommand : LightingCommand.ofCode? command = some .save) :
    s.saved? layerCount (.packet (command :: data) layers refusal) =
      if highestLayer layers ≥ layerCount then none
      else
        match SettingsStore.putLayerWord (Refusing.mk s.store refusal) (highestLayer layers)
          (configWord s.light) with
        | .ok _ => some (highestLayer layers, configWord s.light)
        | .error _ => none := by
  have hsave : (LightingEvent.packet (command :: data) layers refusal).isSave = true := by
    rw [LightingEvent.isSave, hcommand]
    rfl
  simp only [saved?, hsave, step_save hcommand]
  split
  · rfl
  · split
    · rfl
    · rfl

/-- **What is durable comes from saves that are not refused**, the word first. -/
theorem durable_handle (layerCount : UInt8) (s : LightingState L σ) (e : LightingEvent) :
    (s.handle layerCount e).effects.filter LightingEffect.isDurable =
      match s.saved? layerCount e with
      | some (layer, word) => [.write layer word, .lamp .persist]
      | none => [] := by
  cases hsave : e.isSave with
  | false =>
    obtain ⟨calls, hpersist, hasks, -⟩ := step_of_not_save layerCount s hsave
    simp only [handle, hasks, performAll_lamp, saved?_of_not_save hsave]
    rw [List.filter_eq_nil_iff]
    intro x hx hdurable
    obtain ⟨call, hmem, rfl⟩ := List.mem_map.mp hx
    cases call with
    | persist => exact hpersist hmem
    | _ => cases hdurable
  | true =>
    obtain ⟨command, data, layers, refusal, rfl, hcommand⟩ := eq_packet_of_isSave hsave
    rw [handle_save hcommand, saved?_save hcommand]
    split
    · rfl
    · split
      · rfl
      · rfl

end LightingState

end TwinBall
