import TwinBall.Proofs.Lighting.Effects
import TwinBall.Settings.Flash

/-!
# The lighting of each layer

A store has a slot for the lighting of each layer.  Whatever packets and changes of layers come in,
and whichever writes fail on the way, a slot holds the word of the last save that was made for its
layer, and a change of layers brings back just that (`slots_hold_last_saves`).

The store may be any one from which lighting words are read as they were last written
(`LawfulLayers`), which all stores of this library are.
-/

namespace TwinBall

/-! ## Stores that keep lighting words -/

/-- From such a store, lighting words are read as they were last written. -/
class LawfulLayers (σ : Type) [SettingsStore σ] : Prop where
  layerWord?_put {s t : σ} {n : UInt8} {word : UInt32}
    (h : SettingsStore.putLayerWord s n word = .ok t) (m : UInt8) :
    SettingsStore.layerWord? t m = if m = n then some word else SettingsStore.layerWord? s m

theorem eq_ok_of_map {ε α β : Type} {f : α → β} {x : Except ε α} {b : β}
    (h : x.map f = .ok b) : ∃ a, x = .ok a ∧ f a = b := by
  cases x with
  | error e => cases h
  | ok a => exact ⟨a, rfl, Except.ok.inj h⟩

theorem join_slot {n m : UInt8} {word : UInt32} (others : Option (Option UInt32)) :
    (if n.toNat = m.toNat then some (some word) else others).join =
      if m = n then some word else others.join := by
  by_cases h : m = n
  · rw [if_pos h, if_pos (congrArg UInt8.toNat h.symm), Option.join_some]
  · rw [if_neg h, if_neg fun heq => h (UInt8.toNat_inj.mp heq).symm]

section Instances

variable {σ τ : Type} [SettingsStore σ] [SettingsStore τ] [LawfulLayers σ] [LawfulLayers τ]

instance : LawfulLayers (Refusing σ) where
  layerWord?_put {s t n word} h m := by
    obtain ⟨store, refusal⟩ := s
    cases refusal with
    | some e => cases h
    | none =>
      obtain ⟨r, hput, rfl⟩ := eq_ok_of_map h
      exact LawfulLayers.layerWord?_put hput m

instance : LawfulLayers (σ ⊕ τ) where
  layerWord?_put {s t n word} h m := by
    cases s with
    | inl s =>
      obtain ⟨r, hput, rfl⟩ := eq_ok_of_map h
      exact LawfulLayers.layerWord?_put hput m
    | inr s =>
      obtain ⟨r, hput, rfl⟩ := eq_ok_of_map h
      exact LawfulLayers.layerWord?_put hput m

instance : LawfulLayers MemoryStore where
  layerWord?_put {s t n word} h m := by
    obtain ⟨keyboard, layout, writes, layers, refusal⟩ := s
    cases refusal with
    | some e => cases h
    | none =>
      change (if n.toNat < layers.length then _ else _) = _ at h
      split at h
      · next hn =>
        cases h
        show (layers.set n.toNat (some word))[m.toNat]?.join = _
        rw [List.getElem?_set, if_pos hn]
        exact join_slot _
      · cases h

instance {layers : Nat} : LawfulLayers (Cache layers) where
  layerWord?_put {s t n word} h m := by
    change s.put (.layer n) word = .ok t at h
    show t.get (.layer m) = if m = n then some word else s.get (.layer m)
    unfold Cache.put at h
    split at h
    · next hsame =>
      cases h
      split
      · next hm => rw [hm, hsame]
      · rfl
    · obtain ⟨r, hput, rfl⟩ := eq_ok_of_map h
      rw [Cache.get_mark]
      simp only [Cache.restore] at hput
      split at hput
      · next hn =>
        cases hput
        show (s.lighting.set n.toNat (some word))[m.toNat]?.join = _
        rw [Vector.getElem?_set]
        exact join_slot _
      · cases hput

instance {φ : Type} : LawfulLayers (FlashStore φ) where
  layerWord?_put {s t n word} h m := by
    obtain ⟨r, hput, rfl⟩ := eq_ok_of_map h
    exact LawfulLayers.layerWord?_put hput m

end Instances

/-! ## The highest active layer -/

/-- Whether a layer is the highest one that is active, or `0` if none is. -/
def IsTopLayer (layers : UInt32) (n : UInt8) : Prop :=
  if layers = 0 then n = 0
  else layers.toNat.testBit n.toNat ∧ ∀ m, n.toNat < m → layers.toNat.testBit m = false

theorem isTopLayer_iff {layers : UInt32} {n : UInt8} :
    IsTopLayer layers n ↔ n = Lighting.highestLayer layers := by
  have hlog : layers.log2.toNat = layers.toNat.log2 := rfl
  by_cases hzero : layers = 0
  · subst hzero
    rfl
  · have hne : layers.toNat ≠ 0 := fun h => hzero (UInt32.toNat_inj.mp h)
    have hlt : layers.toNat.log2 < 32 := (Nat.log2_lt hne).mpr layers.toNat_lt
    have htop : (Lighting.highestLayer layers).toNat = layers.toNat.log2 := by
      rw [Lighting.highestLayer, UInt32.toNat_toUInt8, hlog]
      exact Nat.mod_eq_of_lt (by omega)
    have hset := Nat.testBit_log2 hne
    have habove : ∀ m, layers.toNat.log2 < m → layers.toNat.testBit m = false := fun m hm =>
      Nat.testBit_lt_two_pow ((Nat.log2_lt hne).mp hm)
    rw [IsTopLayer, if_neg hzero, ← UInt8.toNat_inj, htop]
    constructor
    · rintro ⟨hbit, hbits⟩
      -- Below the highest set bit that bit itself is in the way, and above it none is set.
      rcases Nat.lt_trichotomy n.toNat layers.toNat.log2 with hlow | heq | hhigh
      · rw [hbits _ hlow] at hset
        cases hset
      · exact heq
      · rw [habove _ hhigh] at hbit
        cases hbit
    · intro heq
      rw [heq]
      exact ⟨hset, habove⟩

/-! ## Saves -/

namespace LightingState

open Lighting

variable {L σ : Type} [Lighting L] [SettingsStore σ] {layerCount : UInt8}
  {s : LightingState L σ} {n : UInt8}

/-- The saves that events make, in order. -/
def saves (layerCount : UInt8) (s : LightingState L σ) :
    List LightingEvent → List (UInt8 × UInt32)
  | [] => []
  | e :: rest =>
    (s.saved? layerCount e).toList ++ (s.step layerCount e).2.saves layerCount rest

/-- The effects of events, in order. -/
def effects (layerCount : UInt8) (s : LightingState L σ) :
    List LightingEvent → List LightingEffect
  | [] => []
  | e :: rest =>
    (s.handle layerCount e).effects ++ (s.step layerCount e).2.effects layerCount rest

/-- The word of the last save for a layer. -/
def lastSaved? (n : UInt8) (saves : List (UInt8 × UInt32)) : Option UInt32 :=
  ((saves.filter fun save => save.1 = n).map Prod.snd).getLast?

theorem lastSaved?_append (saves more : List (UInt8 × UInt32)) :
    lastSaved? n (saves ++ more) = (lastSaved? n more).or (lastSaved? n saves) := by
  rw [lastSaved?, List.filter_append, List.map_append, List.getLast?_append]
  rfl

theorem lastSaved?_singleton (layer : UInt8) (word : UInt32) :
    lastSaved? n [(layer, word)] = if n = layer then some word else none := by
  by_cases h : layer = n
  · simp [lastSaved?, h]
  · simp [lastSaved?, h, Ne.symm h]

/-- An event changes no slot, unless it makes a save. -/
theorem layerWord?_step [LawfulLayers σ] (e : LightingEvent) :
    SettingsStore.layerWord? (s.step layerCount e).2.store n =
      (lastSaved? n (s.saved? layerCount e).toList).or (SettingsStore.layerWord? s.store n) := by
  cases hsave : e.isSave with
  | false =>
    obtain ⟨calls, -, -, hstep⟩ := step_of_not_save layerCount s hsave
    rw [hstep, saved?_of_not_save hsave]
    rfl
  | true =>
    obtain ⟨command, data, layers, refusal, rfl, hcommand⟩ := eq_packet_of_isSave hsave
    rw [step_save hcommand, saved?_save hcommand]
    split
    · rfl
    · split
      · next r hput =>
        rw [Option.toList_some, lastSaved?_singleton]
        refine (LawfulLayers.layerWord?_put hput n).trans ?_
        split
        · rfl
        · rfl
      · rfl

theorem layerWord?_run [LawfulLayers σ] (events : List LightingEvent) :
    SettingsStore.layerWord? (s.run layerCount events).store n =
      (lastSaved? n (s.saves layerCount events)).or (SettingsStore.layerWord? s.store n) := by
  induction events generalizing s with
  | nil => rfl
  | cons e rest ih =>
    rw [run_cons, ih, layerWord?_step, saves, lastSaved?_append, Option.or_assoc]

theorem durable_effects (events : List LightingEvent) :
    (s.effects layerCount events).filter LightingEffect.isDurable =
      (s.saves layerCount events).flatMap fun (layer, word) =>
        [.write layer word, .lamp .persist] := by
  induction events generalizing s with
  | nil => rfl
  | cons e rest ih =>
    rw [effects, List.filter_append, ih, durable_handle, saves, List.flatMap_append]
    cases s.saved? layerCount e with
    | none => rfl
    | some save => rfl

/-- An event that is refused changes nothing. -/
theorem step_of_error {e : LightingEvent} {err : StorageError}
    (herr : (s.step layerCount e).1 = .error err) : (s.step layerCount e).2 = s := by
  cases hsave : e.isSave with
  | false =>
    obtain ⟨calls, -, -, hstep⟩ := step_of_not_save layerCount s hsave
    rw [hstep] at herr
    cases herr
  | true =>
    obtain ⟨command, data, layers, refusal, rfl, hcommand⟩ := eq_packet_of_isSave hsave
    rw [step_save hcommand] at herr ⊢
    split
    · rfl
    · next hlayer =>
      rw [if_neg hlayer] at herr
      split
      · next hput =>
        rw [hput] at herr
        cases herr
      · rfl

/-- **A slot holds the last save of its layer.**  After any events, whatever the store refused on
the way, the slot of each layer holds the word that the lighting had at the last save that was not
refused and was made while the layer was the highest active one, or what it held before.  The
lighting became the one at power-on once for each such save, right after the word was written, and
not otherwise.

The same goes for every further event, which does what it asks for.  A change of layers brings back
just the word of the slot, if the layer is one of those that are kept and its slot is filled.  A
save of a layer beyond those, or one that the store refuses, gives the error, and then the lighting
and the store are left as they were. -/
theorem slots_hold_last_saves [LawfulLayers σ] (layerCount : UInt8) (s : LightingState L σ)
    (events : List LightingEvent) :
    let t := s.run layerCount events
    (∀ layers n, n = highestLayer layers ↔ IsTopLayer layers n) ∧
    (∀ n, SettingsStore.layerWord? t.store n =
      (lastSaved? n (s.saves layerCount events)).or (SettingsStore.layerWord? s.store n)) ∧
    ((s.effects layerCount events).filter LightingEffect.isDurable =
      (s.saves layerCount events).flatMap fun (layer, word) =>
        [.write layer word, .lamp .persist]) ∧
    (∀ e, t.step layerCount e = ((t.handle layerCount e).result, (t.handle layerCount e).state)) ∧
    (∀ layers, t.step layerCount (.changeLayer layers) =
      (.ok (),
        if highestLayer layers < layerCount then
          match SettingsStore.layerWord? t.store (highestLayer layers) with
          | some word => { t with light := applyConfigWord t.light word }
          | none => t
        else t)) ∧
    (∀ e err, (t.step layerCount e).1 = .error err → (t.step layerCount e).2 = t) ∧
    ∀ command data layers refusal, LightingCommand.ofCode? command = some .save →
      let answer := (t.step layerCount (.packet (command :: data) layers refusal)).1
      (layerCount ≤ highestLayer layers → answer = .error .outOfRange) ∧
      ∀ err, highestLayer layers < layerCount →
        SettingsStore.putLayerWord (Refusing.mk t.store refusal) (highestLayer layers)
          (configWord t.light) = .error err →
        answer = .error err := by
  intro t
  refine ⟨fun layers n => isTopLayer_iff.symm, fun n => layerWord?_run events,
    durable_effects events, step_eq_handle layerCount t, fun layers => ?_, fun e err herr => ?_,
    fun command data layers refusal hcommand => ?_⟩
  · simp only [step, changeLayer]
    by_cases hlayer : highestLayer layers < layerCount
    · rw [if_pos hlayer, if_neg (UInt8.not_le.mpr hlayer)]
      cases SettingsStore.layerWord? t.store (highestLayer layers) with
      | none => rfl
      | some word => rfl
    · rw [if_neg hlayer, if_pos (UInt8.not_lt.mp hlayer)]
  · exact step_of_error herr
  · intro answer
    refine ⟨fun hlayer => ?_, fun err hlayer hput => ?_⟩
    · show (t.step layerCount _).1 = _
      rw [step_save hcommand, if_pos hlayer]
    · show (t.step layerCount _).1 = _
      rw [step_save hcommand, if_neg (UInt8.not_le.mpr hlayer), hput]

/-- Of four saves, one is made in vain as the store refuses it, one as there is no such layer, and
one as the store has no slot for it; the slot of layer `2` holds what the first one saved. -/
theorem slots_hold_last_saves_of_lamp :
    let s : LightingState Lamp MemoryStore :=
      ⟨.initial, { MemoryStore.empty with layers := [none, some 9, none] }⟩
    let events : List LightingEvent :=
      [.packet [0x07, 0x80, 10] 0b0001 none, .packet [0x09] 0b0101 none,
        .packet [0x07, 0x81, 3] 0b0001 none, .packet [0x09] 0b0100 (some .io),
        .packet [0x09] 0b100000 none, .packet [0x09] 0b1000 none]
    let t := s.run 4 events
    LawfulLayers MemoryStore ∧
      SettingsStore.layerWord? t.store 1 = some 9 ∧
      SettingsStore.layerWord? t.store 2 = some 0x0A000000 ∧
      (s.effects 4 events).filter LightingEffect.isDurable =
        [.write 2 0x0A000000, .lamp .persist] := by
  intro s events t
  obtain ⟨-, hslots, hdurable, -⟩ := slots_hold_last_saves 4 s events
  have hsaves : s.saves 4 events = [(2, 0x0A000000)] := by decide
  rw [hsaves] at hslots hdurable
  exact ⟨inferInstance, hslots 1, hslots 2, hdurable⟩

end LightingState

end TwinBall
