import TwinBall.Lighting

/-!
# Lighting values set and read by the host tool

Brightness, effect, speed and color are four registers, although brightness and color share a setter
of the lighting driver: a packet that reads one of them answers what the last packet that set this
one carried, whatever was done to the others in between (`values_are_registers`).

The driver may be any one whose getters answer what was set last (`Keeps`).  A packet either sets a
value, or reads a value, or is ignored, and `receive_cases` says once what becomes of it.
-/

namespace TwinBall

/-- What a lighting driver is set to. -/
structure LightingSettings where
  hue : UInt8
  sat : UInt8
  val : UInt8
  mode : UInt8
  speed : UInt8
  /-- Whether the lighting is on. -/
  enabled : Bool

/-! ## Drivers that keep what is set -/

namespace Lighting

variable {L : Type} [Lighting L]

/-- What a driver is set to.  No getter tells whether it is on, so this has to be known
otherwise. -/
def settings (enabled : L → Bool) (l : L) : LightingSettings :=
  ⟨hue l, sat l, val l, mode l, speed l, enabled l⟩

/-- A driver whose getters answer what was set last. -/
structure Keeps (enabled : L → Bool) : Prop where
  setHsv (l : L) (h s v : UInt8) :
    settings enabled (setHsv l h s v) = { settings enabled l with hue := h, sat := s, val := v }
  setMode (l : L) (m : UInt8) :
    settings enabled (setMode l m) = { settings enabled l with mode := m }
  setEnabled (l : L) (on : Bool) :
    settings enabled (setEnabled l on) = { settings enabled l with enabled := on }
  setSpeed (l : L) (s : UInt8) :
    settings enabled (setSpeed l s) = { settings enabled l with speed := s }

end Lighting

theorem Lamp.keeps : Lighting.Keeps Lamp.enabled :=
  ⟨fun _ _ _ _ => rfl, fun _ _ => rfl, fun _ _ => rfl, fun _ _ => rfl⟩

/-! ## Values and their bytes -/

namespace LightingValue

variable {value other : LightingValue} {bytes rest : List UInt8}

/-- The byte of a value. -/
def code : LightingValue → UInt8
  | brightness => 0x80
  | effect => 0x81
  | effectSpeed => 0x82
  | color => 0x83

/-- The number of bytes that a value takes in a packet. -/
def width : LightingValue → Nat
  | brightness | effect | effectSpeed => 1
  | color => 2

/-- The bytes of a value. -/
def get (s : LightingSettings) : LightingValue → List UInt8
  | brightness => [s.val]
  | effect => [s.mode]
  | effectSpeed => [s.speed]
  | color => [s.hue, s.sat]

/-- The settings with other bytes for a value.  An effect also turns the lighting on, and effect `0`
turns it off. -/
def put (s : LightingSettings) : LightingValue → List UInt8 → LightingSettings
  | brightness, [v] => { s with val := v }
  | effect, [m] => { s with mode := m, enabled := m != 0 }
  | effectSpeed, [v] => { s with speed := v }
  | color, [h, t] => { s with hue := h, sat := t }
  | _, _ => s

theorem ofCode?_eq_some_iff {c : UInt8} : ofCode? c = some value ↔ c = value.code := by
  constructor
  · intro h
    unfold ofCode? at h
    repeat' split at h
    all_goals cases h
    all_goals assumption
  · rintro rfl
    cases value with
    | brightness | effect | effectSpeed | color => rfl

theorem code_inj : value.code = other.code ↔ value = other := by
  cases value <;> cases other <;> decide

@[simp] theorem length_get (s : LightingSettings) (value : LightingValue) :
    (value.get s).length = value.width := by
  cases value with
  | brightness | effect | effectSpeed | color => rfl

/-- The bytes of a value, one by one. -/
theorem eq_bytes (hlength : bytes.length = value.width) :
    (value = brightness ∨ value = effect ∨ value = effectSpeed) ∧ (∃ v, bytes = [v]) ∨
      value = color ∧ ∃ h s, bytes = [h, s] := by
  cases value with
  | brightness => exact .inl ⟨.inl rfl, List.length_eq_one_iff.mp hlength⟩
  | effect => exact .inl ⟨.inr (.inl rfl), List.length_eq_one_iff.mp hlength⟩
  | effectSpeed => exact .inl ⟨.inr (.inr rfl), List.length_eq_one_iff.mp hlength⟩
  | color =>
    match bytes, hlength with
    | [h, s], _ => exact .inr ⟨rfl, h, s, rfl⟩

/-- Values are independent of each other. -/
theorem get_put (s : LightingSettings) (hlength : bytes.length = value.width) :
    other.get (value.put s bytes) = if other = value then bytes else other.get s := by
  rcases eq_bytes hlength with ⟨rfl | rfl | rfl, v, rfl⟩ | ⟨rfl, h, t, rfl⟩
  all_goals
    cases other with
    | brightness | effect | effectSpeed | color => rfl

theorem enabled_put (s : LightingSettings) (hlength : bytes.length = value.width) :
    (value.put s bytes).enabled = if value = effect then bytes != [0] else s.enabled := by
  rcases eq_bytes hlength with ⟨rfl | rfl | rfl, v, rfl⟩ | ⟨rfl, h, t, rfl⟩
  · rfl
  · exact congrArg not (Bool.and_true (v == 0)).symm
  · rfl
  · rfl

/-- The bytes of a value in a packet with the given command, if the packet names the value and is
long enough. -/
def bytesIn? (value : LightingValue) (command : UInt8) : List UInt8 → Option (List UInt8)
  | c :: code :: bytes =>
    if c = command ∧ code = value.code ∧ value.width ≤ bytes.length then
      some (bytes.take value.width)
    else none
  | _ => none

theorem bytesIn?_eq_some_iff {command : UInt8} {packet : List UInt8} :
    value.bytesIn? command packet = some bytes ↔
      ∃ rest, packet = command :: value.code :: (bytes ++ rest) ∧ bytes.length = value.width := by
  constructor
  · intro h
    unfold bytesIn? at h
    split at h
    · next c code data =>
      split at h
      · next hnamed =>
        obtain ⟨rfl, rfl, hlong⟩ := hnamed
        cases h
        refine ⟨data.drop value.width, ?_, List.length_take_of_le hlong⟩
        rw [List.take_append_drop]
      · cases h
    · cases h
  · rintro ⟨rest, rfl, hlength⟩
    have hlong : value.width ≤ (bytes ++ rest).length := by
      rw [List.length_append]
      omega
    rw [bytesIn?, if_pos ⟨rfl, rfl, hlong⟩, ← hlength, List.take_left]

/-- A packet names one value only. -/
theorem bytesIn?_packet {command : UInt8} (hlength : bytes.length = value.width) :
    other.bytesIn? command (command :: value.code :: (bytes ++ rest)) =
      if other = value then some bytes else none := by
  split
  · next heq =>
    subst heq
    exact bytesIn?_eq_some_iff.mpr ⟨rest, rfl, hlength⟩
  · next hne =>
    rw [bytesIn?, if_neg]
    rintro ⟨-, hcode, -⟩
    exact hne (code_inj.mp hcode.symm)

theorem bytesIn?_of_head? {command : UInt8} {packet : List UInt8}
    (h : packet.head? ≠ some command) : value.bytesIn? command packet = none := by
  rcases packet with _ | ⟨c, _ | ⟨code, bytes⟩⟩
  · rfl
  · rfl
  · rw [bytesIn?, if_neg fun hnamed => h (congrArg some hnamed.1)]

theorem bytesIn?_cases (command : UInt8) (data : List UInt8) :
    (∀ value : LightingValue, value.bytesIn? command (command :: data) = none) ∨
      ∃ (value : LightingValue) (bytes rest : List UInt8), bytes.length = value.width ∧
        data = value.code :: (bytes ++ rest) := by
  by_cases hnone : ∀ value : LightingValue, value.bytesIn? command (command :: data) = none
  · exact .inl hnone
  · obtain ⟨value, hsome⟩ := Classical.not_forall.mp hnone
    obtain ⟨bytes, hbytes⟩ := Option.ne_none_iff_exists'.mp hsome
    obtain ⟨rest, hpacket, hlength⟩ := bytesIn?_eq_some_iff.mp hbytes
    exact .inr ⟨value, bytes, rest, hlength, (List.cons.inj hpacket).2⟩

end LightingValue

/-- How settings come about: each value has the bytes that were set for it, if any were, and the
lighting is on or off as the effect says, if one was set. -/
structure LightingSettings.Updates (before after : LightingSettings)
    (bytes? : LightingValue → Option (List UInt8)) : Prop where
  get_eq : ∀ value : LightingValue, value.get after = (bytes? value).getD (value.get before)
  enabled_eq : after.enabled = ((bytes? .effect).map (· != [0])).getD before.enabled

namespace LightingSettings.Updates

variable {s t u : LightingSettings} {bytes? later? : LightingValue → Option (List UInt8)}

theorem none (hnone : ∀ value, bytes? value = Option.none) : Updates s s bytes? :=
  ⟨fun value => by rw [hnone, Option.getD_none], by rw [hnone, Option.map_none, Option.getD_none]⟩

theorem trans (hfirst : Updates s t bytes?) (hthen : Updates t u later?) :
    Updates s u fun value => (later? value).or (bytes? value) := by
  constructor
  · intro value
    rw [hthen.get_eq, hfirst.get_eq]
    cases later? value with
    | none => rw [Option.getD_none, Option.none_or]
    | some bytes => rfl
  · rw [hthen.enabled_eq, hfirst.enabled_eq]
    cases later? .effect with
    | none => rw [Option.map_none, Option.getD_none, Option.none_or]
    | some bytes => rfl

end LightingSettings.Updates

/-! ## Packets -/

namespace Lighting

open LightingValue LightingSettings

variable {L σ : Type} [Lighting L] [SettingsStore σ] {layerCount : UInt8} {l : L} {store : σ}
  {value : LightingValue} {bytes rest packet : List UInt8} {layers : UInt32} {enabled : L → Bool}

theorem settings_setValue (keeps : Keeps enabled) (hlength : bytes.length = value.width) :
    settings enabled (setValue l (value.code :: (bytes ++ rest))) =
      value.put (settings enabled l) bytes := by
  rcases eq_bytes hlength with ⟨rfl | rfl | rfl, v, rfl⟩ | ⟨rfl, h, s, rfl⟩
  · exact keeps.setHsv l (hue l) (sat l) v
  · exact (keeps.setEnabled _ (v != 0)).trans (by rw [keeps.setMode]; rfl)
  · exact keeps.setSpeed l v
  · exact keeps.setHsv l h s (val l)

theorem getValue_code (enabled : L → Bool) (hlength : bytes.length = value.width) :
    getValue l (value.code :: (bytes ++ rest)) =
      value.code :: (value.get (settings enabled l) ++ rest) := by
  rcases eq_bytes hlength with ⟨rfl | rfl | rfl, v, rfl⟩ | ⟨rfl, h, s, rfl⟩
  all_goals rfl

/-- What names no value, or is too short for it, is neither set nor answered. -/
theorem value_ignored {command : UInt8} {data : List UInt8}
    (hnone : ∀ value : LightingValue, value.bytesIn? command (command :: data) = none) :
    setValue l data = l ∧ getValue l data = data := by
  rcases data with _ | ⟨code, _ | ⟨v, rest⟩⟩
  · exact ⟨rfl, rfl⟩
  · exact ⟨rfl, rfl⟩
  · simp only [setValue, getValue]
    cases hcode : LightingValue.ofCode? code with
    | none => exact ⟨rfl, rfl⟩
    | some value =>
      have hshort : ¬ value.width ≤ (v :: rest).length := by
        intro hlong
        have hsome := hnone value
        rw [bytesIn?, if_pos ⟨rfl, ofCode?_eq_some_iff.mp hcode, hlong⟩] at hsome
        cases hsome
      cases value with
      | brightness | effect | effectSpeed => exact absurd (Nat.le_add_left 1 _) hshort
      | color =>
        cases rest with
        | nil => exact ⟨rfl, rfl⟩
        | cons s rest => exact absurd (Nat.le_add_left 2 _) hshort

/-- A packet with another command than the two for values, saves apart, is ignored. -/
theorem receive_other (hset : packet.head? ≠ some 0x07) (hget : packet.head? ≠ some 0x08)
    (hsave : packet.head? ≠ some 0x09) :
    receive layerCount l store packet layers = ⟨.ok (), packet, l, store⟩ := by
  cases packet with
  | nil => rfl
  | cons command data =>
    rw [List.head?_cons, Ne, Option.some_inj] at hset hget hsave
    have hnone : LightingCommand.ofCode? command = none := by
      rw [LightingCommand.ofCode?, if_neg hset, if_neg hget, if_neg hsave]
    rw [receive, hnone]

/-- What becomes of a packet that asks for no save: it sets a value, or reads a value, or is
ignored. -/
inductive Handled (enabled : L → Bool) (l : L) (store : σ) (packet : List UInt8) :
    Received L σ → Prop
  /-- It names a value that is to be set, and is long enough. -/
  | set (value : LightingValue) (bytes rest : List UInt8) (length_eq : bytes.length = value.width)
    (packet_eq : packet = 0x07 :: value.code :: (bytes ++ rest)) :
    Handled enabled l store packet
      ⟨.ok (), packet, setValue l (value.code :: (bytes ++ rest)), store⟩
  /-- It names a value that is to be read, and is long enough. -/
  | get (value : LightingValue) (bytes rest : List UInt8) (length_eq : bytes.length = value.width)
    (packet_eq : packet = 0x08 :: value.code :: (bytes ++ rest)) :
    Handled enabled l store packet
      ⟨.ok (), 0x08 :: value.code :: (value.get (settings enabled l) ++ rest), l, store⟩
  /-- It names no value, or is too short for it. -/
  | ignored (noSet : ∀ value : LightingValue, value.bytesIn? 0x07 packet = none)
    (noGet : ∀ value : LightingValue, value.bytesIn? 0x08 packet = none) :
    Handled enabled l store packet ⟨.ok (), packet, l, store⟩

/-- **A packet that asks for no save sets a value, or reads a value, or is ignored.** -/
theorem receive_cases (enabled : L → Bool) (layerCount : UInt8) (l : L) (store : σ)
    (layers : UInt32) (hsave : packet.head? ≠ some 0x09) :
    Handled enabled l store packet (receive layerCount l store packet layers) := by
  by_cases hset : packet.head? = some 0x07
  · obtain ⟨data, rfl⟩ := List.head?_eq_some_iff.mp hset
    have hreceive : receive layerCount l store (0x07 :: data) layers =
        ⟨.ok (), 0x07 :: data, setValue l data, store⟩ := rfl
    rw [hreceive]
    rcases bytesIn?_cases 0x07 data with hnone | ⟨value, bytes, rest, hlength, rfl⟩
    · rw [(value_ignored hnone).1]
      exact .ignored hnone fun value => bytesIn?_of_head? (by rw [hset]; decide)
    · exact .set value bytes rest hlength rfl
  · by_cases hget : packet.head? = some 0x08
    · obtain ⟨data, rfl⟩ := List.head?_eq_some_iff.mp hget
      have hreceive : receive layerCount l store (0x08 :: data) layers =
          ⟨.ok (), 0x08 :: getValue l data, l, store⟩ := rfl
      rw [hreceive]
      rcases bytesIn?_cases 0x08 data with hnone | ⟨value, bytes, rest, hlength, rfl⟩
      · rw [(value_ignored hnone).2]
        exact .ignored (fun value => bytesIn?_of_head? hset) hnone
      · rw [getValue_code enabled hlength]
        exact .get value bytes rest hlength rfl
    · rw [receive_other hset hget hsave]
      exact .ignored (fun value => bytesIn?_of_head? hset) fun value => bytesIn?_of_head? hget

/-- Only a packet that sets a value changes what the driver is set to, and only that value. -/
theorem settings_receive (keeps : Keeps enabled) (layerCount : UInt8) (l : L) (store : σ)
    (layers : UInt32) (hsave : packet.head? ≠ some 0x09) :
    Updates (settings enabled l)
      (settings enabled (receive layerCount l store packet layers).light)
      fun value => value.bytesIn? 0x07 packet := by
  have hcases := receive_cases enabled layerCount l store layers hsave
  generalize receive layerCount l store packet layers = r at hcases ⊢
  cases hcases with
  | set own bytes rest hlength heq =>
    rw [settings_setValue keeps hlength, heq]
    constructor
    · intro value
      rw [get_put _ hlength, bytesIn?_packet hlength]
      split
      · rfl
      · rfl
    · rw [enabled_put _ hlength, bytesIn?_packet hlength]
      by_cases hown : own = .effect
      · rw [if_pos hown, if_pos hown.symm]
        rfl
      · rw [if_neg hown, if_neg (Ne.symm hown)]
        rfl
  | get own bytes rest hlength heq =>
    refine .none fun value => bytesIn?_of_head? ?_
    rw [heq, List.head?_cons]
    decide
  | ignored noSet => exact .none noSet

/-! ## Many packets -/

/-- A packet of the host tool, and the layers that are active when it comes in. -/
structure HostPacket where
  data : List UInt8
  layers : UInt32

/-- Whether a packet asks for a save. -/
def HostPacket.IsSave (p : HostPacket) : Prop := p.data.head? = some 0x09

instance : DecidablePred HostPacket.IsSave :=
  fun p => inferInstanceAs (Decidable (p.data.head? = some 0x09))

/-- The driver and the store after packets. -/
def receiveAll (layerCount : UInt8) (l : L) (store : σ) : List HostPacket → L × σ
  | [] => (l, store)
  | p :: packets =>
    let r := receive layerCount l store p.data p.layers
    receiveAll layerCount r.light r.store packets

/-- The bytes of a value in the last packet that sets it. -/
def lastSet? (value : LightingValue) (packets : List HostPacket) : Option (List UInt8) :=
  (packets.filterMap fun p => value.bytesIn? 0x07 p.data).getLast?

theorem lastSet?_cons (value : LightingValue) (p : HostPacket) (packets : List HostPacket) :
    lastSet? value (p :: packets) =
      (lastSet? value packets).or (value.bytesIn? 0x07 p.data) := by
  rw [lastSet?, lastSet?, List.filterMap_cons]
  cases value.bytesIn? 0x07 p.data with
  | none => rw [Option.or_none]
  | some bytes =>
    rw [List.getLast?_cons]
    cases (packets.filterMap fun p => value.bytesIn? 0x07 p.data).getLast? with
    | none => rfl
    | some last => rfl

theorem store_receive (layerCount : UInt8) (l : L) (store : σ) (layers : UInt32)
    (hsave : packet.head? ≠ some 0x09) :
    (receive layerCount l store packet layers).result = .ok () ∧
      (receive layerCount l store packet layers).store = store := by
  have hcases := receive_cases (fun _ => false) layerCount l store layers hsave
  generalize receive layerCount l store packet layers = r at hcases ⊢
  cases hcases with
  | set | get | ignored => exact ⟨rfl, rfl⟩

theorem settings_receiveAll (keeps : Keeps enabled) (layerCount : UInt8) (l : L) (store : σ)
    {packets : List HostPacket} (quiet : ∀ p ∈ packets, ¬ p.IsSave) :
    Updates (settings enabled l) (settings enabled (receiveAll layerCount l store packets).1)
      fun value => lastSet? value packets := by
  induction packets generalizing l store with
  | nil => exact .none fun value => rfl
  | cons p packets ih =>
    have hfirst := settings_receive keeps layerCount l store p.layers (quiet p List.mem_cons_self)
    have hrest := fun l store => ih l store fun q hq => quiet q (List.mem_cons_of_mem p hq)
    simp only [lastSet?_cons]
    exact hfirst.trans (hrest _ _)

theorem store_receiveAll (layerCount : UInt8) (l : L) (store : σ)
    {packets : List HostPacket} (quiet : ∀ p ∈ packets, ¬ p.IsSave) :
    (receiveAll layerCount l store packets).2 = store := by
  induction packets generalizing l with
  | nil => rfl
  | cons p packets ih =>
    have hfirst := (store_receive layerCount l store p.layers (quiet p List.mem_cons_self)).2
    rw [receiveAll, hfirst]
    exact ih _ fun q hq => quiet q (List.mem_cons_of_mem p hq)

/-- Reading a value writes its bytes over those in the packet, and nothing else. -/
theorem packet_receive_get (enabled : L → Bool) (layerCount : UInt8) (l : L) (store : σ)
    (layers : UInt32) (hget : value.bytesIn? 0x08 packet ≠ none) :
    (receive layerCount l store packet layers).packet =
      packet.take 2 ++ value.get (settings enabled l) ++ packet.drop (2 + value.width) := by
  obtain ⟨bytes, hbytes⟩ := Option.ne_none_iff_exists'.mp hget
  obtain ⟨rest, rfl, hlength⟩ := bytesIn?_eq_some_iff.mp hbytes
  have hreceive (data : List UInt8) :
      (receive layerCount l store (0x08 :: data) layers).packet = 0x08 :: getValue l data := rfl
  have hrest : (0x08 :: value.code :: (bytes ++ rest)).drop (2 + value.width) = rest := by
    rw [← hlength, Nat.add_comm, List.drop_succ_cons, List.drop_succ_cons, List.drop_left]
  rw [hreceive, getValue_code enabled hlength, hrest]
  rfl

omit [SettingsStore σ] in
/-- What a packet leaves as it is. -/
theorem Handled.frame {r : Received L σ} (h : Handled enabled l store packet r) :
    ((∀ value : LightingValue,
        value.bytesIn? 0x07 packet = none ∧ value.bytesIn? 0x08 packet = none) →
      r.light = l ∧ r.packet = packet) ∧
    (packet.head? ≠ some 0x07 → r.light = l) ∧
    (packet.head? ≠ some 0x08 → r.packet = packet) ∧
    r.packet.length = packet.length ∧
    (∀ i : Nat,
      (i < 2 ∨ ∀ value : LightingValue, value.bytesIn? 0x08 packet ≠ none → 2 + value.width ≤ i) →
        r.packet[i]? = packet[i]?) := by
  cases h with
  | set value bytes rest hlength heq =>
    have hset := bytesIn?_eq_some_iff.mpr ⟨rest, heq, hlength⟩
    refine ⟨fun hnone => ?_, fun hhead => ?_, fun _ => rfl, rfl, fun _ _ => rfl⟩
    · rw [(hnone value).1] at hset
      cases hset
    · exact absurd (by rw [heq, List.head?_cons]) hhead
  | get value bytes rest hlength heq =>
    have hget := bytesIn?_eq_some_iff.mpr ⟨rest, heq, hlength⟩
    have hanswer := length_get (settings enabled l) value
    refine ⟨fun hnone => ?_, fun _ => rfl, fun hhead => ?_, ?_, ?_⟩
    · rw [(hnone value).2] at hget
      cases hget
    · exact absurd (by rw [heq, List.head?_cons]) hhead
    · simp only [heq, List.length_cons, List.length_append, hanswer, hlength]
    · rintro i (hfirst | hpast)
      · have hi : i = 0 ∨ i = 1 := by omega
        rcases hi with rfl | rfl
        · rw [heq]
          rfl
        · rw [heq]
          rfl
      · have hle := hpast value (by rw [hget]; exact Option.some_ne_none bytes)
        obtain ⟨j, rfl⟩ := Nat.exists_eq_add_of_le hle
        have hplace : 2 + value.width + j = value.width + j + 1 + 1 := by omega
        rw [heq, hplace]
        simp only [List.getElem?_cons_succ]
        rw [List.getElem?_append_right (by omega), List.getElem?_append_right (by omega), hanswer,
          hlength]
  | ignored => exact ⟨fun _ => ⟨rfl, rfl⟩, fun _ => rfl, fun _ => rfl, rfl, fun _ _ => rfl⟩

/-- **Values are independent registers.**  A driver that keeps what is set is given any packets,
none of which asks for a save, and then one more.

Each value has the bytes of the last packet that set it and was long enough, or those it had at
first.  If an effect was set, the lighting is on just if the last one is not `0`.  A packet that
reads a value and is long enough is answered the bytes of the value, in place of its own.

A packet that names no known command or value, or is too short for the value, changes neither the
driver nor the packet.  Nothing but setting a value changes the driver, and nothing but reading one
changes the packet, whose length, first two bytes and bytes past the value always stay. -/
theorem values_are_registers {enabled : L → Bool} (keeps : Keeps enabled) (layerCount : UInt8)
    (l : L) (store : σ) (packets : List HostPacket) (p : HostPacket)
    (quiet : ∀ q ∈ p :: packets, ¬ q.IsSave) :
    let s := receiveAll layerCount l store packets
    let r := receive layerCount s.1 s.2 p.data p.layers
    let register (value : LightingValue) :=
      (lastSet? value packets).getD (value.get (settings enabled l))
    r.result = .ok () ∧ r.store = store ∧
    (∀ value : LightingValue, value.get (settings enabled s.1) = register value) ∧
    enabled s.1 = ((lastSet? .effect packets).map (· != [0])).getD (enabled l) ∧
    (∀ value : LightingValue, value.bytesIn? 0x08 p.data ≠ none →
      r.packet = p.data.take 2 ++ register value ++ p.data.drop (2 + value.width)) ∧
    ((∀ value : LightingValue,
        value.bytesIn? 0x07 p.data = none ∧ value.bytesIn? 0x08 p.data = none) →
      r.light = s.1 ∧ r.packet = p.data) ∧
    (p.data.head? ≠ some 0x07 → r.light = s.1) ∧
    (p.data.head? ≠ some 0x08 → r.packet = p.data) ∧
    r.packet.length = p.data.length ∧
    (∀ i : Nat,
      (i < 2 ∨ ∀ value : LightingValue, value.bytesIn? 0x08 p.data ≠ none → 2 + value.width ≤ i) →
        r.packet[i]? = p.data[i]?) := by
  intro s r register
  have hsave : p.data.head? ≠ some 0x09 := quiet p List.mem_cons_self
  have hquiet := fun q hq => quiet q (List.mem_cons_of_mem p hq)
  have hupdates := settings_receiveAll keeps layerCount l store hquiet
  obtain ⟨hresult, hstore⟩ := store_receive layerCount s.1 s.2 p.layers hsave
  refine ⟨hresult, hstore.trans (store_receiveAll layerCount l store hquiet), hupdates.get_eq,
    hupdates.enabled_eq, fun value hget => ?_, ?_⟩
  · rw [← show _ = register value from hupdates.get_eq value]
    exact packet_receive_get enabled layerCount s.1 s.2 p.layers hget
  · exact (receive_cases enabled layerCount s.1 s.2 p.layers hsave).frame

/-- Three packets set the color, the brightness and the effect, and one is too short to set the
color.  The color is read as it was set, into the two bytes after its id. -/
theorem values_are_registers_of_lamp :
    let packets : List HostPacket :=
      [⟨[0x07, 0x83, 10, 20], 0⟩, ⟨[0x07, 0x80, 99], 0⟩, ⟨[0x07, 0x83, 1], 0⟩,
        ⟨[0x07, 0x81, 5, 6], 0⟩]
    let p : HostPacket := ⟨[0x08, 0x83, 0, 0, 7], 0⟩
    let s := receiveAll 4 Lamp.initial MemoryStore.empty packets
    let r := receive 4 s.1 s.2 p.data p.layers
    Keeps Lamp.enabled ∧ (∀ q ∈ p :: packets, ¬ q.IsSave) ∧
      r.packet = [0x08, 0x83, 10, 20, 7] ∧ r.light = s.1 ∧ s.1.enabled = true := by
  intro packets p s r
  have quiet : ∀ q ∈ p :: packets, ¬ q.IsSave := by decide
  obtain ⟨-, -, -, henabled, hget, -, hlight, -⟩ :=
    values_are_registers Lamp.keeps 4 Lamp.initial MemoryStore.empty packets p quiet
  exact ⟨Lamp.keeps, quiet, hget .color (by decide), hlight (by decide), henabled⟩

end Lighting

end TwinBall
