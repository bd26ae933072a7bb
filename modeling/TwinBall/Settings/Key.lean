/-!
# Keys of persisted words

Three kinds of 32-bit words outlive a power cycle: the settings of the keyboard, the layout
options, and one lighting word per layer.  Every word has a key; the key determines the number of
its item in flash and its slot in the mask of changed words.
-/

namespace TwinBall

/-- The key of a persisted word. -/
inductive WordKey
  /-- The settings of the keyboard. -/
  | keyboard
  /-- The layout options. -/
  | layout
  /-- The lighting of a layer. -/
  | layer (n : UInt8)
  deriving DecidableEq, Repr

namespace WordKey

/-- The number of the item that holds the word in flash.  Layers count from `0x10`, modulo
`256`. -/
def item : WordKey → UInt8
  | keyboard => 0x00
  | layout => 0x01
  | layer n => 0x10 + n

/-- The bit of the word in the mask of changed words. -/
def slot : WordKey → Nat
  | keyboard => 0
  | layout => 1
  | layer n => 2 + n.toNat

/-- The key of a slot. -/
def ofSlot : Nat → WordKey
  | 0 => keyboard
  | 1 => layout
  | n + 2 => layer (UInt8.ofNat n)

/-- The keys of a store with `layers` layers, in the order in which they are loaded. -/
def all (layers : Nat) : List WordKey :=
  keyboard :: layout :: (List.range layers).map fun n => layer (UInt8.ofNat n)

@[simp] theorem ofSlot_slot (k : WordKey) : ofSlot k.slot = k := by
  cases k with
  | keyboard => rfl
  | layout => rfl
  | layer n => simp [slot, Nat.add_comm 2, ofSlot]

/-- Different keys have different slots. -/
theorem slot_inj {k l : WordKey} (h : k.slot = l.slot) : k = l := by
  rw [← ofSlot_slot k, h, ofSlot_slot]

end WordKey

end TwinBall
