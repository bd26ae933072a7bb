import TwinBall.Settings.Store

/-!
# The write-back cache of persisted words

Every read of a persisted word is served from memory.  A write that changes a word marks it in a
bit mask; whoever persists the words takes them one by one, in key order, and marks each of them
clean once it is safe.

The view of a cache is `get`, the word of each key, together with `isMarked`, whether a key is
marked as changed.
-/

namespace TwinBall

/-- A cache of the persisted words, with `layers` lighting words. -/
structure Cache (layers : Nat) where
  /-- The settings word. -/
  keyboard : Option UInt32
  /-- The layout options word. -/
  layout : UInt32
  /-- The lighting words. -/
  lighting : Vector (Option UInt32) layers
  /-- The slots of the words that changed since they were last persisted. -/
  dirty : BitVec 32
  deriving DecidableEq, Repr

namespace Cache

variable {layers : Nat}

/-- A cache without words, the layout options being `0`. -/
def empty : Cache layers := ⟨none, 0, Vector.replicate layers none, 0⟩

/-- The word of a key, if there is one. -/
def get (c : Cache layers) : WordKey → Option UInt32
  | .keyboard => c.keyboard
  | .layout => some c.layout
  | .layer n => c.lighting[n.toNat]?.join

/-- Sets a word without marking it, as when it is read back from flash. -/
def restore (c : Cache layers) (k : WordKey) (word : UInt32) : Except StorageError (Cache layers) :=
  match k with
  | .keyboard => .ok { c with keyboard := some word }
  | .layout => .ok { c with layout := word }
  | .layer n =>
    if h : n.toNat < layers then .ok { c with lighting := c.lighting.set n.toNat (some word) }
    else .error .outOfRange

/-- Marks the word of a key as changed. -/
def mark (c : Cache layers) (k : WordKey) : Cache layers :=
  { c with dirty := c.dirty ||| BitVec.twoPow 32 k.slot }

/-- Notes that the word of a key has been persisted. -/
def markClean (c : Cache layers) (k : WordKey) : Cache layers :=
  { c with dirty := c.dirty &&& ~~~BitVec.twoPow 32 k.slot }

/-- Writes a word.  A word that is already there stays unmarked. -/
def put (c : Cache layers) (k : WordKey) (word : UInt32) : Except StorageError (Cache layers) :=
  if c.get k = some word then .ok c else (c.restore k word).map fun c => c.mark k

/-- Writes the layout options word, which always has a place. -/
def putLayout (c : Cache layers) (word : UInt32) : Cache layers :=
  if c.layout = word then c else { c with layout := word }.mark .layout

/-- Whether the word of a key changed since it was last persisted. -/
def isMarked (c : Cache layers) (k : WordKey) : Bool := c.dirty.getLsbD k.slot

/-- Whether any word changed since it was last persisted. -/
def isDirty (c : Cache layers) : Bool := c.dirty != 0

/-- The lowest bit that is set in a mask. -/
def lowestBit? (mask : BitVec 32) : Option Nat := (List.range 32).find? fun i => mask.getLsbD i

/-- The changed word of the lowest slot, with its key. -/
def nextDirty? (c : Cache layers) : Option (WordKey × UInt32) :=
  (lowestBit? c.dirty).bind fun i =>
    (c.get (.ofSlot i)).map fun word => (.ofSlot i, word)

/-- Takes at most `limit` changed words, the lowest slot first, and marks them clean. -/
def takeDirty (c : Cache layers) : Nat → List (WordKey × UInt32) × Cache layers
  | 0 => ([], c)
  | limit + 1 =>
    match c.nextDirty? with
    | none => ([], c)
    | some (k, word) =>
      let (words, c) := (c.markClean k).takeDirty limit
      ((k, word) :: words, c)

/-- A number of rounds that empties any mask: one per bit. -/
def allRounds : Nat := 32

instance : SettingsStore (Cache layers) where
  keyboardWord? c := c.get .keyboard
  putKeyboardWord c word := c.put .keyboard word
  layerWord? c n := c.get (.layer n)
  putLayerWord c n word := c.put (.layer n) word
  layoutWord c := c.layout
  putLayoutWord := putLayout

/-! ## The view -/

@[simp] theorem get_mark (c : Cache layers) (k l : WordKey) : (c.mark k).get l = c.get l := by
  cases l <;> rfl

@[simp] theorem get_markClean (c : Cache layers) (k l : WordKey) :
    (c.markClean k).get l = c.get l := by
  cases l <;> rfl

theorem isMarked_mark (c : Cache layers) (k l : WordKey) (h : k.slot < 32) :
    (c.mark k).isMarked l = (c.isMarked l || decide (k = l)) := by
  have e : decide (k.slot = l.slot) = decide (k = l) :=
    decide_eq_decide.mpr ⟨WordKey.slot_inj, fun e => e ▸ rfl⟩
  simp [isMarked, mark, BitVec.getLsbD_twoPow, h, e]

theorem isMarked_markClean (c : Cache layers) (k l : WordKey) :
    (c.markClean k).isMarked l = (c.isMarked l && !decide (k = l)) := by
  have e : decide (l.slot = k.slot) = decide (k = l) :=
    decide_eq_decide.mpr ⟨fun e => WordKey.slot_inj e.symm, fun e => e ▸ rfl⟩
  by_cases hl : l.slot < 32
  · simp [isMarked, markClean, hl, e]
  · have hk : c.dirty.getLsbD l.slot = false := BitVec.getLsbD_of_ge _ _ (by omega)
    simp [isMarked, markClean, hk]

/-- The layout options are written like any other word. -/
theorem put_layout (c : Cache layers) (word : UInt32) :
    c.put .layout word = .ok (c.putLayout word) := by
  by_cases h : c.layout = word
  · simp [put, get, putLayout, h]
  · simp [put, get, putLayout, h, restore, Except.map]

end Cache

end TwinBall
