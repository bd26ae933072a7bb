import TwinBall.Bytes
import TwinBall.Faults
import TwinBall.Settings.Cache

/-!
# Settings persisted in flash

A medium holds items of bytes under numbers.  Only two things are known of it: what was stored last
under a number is what is read there, and a store that fails changes no item.  In flash, storing an
item appends it, and an interrupted write leaves the previous one.

A flash store serves every access from a cache.  `load` fills the cache from the medium, `flush`
persists the changed words one by one in key order and stops at the first failure.  Each word is
an item of its own, four bytes with the low one first.
-/

namespace TwinBall

/-- States of a medium that holds items of bytes under numbers. -/
class Medium (φ : Type) where
  /-- The bytes under a number. -/
  fetch? : φ → UInt8 → Option (List UInt8)
  /-- The medium after an attempt to store an item, which fails or not. -/
  store (f : φ) (item : UInt8) (bytes : List UInt8) (fails : Bool) : φ
  /-- What was stored is read, and other items are left as they were. -/
  fetch?_store (f : φ) (item : UInt8) (bytes : List UInt8) (other : UInt8) :
    fetch? (store f item bytes false) other = if other = item then some bytes else fetch? f other
  /-- A store that fails changes no item. -/
  fetch?_store_of_fails (f : φ) (item : UInt8) (bytes : List UInt8) (other : UInt8) :
    fetch? (store f item bytes true) other = fetch? f other

/-- The content of the settings area of flash: the items stored, the last one first. -/
structure Flash where
  /-- Pairs of an item number and its bytes. -/
  items : List (UInt8 × List UInt8)
  deriving DecidableEq, Repr

namespace Flash

/-- An erased settings area. -/
def empty : Flash := ⟨[]⟩

/-- The bytes last stored under a number. -/
def fetch? (f : Flash) (item : UInt8) : Option (List UInt8) := f.items.lookup item

/-- Stores an item. -/
def store (f : Flash) (item : UInt8) (bytes : List UInt8) : Flash := ⟨(item, bytes) :: f.items⟩

/-- What is read under a number after something was stored. -/
theorem fetch?_store (f : Flash) (item : UInt8) (bytes : List UInt8) (other : UInt8) :
    (f.store item bytes).fetch? other = if other = item then some bytes else f.fetch? other := by
  by_cases h : other = item
  · simp [fetch?, store, h]
  · have e : (other == item) = false := by simp [h]
    simp [fetch?, store, List.lookup_cons, h, e]

instance : Medium Flash where
  fetch? := fetch?
  store f item bytes fails := if fails then f else f.store item bytes
  fetch?_store := fetch?_store
  fetch?_store_of_fails _ _ _ _ := rfl

end Flash

/-- What a flash store asks of its medium. -/
inductive FlashEvent
  /-- The item with this number was looked up. -/
  | fetched (item : UInt8)
  /-- These bytes were stored under this number. -/
  | stored (item : UInt8) (bytes : List UInt8)
  deriving DecidableEq, Repr

/-- The size of the flash of the board. -/
def flashSize : Nat := 2 * 1024 * 1024

/-- The size of an erasable sector. -/
def sectorSize : Nat := 4096

/-- The number of sectors for settings, at the end of flash. -/
def storeSectors : Nat := 4

/-- Where the settings area starts. -/
def storeStart : Nat := flashSize - storeSectors * sectorSize

/-- Where the settings area ends. -/
def storeEnd : Nat := flashSize

/-- The number of layers with a lighting word in flash. -/
def layerSlots : Nat := 8

/-- The number of bytes of the buffer that items are read into. -/
def itemBufferSize : Nat := 32

/-- The settings words of a half, cached in memory and persisted in a medium, which on the board is
flash. -/
structure FlashStore (φ : Type := Flash) where
  /-- The settings area. -/
  flash : φ
  /-- The words in memory. -/
  cache : Cache layerSlots
  deriving DecidableEq, Repr

namespace FlashStore

variable {φ : Type}

/-- A store over a medium, nothing loaded yet. -/
def mount (flash : φ) : FlashStore φ := ⟨flash, Cache.empty⟩

section Medium

variable [Medium φ]

/-- The bytes read under a number, given whether the medium can be read there.  Items that do
not fit the buffer cannot be read. -/
def read? (s : FlashStore φ) (readable : Bool) (item : UInt8) : Option (List UInt8) :=
  if readable then (Medium.fetch? s.flash item).filter fun bytes => bytes.length ≤ itemBufferSize
  else none

/-- Takes the word of a key from the medium into the cache.  A word that is missing, unreadable or
not of four bytes leaves the cache as it is. -/
def loadWord (s : FlashStore φ) (readable : Bool) (k : WordKey) : FlashStore φ :=
  match (s.read? readable k.item).bind word32? with
  | none => s
  | some word =>
    match s.cache.restore k word with
    | .ok cache => { s with cache := cache }
    | .error _ => s

/-- Fills the cache from the medium, given the item numbers where the medium cannot be read. -/
def load (s : FlashStore φ) (unreadable : List UInt8) : FlashStore φ × List FlashEvent :=
  let keys := WordKey.all layerSlots
  (keys.foldl (fun s k => s.loadWord (!unreadable.contains k.item) k) s,
    keys.map fun k => .fetched k.item)

/-- Persists changed words for at most `rounds` rounds, up to the first store that fails. -/
def flushRounds (s : FlashStore φ) (faults : Faults) :
    Nat → FlashStore φ × List FlashEvent × Except StorageError Unit
  | 0 => (s, [], .ok ())
  | rounds + 1 =>
    match s.cache.nextDirty? with
    | none => (s, [], .ok ())
    | some (k, word) =>
      let flash := Medium.store s.flash k.item (bytes32 word) faults.fails
      if faults.fails then ({ s with flash := flash }, [], .error .io)
      else
        let (s, events, result) := flushRounds ⟨flash, s.cache.markClean k⟩ faults.rest rounds
        (s, .stored k.item (bytes32 word) :: events, result)

/-- Persists every changed word, in key order, up to the first store that fails. -/
def flush (s : FlashStore φ) (faults : Faults) :
    FlashStore φ × List FlashEvent × Except StorageError Unit :=
  s.flushRounds faults Cache.allRounds

end Medium

instance : SettingsStore (FlashStore φ) where
  keyboardWord? s := SettingsStore.keyboardWord? s.cache
  putKeyboardWord s word :=
    (SettingsStore.putKeyboardWord s.cache word).map fun cache => { s with cache := cache }
  layerWord? s n := SettingsStore.layerWord? s.cache n
  putLayerWord s n word :=
    (SettingsStore.putLayerWord s.cache n word).map fun cache => { s with cache := cache }
  layoutWord s := SettingsStore.layoutWord s.cache
  putLayoutWord s word := { s with cache := SettingsStore.putLayoutWord s.cache word }

end FlashStore

end TwinBall
