import TwinBall.Settings.Key

/-!
# Stores of persisted words

A store holds the settings word of the keyboard, the layout options word and one lighting word
per layer.  The layout options can always be read and written; the other words may be missing,
and a write of them may be refused.
-/

namespace TwinBall

/-- Why a store refused a write. -/
inductive StorageError
  /-- The medium failed. -/
  | io
  /-- There is no place for the word, for instance because the layer does not exist. -/
  | outOfRange
  deriving DecidableEq, Repr

/-- States of a store.  A refused write answers no new state: it changes nothing. -/
class SettingsStore (σ : Type) where
  /-- The settings word, if one was ever stored. -/
  keyboardWord? : σ → Option UInt32
  /-- Stores the settings word. -/
  putKeyboardWord : σ → UInt32 → Except StorageError σ
  /-- The lighting word of a layer, if one was ever stored. -/
  layerWord? : σ → UInt8 → Option UInt32
  /-- Stores the lighting word of a layer. -/
  putLayerWord : σ → UInt8 → UInt32 → Except StorageError σ
  /-- The layout options word. -/
  layoutWord : σ → UInt32
  /-- Stores the layout options word. -/
  putLayoutWord : σ → UInt32 → σ

/-- A store that keeps its words in memory, counts the writes of the layout options, and can be
told to refuse all other writes. -/
structure MemoryStore where
  /-- The settings word. -/
  keyboard : Option UInt32
  /-- The layout options word. -/
  layout : UInt32
  /-- How often the layout options were written. -/
  layoutWrites : Nat
  /-- The lighting words. -/
  layers : List (Option UInt32)
  /-- The reason for which writes are refused, if they are. -/
  refusal : Option StorageError
  deriving DecidableEq, Repr

namespace MemoryStore

/-- A store without words. -/
def empty : MemoryStore := ⟨none, 0, 0, [], none⟩

/-- Stores the settings word, unless writes are refused. -/
def putKeyboardWord (s : MemoryStore) (word : UInt32) : Except StorageError MemoryStore :=
  match s.refusal with
  | some e => .error e
  | none => .ok { s with keyboard := some word }

/-- Stores the lighting word of a layer, unless writes are refused or there is no such layer. -/
def putLayerWord (s : MemoryStore) (n : UInt8) (word : UInt32) :
    Except StorageError MemoryStore :=
  match s.refusal with
  | some e => .error e
  | none =>
    if n.toNat < s.layers.length then
      .ok { s with layers := s.layers.set n.toNat (some word) }
    else .error .outOfRange

instance : SettingsStore MemoryStore where
  keyboardWord? s := s.keyboard
  putKeyboardWord := putKeyboardWord
  layerWord? s n := s.layers[n.toNat]?.join
  putLayerWord := putLayerWord
  layoutWord s := s.layout
  putLayoutWord s word := { s with layout := word, layoutWrites := s.layoutWrites + 1 }

end MemoryStore

/-- One of two kinds of store. -/
instance {σ τ : Type} [SettingsStore σ] [SettingsStore τ] : SettingsStore (σ ⊕ τ) where
  keyboardWord?
    | .inl s => SettingsStore.keyboardWord? s
    | .inr s => SettingsStore.keyboardWord? s
  putKeyboardWord
    | .inl s, word => (SettingsStore.putKeyboardWord s word).map .inl
    | .inr s, word => (SettingsStore.putKeyboardWord s word).map .inr
  layerWord?
    | .inl s, n => SettingsStore.layerWord? s n
    | .inr s, n => SettingsStore.layerWord? s n
  putLayerWord
    | .inl s, n, word => (SettingsStore.putLayerWord s n word).map .inl
    | .inr s, n, word => (SettingsStore.putLayerWord s n word).map .inr
  layoutWord
    | .inl s => SettingsStore.layoutWord s
    | .inr s => SettingsStore.layoutWord s
  putLayoutWord
    | .inl s, word => .inl (SettingsStore.putLayoutWord s word)
    | .inr s, word => .inr (SettingsStore.putLayoutWord s word)

end TwinBall
