import Mathlib.Data.Finset.Card
import TwinBall.Proofs.Settings.Marks

/-!
# A cache is a map with a set of changed keys

A ledger says what a cache is for: it maps keys to words and remembers which of them changed.  A
ledger and a cache that are accessed alike answer alike and stay in agreement (`Agrees`), so every
statement about ledgers holds of caches.
-/

namespace TwinBall

/-- An access to the persisted words of a cache with `layers` layers.  Words are only marked clean
under keys that the cache holds. -/
inductive Access (layers : Nat)
  | putKeyboard (word : UInt32)
  | putLayer (n : UInt8) (word : UInt32)
  | putLayout (word : UInt32)
  | restore (k : WordKey) (word : UInt32)
  | markClean (k : WordKey) (held : k ∈ WordKey.all layers)
  | keyboard
  | layer (n : UInt8)
  | layout
  | get (k : WordKey)

/-- What an access answers. -/
inductive AccessAnswer
  | written (result : Except StorageError Unit)
  | found (word : Option UInt32)

variable {layers : Nat}

/-! ## Accesses to a cache -/

namespace Cache

/-- The cache after a write, or the same cache if the write was refused. -/
def conclude (c : Cache layers) :
    Except StorageError (Cache layers) → AccessAnswer × Cache layers
  | .ok d => (.written (.ok ()), d)
  | .error e => (.written (.error e), c)

def access (c : Cache layers) : Access layers → AccessAnswer × Cache layers
  | .putKeyboard word => c.conclude (SettingsStore.putKeyboardWord c word)
  | .putLayer n word => c.conclude (SettingsStore.putLayerWord c n word)
  | .putLayout word => (.written (.ok ()), SettingsStore.putLayoutWord c word)
  | .restore k word => c.conclude (c.restore k word)
  | .markClean k _ => (.written (.ok ()), c.markClean k)
  | .keyboard => (.found (SettingsStore.keyboardWord? c), c)
  | .layer n => (.found (SettingsStore.layerWord? c n), c)
  | .layout => (.found (some (SettingsStore.layoutWord c)), c)
  | .get k => (.found (c.get k), c)

/-- The answers to accesses one after the other, and the cache after them. -/
def accessAll (c : Cache layers) : List (Access layers) → List AccessAnswer × Cache layers
  | [] => ([], c)
  | a :: rest =>
    let (answers, d) := (c.access a).2.accessAll rest
    ((c.access a).1 :: answers, d)

end Cache

/-! ## Accesses to a ledger -/

/-- The words under their keys, and the keys of the words that changed. -/
structure Ledger (layers : Nat) where
  words : WordKey → Option UInt32
  changed : Finset WordKey

namespace Ledger

/-- The layout options start at `0`; there are no other words. -/
def empty : Ledger layers := ⟨fun k => if k = .layout then some 0 else none, ∅⟩

/-- The ledger with another word under a key. -/
def set (l : Ledger layers) (k : WordKey) (word : UInt32) : Ledger layers :=
  { l with words := fun i => if i = k then some word else l.words i }

/-- Writes a word.  Nothing changes if it is there already. -/
def write (l : Ledger layers) (k : WordKey) (word : UInt32) : AccessAnswer × Ledger layers :=
  if k ∉ WordKey.all layers then (.written (.error .outOfRange), l)
  else if l.words k = some word then (.written (.ok ()), l)
  else (.written (.ok ()), { l.set k word with changed := insert k l.changed })

/-- Takes in a word that was read back: it counts as unchanged if it did before. -/
def restore (l : Ledger layers) (k : WordKey) (word : UInt32) : AccessAnswer × Ledger layers :=
  if k ∉ WordKey.all layers then (.written (.error .outOfRange), l)
  else (.written (.ok ()), l.set k word)

def access (l : Ledger layers) : Access layers → AccessAnswer × Ledger layers
  | .putKeyboard word => l.write .keyboard word
  | .putLayer n word => l.write (.layer n) word
  | .putLayout word => l.write .layout word
  | .restore k word => l.restore k word
  | .markClean k _ => (.written (.ok ()), { l with changed := l.changed.erase k })
  | .keyboard => (.found (l.words .keyboard), l)
  | .layer n => (.found (l.words (.layer n)), l)
  | .layout => (.found (l.words .layout), l)
  | .get k => (.found (l.words k), l)

/-- The answers to accesses one after the other, and the ledger after them. -/
def accessAll (l : Ledger layers) : List (Access layers) → List AccessAnswer × Ledger layers
  | [] => ([], l)
  | a :: rest =>
    let (answers, m) := (l.access a).2.accessAll rest
    ((l.access a).1 :: answers, m)

/-- The changed words in key order. -/
def pending (l : Ledger layers) : List (WordKey × UInt32) :=
  ((WordKey.all layers).filter (· ∈ l.changed)).filterMap fun k => (l.words k).map (k, ·)

end Ledger

/-! ## Agreement -/

/-- A cache and a ledger have the same words and the same changes. -/
structure Agrees (c : Cache layers) (l : Ledger layers) : Prop where
  words : ∀ k, c.get k = l.words k
  changed : ∀ k, c.isMarked k = true ↔ k ∈ l.changed
  marked : c.Marked

namespace Agrees

variable {c : Cache layers} {l : Ledger layers}

theorem empty : Agrees (Cache.empty : Cache layers) .empty := by
  refine ⟨fun k => ?_, fun k => ?_, Cache.marked_empty⟩
  · cases k with
    | keyboard => rfl
    | layout => rfl
    | layer n =>
      by_cases hn : n.toNat < layers
      · simp [Cache.get, Cache.empty, Ledger.empty, hn]
      · simp [Cache.get, Cache.empty, Ledger.empty, hn]
  · rw [Cache.isMarked_empty]
    simp [Ledger.empty]

theorem restore (h : Agrees c l) (k : WordKey) (word : UInt32) :
    (c.conclude (c.restore k word)).1 = (l.restore k word).1 ∧
      Agrees (c.conclude (c.restore k word)).2 (l.restore k word).2 := by
  by_cases hk : k ∈ WordKey.all layers
  · obtain ⟨d, hd, hget, hdirty⟩ := Cache.restore_eq_ok c word hk
    rw [Ledger.restore, if_neg (not_not_intro hk), hd]
    refine ⟨rfl, fun i => ?_, fun i => ?_, h.marked.restore hd⟩
    · simp only [Cache.conclude, Ledger.set, hget, h.words]
    · simp only [Cache.conclude, Cache.isMarked, hdirty, Ledger.set]
      exact h.changed i
  · rw [Ledger.restore, if_pos hk, Cache.restore_eq_error hk]
    exact ⟨rfl, h⟩

/-- A write sets the word and marks its key, unless the word is there already. -/
theorem put (h : Agrees c l) (hlayers : layers ≤ 30) (k : WordKey) (word : UInt32) :
    (c.conclude (c.put k word)).1 = (l.write k word).1 ∧
      Agrees (c.conclude (c.put k word)).2 (l.write k word).2 := by
  by_cases hk : k ∈ WordKey.all layers
  · obtain ⟨d, hd, hmarked, hget, hmark⟩ := Cache.put_eq_ok hlayers h.marked word hk
    simp only [h.words] at hget hmark
    rw [Ledger.write, if_neg (not_not_intro hk), hd]
    split
    · next hsame =>
      refine ⟨rfl, fun i => ?_, fun i => ?_, hmarked⟩
      · rw [Cache.conclude, hget]
        split
        · next hi => rw [hi, hsame]
        · rfl
      · rw [Cache.conclude, hmark, ← h.changed]
        simp [hsame]
    · next hother =>
      refine ⟨rfl, fun i => ?_, fun i => ?_, hmarked⟩
      · rw [Cache.conclude, hget]
        rfl
      · rw [Cache.conclude, hmark, Finset.mem_insert, ← h.changed, Bool.or_eq_true,
          decide_eq_true_eq, or_comm]
        exact or_congr_left ⟨fun hi => hi.1.symm, fun hi => ⟨hi.symm, hother⟩⟩
  · rw [Ledger.write, if_pos hk, Cache.put_eq_error hk]
    exact ⟨rfl, h⟩

theorem markClean (h : Agrees c l) (k : WordKey) :
    Agrees (c.markClean k) { l with changed := l.changed.erase k } := by
  refine ⟨fun i => ?_, fun i => ?_, h.marked.markClean k⟩
  · rw [Cache.get_markClean, h.words]
  · rw [Cache.isMarked_markClean, Bool.and_eq_true, h.changed, Finset.mem_erase, and_comm,
      Bool.not_eq_true', decide_eq_false_iff_not]
    exact and_congr_left fun _ => ne_comm

theorem access (h : Agrees c l) (hlayers : layers ≤ 30) (a : Access layers) :
    (c.access a).1 = (l.access a).1 ∧ Agrees (c.access a).2 (l.access a).2 := by
  cases a with
  | putKeyboard word => exact h.put hlayers .keyboard word
  | putLayer n word => exact h.put hlayers (.layer n) word
  | putLayout word =>
    have hput := h.put hlayers .layout word
    rw [Cache.put_layout] at hput
    exact hput
  | restore k word => exact h.restore k word
  | markClean k => exact ⟨rfl, h.markClean k⟩
  | keyboard => exact ⟨congrArg AccessAnswer.found (h.words .keyboard), h⟩
  | layer n => exact ⟨congrArg AccessAnswer.found (h.words (.layer n)), h⟩
  | layout => exact ⟨congrArg AccessAnswer.found (h.words .layout), h⟩
  | get k => exact ⟨congrArg AccessAnswer.found (h.words k), h⟩

theorem accessAll (h : Agrees c l) (hlayers : layers ≤ 30) (accesses : List (Access layers)) :
    (c.accessAll accesses).1 = (l.accessAll accesses).1 ∧
      Agrees (c.accessAll accesses).2 (l.accessAll accesses).2 := by
  induction accesses generalizing c l with
  | nil => exact ⟨rfl, h⟩
  | cons a rest ih =>
    obtain ⟨hanswer, hafter⟩ := h.access hlayers a
    obtain ⟨hanswers, hend⟩ := ih hafter
    exact ⟨congrArg₂ List.cons hanswer hanswers, hend⟩

theorem pending_eq (h : Agrees c l) : c.pending = l.pending := by
  have hkeys : (WordKey.all layers).filter c.isMarked =
      (WordKey.all layers).filter (· ∈ l.changed) := by
    refine List.filter_congr fun k _ => ?_
    rw [Bool.eq_iff_iff, h.changed, decide_eq_true_eq]
  rw [Cache.pending, Ledger.pending, hkeys]
  exact List.filterMap_congr fun k _ => by rw [h.words]

/-- Each changed key is pending once. -/
theorem length_pending (h : Agrees c l) (hlayers : layers ≤ 30) :
    l.pending.length = l.changed.card := by
  have hkeys : l.changed = (c.pending.map Prod.fst).toFinset := by
    ext k
    rw [List.mem_toFinset, ← Cache.isMarked_iff_mem_pending h.marked, h.changed]
  rw [hkeys, List.toFinset_card_of_nodup (Cache.nodup_pending hlayers h.marked), List.length_map,
    h.pending_eq]

end Agrees

/-- **A cache is a map with a set of changed keys.**  Whatever accesses a cache of at most 30
layers has seen, it answers as the map does and holds the words of the map.  It is dirty while the
set of changed keys is not empty, and its next changed word is the first of them in key order.
Taking the changed words one by one lists each of them once, in key order, and is done after as many
rounds as there are changed keys.  No two keys share an item; every key that is held has a bit of
the mask, and under other keys nothing is found, written or marked. -/
theorem Cache.accessAll_eq_ledger (hlayers : layers ≤ 30) (accesses : List (Access layers)) :
    let c := ((empty : Cache layers).accessAll accesses).2
    let l := ((Ledger.empty : Ledger layers).accessAll accesses).2
    ((empty : Cache layers).accessAll accesses).1 =
      ((Ledger.empty : Ledger layers).accessAll accesses).1 ∧
    (∀ k, c.get k = l.words k) ∧ (∀ k, c.isMarked k = true ↔ k ∈ l.changed) ∧
    (c.isDirty = true ↔ l.changed.Nonempty) ∧
    (c.nextDirty? = none ↔ l.changed = ∅) ∧ c.nextDirty? = l.pending.head? ∧
    l.pending.map Prod.fst = (WordKey.all layers).filter (· ∈ l.changed) ∧
    (∀ p ∈ l.pending, l.words p.1 = some p.2) ∧ l.pending.length = l.changed.card ∧
    (∀ rounds, (c.takeDirty rounds).1 = l.pending.take rounds ∧
      ((c.takeDirty rounds).2.isDirty = false ↔ l.changed.card ≤ rounds) ∧
      ∀ k, (c.takeDirty rounds).2.get k = l.words k) ∧
    ((WordKey.all layers).map WordKey.item).Nodup ∧
    (∀ k ∈ WordKey.all layers, k.slot < 32 ∧ WordKey.ofSlot k.slot = k) ∧
    ∀ k, k ∉ WordKey.all layers → c.get k = none ∧ c.isMarked k = false ∧
      ∀ word, c.put k word = .error .outOfRange ∧ c.restore k word = .error .outOfRange := by
  intro c l
  obtain ⟨hanswers, h⟩ := Agrees.empty.accessAll hlayers accesses
  have hempty : l.pending = [] ↔ l.changed = ∅ := by
    rw [← List.length_eq_zero_iff, h.length_pending hlayers, Finset.card_eq_zero]
  have hnext : c.nextDirty? = l.pending.head? := by
    rw [Cache.nextDirty?_eq hlayers h.marked, h.pending_eq]
  refine ⟨hanswers, h.words, h.changed, ?_, ?_, hnext, ?_, ?_, h.length_pending hlayers,
    fun rounds => ?_, WordKey.nodup_items (by omega), fun k hk => ?_, fun k hk => ?_⟩
  · rw [Cache.isDirty_iff hlayers h.marked, h.pending_eq, ne_eq, hempty,
      Finset.nonempty_iff_ne_empty]
  · rw [hnext, List.head?_eq_none_iff, hempty]
  · rw [← h.pending_eq, Cache.map_fst_pending h.marked]
    refine List.filter_congr fun k _ => ?_
    rw [Bool.eq_iff_iff, h.changed, decide_eq_true_eq]
  · intro p hp
    rw [← h.words]
    exact (Cache.get_of_mem_pending (h.pending_eq ▸ hp)).1
  · obtain ⟨hwords, hleft, hmarked, hget⟩ := Cache.takeDirty_eq hlayers h.marked rounds
    refine ⟨hwords.trans (congrArg _ h.pending_eq), ?_, fun k => (hget k).trans (h.words k)⟩
    rw [← Bool.not_eq_true, Cache.isDirty_iff hlayers hmarked, not_not, hleft, h.pending_eq,
      List.drop_eq_nil_iff, h.length_pending hlayers]
  · have hslot := WordKey.mem_all_iff.mp hk
    exact ⟨by omega, WordKey.ofSlot_slot k⟩
  · have hnone : c.get k = none := Cache.get_eq_none hk
    refine ⟨hnone, ?_, fun word => ⟨Cache.put_eq_error hk, Cache.restore_eq_error hk⟩⟩
    rw [← Bool.not_eq_true]
    exact fun hmark => hk (h.marked.held k hmark)

/-- With 30 layers the last one has the top bit of the mask.  A layer beyond it is refused. -/
theorem Cache.accessAll_top_layer :
    let accesses : List (Access 30) :=
      [.putLayer 29 7, .putLayer 30 5, .putKeyboard 1, .putLayout 0, .restore (.layer 2) 9]
    let c := ((empty : Cache 30).accessAll accesses).2
    30 ≤ 30 ∧ c.nextDirty? = some (.keyboard, 1) ∧
      (c.takeDirty 2).1 = [(.keyboard, 1), (.layer 29, 7)] ∧ (c.takeDirty 2).2.isDirty = false ∧
      c.get (.layer 2) = some 9 ∧ c.get (.layer 30) = none := by
  intro accesses c
  obtain ⟨-, hwords, -, -, -, hnext, -, -, -, htake, -, -, -⟩ :=
    accessAll_eq_ledger (Nat.le_refl 30) accesses
  obtain ⟨hlist, hclean, -⟩ := htake 2
  refine ⟨Nat.le_refl 30, hnext.trans (by decide), hlist.trans (by decide), hclean.mpr (by decide),
    (hwords _).trans (by decide), (hwords _).trans (by decide)⟩

end TwinBall
