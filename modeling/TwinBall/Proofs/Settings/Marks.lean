import Mathlib.Data.List.Nodup
import TwinBall.Settings.Cache

/-!
# The changed words of a cache

The mask of a cache is addressed by slots, but what it stands for is a list: the changed words in
key order.  `pending` is that list.  As long as marks are only on keys that the cache holds, and on
words that are there (`Marked`), the next changed word is the head of `pending`, and marking it
clean leaves the tail.
-/

namespace TwinBall

/-! ## Keys and slots -/

namespace WordKey

variable {layers : Nat} {k l : WordKey}

theorem slot_ofSlot {i : Nat} (hi : i < 258) : (ofSlot i).slot = i := by
  match i with
  | 0 => rfl
  | 1 => rfl
  | n + 2 =>
    have hn : n < 256 := by omega
    simp only [ofSlot, slot, UInt8.toNat_ofNat', Nat.reducePow, Nat.mod_eq_of_lt hn]
    omega

theorem all_eq_map (layers : Nat) : all layers = (List.range (layers + 2)).map ofSlot := by
  rw [List.range_succ_eq_map, List.range_succ_eq_map]
  simp [all, ofSlot, Function.comp_def]

theorem mem_all_iff : k ∈ all layers ↔ k.slot < layers + 2 := by
  rw [all_eq_map, List.mem_map]
  constructor
  · rintro ⟨i, hi, rfl⟩
    rw [List.mem_range] at hi
    match i, hi with
    | 0, hi => exact hi
    | 1, hi => exact hi
    | n + 2, hi =>
      have hle : n % 2 ^ 8 ≤ n := Nat.mod_le n _
      simp only [ofSlot, slot, UInt8.toNat_ofNat']
      omega
  · intro hk
    exact ⟨k.slot, List.mem_range.mpr hk, ofSlot_slot k⟩

theorem nodup_all (hlayers : layers ≤ 256) : (all layers).Nodup := by
  rw [all_eq_map]
  refine List.Nodup.map_on ?_ List.nodup_range
  intro i hi j hj heq
  rw [List.mem_range] at hi hj
  rw [← slot_ofSlot (show i < 258 by omega), heq, slot_ofSlot (by omega)]

/-- Items follow the slots, with a gap between the two single words and the layers. -/
theorem toNat_item (hk : k.slot < 242) :
    k.item.toNat = if k.slot < 2 then k.slot else k.slot + 14 := by
  cases k with
  | keyboard => rfl
  | layout => rfl
  | layer n =>
    have hslot : (layer n).slot = 2 + n.toNat := rfl
    have hsum : (layer n).item.toNat = (16 + n.toNat) % 256 := UInt8.toNat_add 0x10 n
    rw [if_neg (by omega), hsum]
    omega

/-- No two words share an item of flash, as long as the items of the layers do not wrap around. -/
theorem item_injOn (hlayers : layers ≤ 240) (hk : k ∈ all layers) (hl : l ∈ all layers)
    (heq : k.item = l.item) : k = l := by
  rw [mem_all_iff] at hk hl
  have hitems : k.item.toNat = l.item.toNat := congrArg UInt8.toNat heq
  rw [toNat_item (by omega), toNat_item (by omega)] at hitems
  apply slot_inj
  split at hitems
  · split at hitems
    · exact hitems
    · omega
  · split at hitems
    · omega
    · omega

theorem nodup_items (hlayers : layers ≤ 240) : ((all layers).map item).Nodup :=
  List.Nodup.map_on (fun _ hk _ hl => item_injOn hlayers hk hl) (nodup_all (by omega))

end WordKey

/-! ## Marks -/

namespace Cache

variable {layers : Nat} {c d : Cache layers} {k : WordKey} {word : UInt32}

/-- Only words that are there are marked, under keys that the cache holds. -/
structure Marked (c : Cache layers) : Prop where
  held : ∀ k, c.isMarked k = true → k ∈ WordKey.all layers
  present : ∀ k, c.isMarked k = true → (c.get k).isSome = true

/-- The changed words in key order, each with its key. -/
def pending (c : Cache layers) : List (WordKey × UInt32) :=
  ((WordKey.all layers).filter c.isMarked).filterMap fun k => (c.get k).map (k, ·)

theorem isMarked_empty (k : WordKey) : (empty : Cache layers).isMarked k = false :=
  BitVec.getLsbD_zero

theorem marked_empty : (empty : Cache layers).Marked := by
  constructor
  · intro k hk
    rw [isMarked_empty] at hk
    cases hk
  · intro k hk
    rw [isMarked_empty] at hk
    cases hk

/-! ### Words that are held -/

theorem get_eq_none (hk : k ∉ WordKey.all layers) : c.get k = none := by
  rw [WordKey.mem_all_iff] at hk
  cases k with
  | keyboard => exact absurd (Nat.zero_lt_succ _) hk
  | layout => exact absurd (Nat.succ_lt_succ (Nat.zero_lt_succ _)) hk
  | layer n =>
    have hn : layers ≤ n.toNat := by
      simp only [WordKey.slot] at hk
      omega
    simp [get, Vector.getElem?_eq_none hn]

theorem restore_eq_error (hk : k ∉ WordKey.all layers) :
    c.restore k word = .error .outOfRange := by
  rw [WordKey.mem_all_iff] at hk
  cases k with
  | keyboard => exact absurd (Nat.zero_lt_succ _) hk
  | layout => exact absurd (Nat.succ_lt_succ (Nat.zero_lt_succ _)) hk
  | layer n =>
    refine dif_neg fun hn => hk ?_
    simp only [WordKey.slot]
    omega

/-- Restoring the word of a key that is held sets this word and nothing else. -/
theorem restore_eq_ok (c : Cache layers) (word : UInt32) (hk : k ∈ WordKey.all layers) :
    ∃ d, c.restore k word = .ok d ∧ (∀ l, d.get l = if l = k then some word else c.get l) ∧
      d.dirty = c.dirty := by
  rw [WordKey.mem_all_iff] at hk
  cases k with
  | keyboard =>
    refine ⟨_, rfl, fun l => ?_, rfl⟩
    cases l <;> rfl
  | layout =>
    refine ⟨_, rfl, fun l => ?_, rfl⟩
    cases l <;> rfl
  | layer n =>
    have hn : n.toNat < layers := by
      simp only [WordKey.slot] at hk
      omega
    refine ⟨_, dif_pos hn, fun l => ?_, rfl⟩
    cases l with
    | keyboard => rfl
    | layout => rfl
    | layer m =>
      by_cases hm : m = n
      · simp [get, hm]
      · have hne : n.toNat ≠ m.toNat := fun heq => hm (UInt8.toNat_inj.mp heq.symm)
        simp [get, hm, Vector.getElem?_set_ne hn hne]

theorem Marked.restore (hc : c.Marked) (h : c.restore k word = .ok d) : d.Marked := by
  by_cases hk : k ∈ WordKey.all layers
  · obtain ⟨e, he, hget, hdirty⟩ := restore_eq_ok c word hk
    cases he.symm.trans h
    have hmarked : ∀ l, d.isMarked l = c.isMarked l := fun l => by rw [isMarked, hdirty, isMarked]
    constructor
    · intro l hl
      exact hc.held l (hmarked l ▸ hl)
    · intro l hl
      rw [hget]
      split
      · rfl
      · exact hc.present l (hmarked l ▸ hl)
  · rw [restore_eq_error hk] at h
    cases h

theorem Marked.markClean (hc : c.Marked) (k : WordKey) : (c.markClean k).Marked := by
  have hmarked : ∀ l, (c.markClean k).isMarked l = true → c.isMarked l = true := by
    intro l hl
    rw [isMarked_markClean, Bool.and_eq_true] at hl
    exact hl.1
  constructor
  · intro l hl
    exact hc.held l (hmarked l hl)
  · intro l hl
    rw [get_markClean]
    exact hc.present l (hmarked l hl)

theorem put_eq_error (hk : k ∉ WordKey.all layers) : c.put k word = .error .outOfRange := by
  rw [put, get_eq_none hk, if_neg (Option.some_ne_none word).symm, restore_eq_error hk]
  rfl

/-- Writing the word of a key that is held sets this word, and marks it if it was another one. -/
theorem put_eq_ok (hlayers : layers ≤ 30) (hc : c.Marked) (word : UInt32)
    (hk : k ∈ WordKey.all layers) :
    ∃ d, c.put k word = .ok d ∧ d.Marked ∧
      (∀ l, d.get l = if l = k then some word else c.get l) ∧
      ∀ l, d.isMarked l = (c.isMarked l || decide (k = l ∧ c.get k ≠ some word)) := by
  have hslot := WordKey.mem_all_iff.mp hk
  by_cases hsame : c.get k = some word
  · refine ⟨c, if_pos hsame, hc, fun l => ?_, fun l => ?_⟩
    · split
      · next hl => rw [hl, hsame]
      · rfl
    · simp [hsame]
  · obtain ⟨d, hd, hget, hdirty⟩ := restore_eq_ok c word hk
    have hmark : ∀ l, (d.mark k).isMarked l = (c.isMarked l || decide (k = l)) := by
      intro l
      rw [isMarked_mark d k l (by omega), isMarked, hdirty, isMarked]
    refine ⟨d.mark k, ?_, ⟨fun l hl => ?_, fun l hl => ?_⟩, fun l => ?_, fun l => ?_⟩
    · rw [put, if_neg hsame, hd]
      rfl
    · rw [hmark, Bool.or_eq_true, decide_eq_true_eq] at hl
      rcases hl with hl | rfl
      · exact hc.held l hl
      · exact hk
    · rw [get_mark, hget]
      split
      · rfl
      · next hne =>
        rw [hmark, Bool.or_eq_true, decide_eq_true_eq] at hl
        rcases hl with hl | rfl
        · exact hc.present l hl
        · exact absurd rfl hne
    · rw [get_mark, hget]
    · rw [hmark]
      simp [hsame]

/-! ### The next changed word -/

/-- The lowest bit of the mask belongs to the first marked key. -/
theorem lowestBit?_dirty (hlayers : layers ≤ 30) (hc : c.Marked) :
    (lowestBit? c.dirty).map WordKey.ofSlot = (WordKey.all layers).find? c.isMarked := by
  have hbits : lowestBit? c.dirty = (List.range 32).find? (c.isMarked ∘ WordKey.ofSlot) := by
    rw [lowestBit?, ← List.head?_filter, ← List.head?_filter]
    refine congrArg List.head? (List.filter_congr fun i hi => ?_)
    rw [List.mem_range] at hi
    rw [Function.comp_apply, isMarked, WordKey.slot_ofSlot (by omega)]
  -- The mask has room for 30 layers.  Nothing is marked in the part that the cache does not use.
  have hall : WordKey.all 30 = WordKey.all layers ++
      (List.range (30 - layers)).map fun i => WordKey.ofSlot (layers + 2 + i) := by
    rw [WordKey.all_eq_map, WordKey.all_eq_map, show 30 + 2 = layers + 2 + (30 - layers) by omega,
      List.range_add, List.map_append, List.map_map]
    rfl
  have hunused : ((List.range (30 - layers)).map fun i => WordKey.ofSlot (layers + 2 + i)).find?
      c.isMarked = none := by
    rw [List.find?_eq_none]
    intro k hk hmark
    obtain ⟨i, hi, rfl⟩ := List.mem_map.mp hk
    rw [List.mem_range] at hi
    have hheld := WordKey.mem_all_iff.mp (hc.held _ hmark)
    rw [WordKey.slot_ofSlot (by omega)] at hheld
    omega
  rw [hbits, ← List.find?_map, ← WordKey.all_eq_map 30, hall, List.find?_append, hunused,
    Option.or_none]

theorem lowestBit?_eq_none_iff {mask : BitVec 32} : lowestBit? mask = none ↔ mask = 0 := by
  constructor
  · intro h
    refine BitVec.eq_of_getLsbD_eq fun i hi => ?_
    have hbit := List.find?_eq_none.mp h i (List.mem_range.mpr hi)
    simpa using hbit
  · rintro rfl
    rw [lowestBit?, List.find?_eq_none]
    intro i _
    simp

/-- Every marked key is pending, in key order. -/
theorem map_fst_pending (hc : c.Marked) :
    c.pending.map Prod.fst = (WordKey.all layers).filter c.isMarked := by
  rw [pending, List.map_filterMap]
  have hkeys : ∀ k ∈ (WordKey.all layers).filter c.isMarked,
      ((c.get k).map (k, ·)).map Prod.fst = some k := by
    intro k hk
    obtain ⟨word, hword⟩ := Option.isSome_iff_exists.mp (hc.present k (List.mem_filter.mp hk).2)
    rw [hword]
    rfl
  rw [List.filterMap_congr hkeys, List.filterMap_some]

theorem get_of_mem_pending {p : WordKey × UInt32} (hp : p ∈ c.pending) :
    c.get p.1 = some p.2 ∧ c.isMarked p.1 = true := by
  obtain ⟨k, hk, hword⟩ := List.mem_filterMap.mp hp
  obtain ⟨word, hget, rfl⟩ := Option.map_eq_some_iff.mp hword
  exact ⟨hget, (List.mem_filter.mp hk).2⟩

theorem isMarked_iff_mem_pending (hc : c.Marked) (k : WordKey) :
    c.isMarked k = true ↔ k ∈ c.pending.map Prod.fst := by
  rw [map_fst_pending hc, List.mem_filter]
  exact ⟨fun hk => ⟨hc.held k hk, hk⟩, And.right⟩

theorem nextDirty?_eq (hlayers : layers ≤ 30) (hc : c.Marked) : c.nextDirty? = c.pending.head? := by
  have hnext : c.nextDirty? = ((lowestBit? c.dirty).map WordKey.ofSlot).bind fun k =>
      (c.get k).map (k, ·) := by
    rw [nextDirty?, Option.bind_map]
    rfl
  rw [hnext, lowestBit?_dirty hlayers hc, ← List.head?_filter, pending]
  cases hkeys : (WordKey.all layers).filter c.isMarked with
  | nil => rfl
  | cons k ks =>
    have hk : c.isMarked k = true := by
      have hmem : k ∈ (WordKey.all layers).filter c.isMarked := hkeys ▸ List.mem_cons_self
      exact (List.mem_filter.mp hmem).2
    obtain ⟨word, hword⟩ := Option.isSome_iff_exists.mp (hc.present k hk)
    simp [hword]

theorem isDirty_iff (hlayers : layers ≤ 30) (hc : c.Marked) :
    c.isDirty = true ↔ c.pending ≠ [] := by
  have hnone : c.pending = [] ↔ lowestBit? c.dirty = none := by
    rw [← List.map_eq_nil_iff (f := Prod.fst), map_fst_pending hc, ← List.head?_eq_none_iff,
      List.head?_filter, ← lowestBit?_dirty hlayers hc, Option.map_eq_none_iff]
  rw [ne_eq, hnone, lowestBit?_eq_none_iff, isDirty, bne_iff_ne]

theorem nodup_pending (hlayers : layers ≤ 30) (hc : c.Marked) :
    (c.pending.map Prod.fst).Nodup := by
  rw [map_fst_pending hc]
  exact (WordKey.nodup_all (by omega)).filter _

/-- Marking the next changed word clean leaves the others. -/
theorem pending_markClean (hlayers : layers ≤ 30) (hc : c.Marked)
    {rest : List (WordKey × UInt32)} (hnext : c.pending = (k, word) :: rest) :
    (c.markClean k).pending = rest := by
  have hnodup := nodup_pending hlayers hc
  rw [hnext, List.map_cons, List.nodup_cons] at hnodup
  have hkeys : (WordKey.all layers).filter (c.markClean k).isMarked =
      ((WordKey.all layers).filter c.isMarked).filter fun l => !decide (k = l) := by
    rw [List.filter_filter]
    refine List.filter_congr fun l _ => ?_
    rw [isMarked_markClean, Bool.and_comm]
  have hrest : (c.markClean k).pending = c.pending.filter fun p => !decide (k = p.1) := by
    rw [pending, pending, hkeys, List.filterMap_filter, List.filter_filterMap]
    refine List.filterMap_congr fun l _ => ?_
    rw [get_markClean]
    cases c.get l with
    | none => simp
    | some word =>
      by_cases hkl : k = l
      · simp [hkl, Option.filter_some]
      · simp [hkl, Option.filter_some]
  rw [hrest, hnext, List.filter_cons_of_neg (by simp), List.filter_eq_self]
  intro p hp
  have hne : k ≠ p.1 := by
    intro heq
    exact hnodup.1 (List.mem_map.mpr ⟨p, hp, heq.symm⟩)
  simpa using hne

/-- Taking changed words one by one lists the pending ones, and changes no word. -/
theorem takeDirty_eq (hlayers : layers ≤ 30) (hc : c.Marked) (rounds : Nat) :
    (c.takeDirty rounds).1 = c.pending.take rounds ∧
      (c.takeDirty rounds).2.pending = c.pending.drop rounds ∧
      (c.takeDirty rounds).2.Marked ∧ ∀ l, (c.takeDirty rounds).2.get l = c.get l := by
  induction rounds generalizing c with
  | zero => exact ⟨rfl, rfl, hc, fun _ => rfl⟩
  | succ rounds ih =>
    cases hpending : c.pending with
    | nil =>
      have hnone : c.nextDirty? = none := by rw [nextDirty?_eq hlayers hc, hpending, List.head?_nil]
      simp only [takeDirty, hnone]
      exact ⟨List.take_nil.symm, hpending, hc, fun _ => trivial⟩
    | cons p rest =>
      obtain ⟨k, word⟩ := p
      have hnext : c.nextDirty? = some (k, word) := by
        rw [nextDirty?_eq hlayers hc, hpending, List.head?_cons]
      obtain ⟨hwords, hleft, hmarked, hget⟩ := ih (hc.markClean k)
      rw [pending_markClean hlayers hc hpending] at hwords hleft
      simp only [takeDirty, hnext]
      refine ⟨?_, hleft, hmarked, fun l => ?_⟩
      · rw [hwords, List.take_succ_cons]
      · rw [hget, get_markClean]

end Cache

end TwinBall
