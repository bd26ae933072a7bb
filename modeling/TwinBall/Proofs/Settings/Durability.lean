import TwinBall.Proofs.Settings.Marks
import TwinBall.Settings.Flash

/-!
# What is clean is in flash

A flash store keeps words in two places.  `Synced` ties them together: the word of every key that
is not marked is the one that flash holds.  Loading establishes it, and writing and flushing keep
it, also when flash refuses to store an item.  All of this holds for any medium in place of flash.

A flush is described by the number of words that it persists: those of `Cache.pending` before the
first failure.
-/

namespace TwinBall

/-- How many of the next `n` attempts succeed before the first failure. -/
def Faults.successes (f : Faults) (n : Nat) : Nat :=
  match f.runs with
  | [] => n
  | run :: _ => min run n

theorem Faults.successes_le (f : Faults) (n : Nat) : f.successes n ≤ n := by
  unfold Faults.successes
  split
  · exact Nat.le_refl n
  · exact Nat.min_le_right _ _

theorem Faults.successes_succ (f : Faults) (n : Nat) :
    f.successes (n + 1) = if f.fails then 0 else f.rest.successes n + 1 := by
  obtain ⟨runs⟩ := f
  match runs with
  | [] => rfl
  | 0 :: runs => simp [successes, fails]
  | (m + 1) :: runs => simp [successes, fails, rest]

theorem Faults.head?_runs {f : Faults} {n : Nat} (h : f.successes n < n) :
    f.runs.head? = some (f.successes n) := by
  obtain ⟨runs⟩ := f
  cases runs with
  | nil => exact absurd h (Nat.lt_irrefl n)
  | cons run runs =>
    have hrun : run < n := by
      simp only [successes] at h
      omega
    simp only [successes, List.head?_cons, Nat.min_eq_left (Nat.le_of_lt hrun)]

/-! ## Words in flash -/

namespace Medium

variable {φ : Type} [Medium φ] {f : φ} {words : List (WordKey × UInt32)}

/-- The word of a key in flash.  An item that is missing or not of four bytes holds none, and the
layout options are then `0`. -/
def word? (f : φ) (k : WordKey) : Option UInt32 :=
  let word := (fetch? f k.item).bind word32?
  if k = .layout then some (word.getD 0) else word

/-- Stores words one after the other, each as the item of its key. -/
def storeWords (f : φ) (words : List (WordKey × UInt32)) : φ :=
  words.foldl (fun f p => store f p.1.item (bytes32 p.2) false) f

theorem storeWords_cons (f : φ) (p : WordKey × UInt32) (words : List (WordKey × UInt32)) :
    storeWords f (p :: words) = storeWords (store f p.1.item (bytes32 p.2) false) words := rfl

theorem fetch?_storeWords_of_notMem {item : UInt8} (h : ∀ p ∈ words, p.1.item ≠ item) :
    fetch? (storeWords f words) item = fetch? f item := by
  induction words generalizing f with
  | nil => rfl
  | cons p words ih =>
    have hp : item ≠ p.1.item := fun heq => h p List.mem_cons_self heq.symm
    rw [storeWords_cons, ih fun q hq => h q (List.mem_cons_of_mem _ hq), fetch?_store, if_neg hp]

theorem fetch?_storeWords_of_mem (hnodup : (words.map fun p => p.1.item).Nodup)
    {p : WordKey × UInt32} (hp : p ∈ words) :
    fetch? (storeWords f words) p.1.item = some (bytes32 p.2) := by
  induction words generalizing f with
  | nil => cases hp
  | cons q words ih =>
    rw [List.map_cons, List.nodup_cons] at hnodup
    rw [storeWords_cons]
    rcases List.mem_cons.mp hp with rfl | hp
    · have hothers : ∀ r ∈ words, r.1.item ≠ p.1.item := by
        intro r hr heq
        exact hnodup.1 (List.mem_map.mpr ⟨r, hr, heq⟩)
      rw [fetch?_storeWords_of_notMem hothers, fetch?_store, if_pos rfl]
    · exact ih hnodup.2 hp

/-- Only the bytes of its own item matter to the word of a key. -/
theorem word?_congr {g : φ} {k : WordKey} (h : fetch? g k.item = fetch? f k.item) :
    word? g k = word? f k := by
  rw [word?, h, word?]

theorem word?_of_fetch? {k : WordKey} {word : UInt32} (h : fetch? f k.item = some (bytes32 word)) :
    word? f k = some word := by
  rw [word?, h, Option.bind_some, word32?_bytes32]
  split
  · rfl
  · rfl

end Medium

/-- Something that is done to a loaded store.  Any of the stores of a flush may fail. -/
inductive StoreOp
  | putKeyboard (word : UInt32)
  | putLayout (word : UInt32)
  | putLayer (n : UInt8) (word : UInt32)
  | flush (faults : Faults)

namespace FlashStore

variable {φ : Type} [Medium φ] {s : FlashStore φ}

/-- Marks are sound, and the word of every key without a mark is in flash. -/
structure Synced (s : FlashStore φ) : Prop where
  marked : s.cache.Marked
  clean : ∀ k ∈ WordKey.all layerSlots, s.cache.isMarked k = false →
    s.cache.get k = Medium.word? s.flash k

/-! ## Loading -/

theorem length_of_word32? {bytes : List UInt8} {word : UInt32} (h : word32? bytes = some word) :
    bytes.length = 4 := by
  unfold word32? at h
  split at h
  · rfl
  · cases h

/-- Items that do not fit the buffer hold no word, so it does not matter that they are not read. -/
theorem read?_bind_word32? (s : FlashStore φ) (item : UInt8) :
    (s.read? true item).bind word32? = (Medium.fetch? s.flash item).bind word32? := by
  rw [read?, if_pos rfl]
  cases Medium.fetch? s.flash item with
  | none => rfl
  | some bytes =>
    rw [Option.filter_some]
    split
    · rfl
    · next hlong =>
      rw [decide_eq_true_eq] at hlong
      cases hword : word32? bytes with
      | none => exact hword.symm
      | some word =>
        rw [length_of_word32? hword] at hlong
        exact absurd (by decide) hlong

/-- Loading the word of a key sets it if flash holds one. -/
theorem get_loadWord {k : WordKey} (hk : k ∈ WordKey.all layerSlots) (s : FlashStore φ) :
    (s.loadWord true k).flash = s.flash ∧ (s.loadWord true k).cache.dirty = s.cache.dirty ∧
      ∀ l, (s.loadWord true k).cache.get l =
        if l = k then ((Medium.fetch? s.flash k.item).bind word32?).or (s.cache.get k)
        else s.cache.get l := by
  rw [loadWord, read?_bind_word32?]
  cases (Medium.fetch? s.flash k.item).bind word32? with
  | none =>
    refine ⟨rfl, rfl, fun l => ?_⟩
    change s.cache.get l = _
    by_cases hl : l = k
    · rw [if_pos hl, hl, Option.none_or]
    · rw [if_neg hl]
  | some word =>
    obtain ⟨d, hd, hget, hdirty⟩ := Cache.restore_eq_ok s.cache word hk
    simp only [hd]
    exact ⟨trivial, hdirty, hget⟩

theorem get_foldl_loadWord (keys : List WordKey) (hkeys : ∀ k ∈ keys, k ∈ WordKey.all layerSlots)
    (s : FlashStore φ) :
    (keys.foldl (fun s k => s.loadWord true k) s).flash = s.flash ∧
      (keys.foldl (fun s k => s.loadWord true k) s).cache.dirty = s.cache.dirty ∧
      ∀ l, (keys.foldl (fun s k => s.loadWord true k) s).cache.get l =
        if l ∈ keys then ((Medium.fetch? s.flash l.item).bind word32?).or (s.cache.get l)
        else s.cache.get l := by
  induction keys generalizing s with
  | nil => exact ⟨rfl, rfl, fun _ => rfl⟩
  | cons k keys ih =>
    obtain ⟨hflash, hdirty, hget⟩ := get_loadWord (hkeys k List.mem_cons_self) s
    obtain ⟨hflash', hdirty', hget'⟩ :=
      ih (fun l hl => hkeys l (List.mem_cons_of_mem _ hl)) (s.loadWord true k)
    refine ⟨hflash'.trans hflash, hdirty'.trans hdirty, fun l => ?_⟩
    rw [List.foldl_cons, hget', hflash, hget]
    -- A word that is read twice is the same word.
    by_cases hlk : l = k
    · subst hlk
      cases (Medium.fetch? s.flash l.item).bind word32? with
      | none => simp
      | some word => simp
    · simp [hlk]

theorem load_nil (s : FlashStore φ) :
    (s.load []).1 = (WordKey.all layerSlots).foldl (fun s k => s.loadWord true k) s := by
  simp only [load, List.contains_nil, Bool.not_false]

theorem load_eq (f : φ) :
    ((mount f).load []).1.flash = f ∧ ((mount f).load []).1.cache.dirty = 0 ∧
      ∀ k, ((mount f).load []).1.cache.get k =
        if k ∈ WordKey.all layerSlots then Medium.word? f k else none := by
  obtain ⟨hflash, hdirty, hget⟩ :=
    get_foldl_loadWord (WordKey.all layerSlots) (fun _ hk => hk) (mount f)
  rw [load_nil]
  refine ⟨hflash, hdirty, fun k => ?_⟩
  rw [hget]
  split
  · cases k with
    | keyboard =>
      change ((Medium.fetch? f _).bind word32?).or none = _
      rw [Option.or_none, Medium.word?, if_neg (by simp)]
    | layout =>
      change ((Medium.fetch? f _).bind word32?).or (some 0) =
        some (((Medium.fetch? f _).bind word32?).getD 0)
      cases (Medium.fetch? f WordKey.layout.item).bind word32? with
      | none => rfl
      | some word => rfl
    | layer n =>
      have hnone : (mount f).cache.get (.layer n) = none := by
        by_cases hn : n.toNat < layerSlots
        · simp [mount, Cache.get, Cache.empty, hn]
        · simp [mount, Cache.get, Cache.empty, hn]
      rw [hnone, Option.or_none, mount, Medium.word?, if_neg (by simp)]
  · next hk => exact Cache.get_eq_none hk

/-- After loading, the cache is the content of flash. -/
theorem synced_load (f : φ) : ((mount f).load []).1.Synced := by
  obtain ⟨hflash, hdirty, hget⟩ := load_eq f
  have hunmarked : ∀ k, ((mount f).load []).1.cache.isMarked k = false := by
    intro k
    rw [Cache.isMarked, hdirty]
    exact BitVec.getLsbD_zero
  refine ⟨⟨fun k hk => ?_, fun k hk => ?_⟩, fun k hk _ => ?_⟩
  · rw [hunmarked k] at hk
    cases hk
  · rw [hunmarked k] at hk
    cases hk
  · rw [hget, if_pos hk, hflash]

/-! ## Writing and flushing -/

/-- The store after a write, or the same store if the write was refused. -/
def conclude (s : FlashStore φ) : Except StorageError (FlashStore φ) → FlashStore φ
  | .ok t => t
  | .error _ => s

def perform (s : FlashStore φ) : StoreOp → FlashStore φ
  | .putKeyboard word => s.conclude (SettingsStore.putKeyboardWord s word)
  | .putLayout word => SettingsStore.putLayoutWord s word
  | .putLayer n word => s.conclude (SettingsStore.putLayerWord s n word)
  | .flush faults => (s.flush faults).1

def run (s : FlashStore φ) (ops : List StoreOp) : FlashStore φ := ops.foldl perform s

/-- Writes go to the cache alone. -/
def put (s : FlashStore φ) (k : WordKey) (word : UInt32) : FlashStore φ :=
  s.conclude ((s.cache.put k word).map fun cache => { s with cache := cache })

theorem perform_putLayout (s : FlashStore φ) (word : UInt32) :
    s.perform (.putLayout word) = s.put .layout word := by
  rw [put, Cache.put_layout]
  rfl

omit [Medium φ] in
theorem flash_put (s : FlashStore φ) (k : WordKey) (word : UInt32) :
    (s.put k word).flash = s.flash := by
  unfold put
  cases s.cache.put k word with
  | ok c => rfl
  | error e => rfl

theorem Synced.put (hs : s.Synced) (k : WordKey) (word : UInt32) : (s.put k word).Synced := by
  by_cases hk : k ∈ WordKey.all layerSlots
  · obtain ⟨d, hd, hmarked, hget, hmark⟩ := Cache.put_eq_ok (by decide) hs.marked word hk
    rw [FlashStore.put, hd]
    refine ⟨hmarked, fun l hl hclean => ?_⟩
    change d.isMarked l = false at hclean
    rw [hmark, Bool.or_eq_false_iff, decide_eq_false_iff_not] at hclean
    change d.get l = Medium.word? s.flash l
    rw [hget, ← hs.clean l hl hclean.1]
    -- A word that is written and stays clean was there before.
    split
    · next hlk =>
      subst hlk
      exact (not_not.mp fun hne => hclean.2 ⟨rfl, hne⟩).symm
    · rfl
  · rw [FlashStore.put, Cache.put_eq_error hk]
    exact hs

/-- The medium once the first `n` pending words are stored and the store of the next one, if there
is one, has failed. -/
def flushed (s : FlashStore φ) (n : Nat) : φ :=
  let stored := Medium.storeWords s.flash (s.cache.pending.take n)
  match s.cache.pending[n]? with
  | none => stored
  | some p => Medium.store stored p.1.item (bytes32 p.2) true

theorem flushed_of_nil (h : s.cache.pending = []) (n : Nat) : s.flushed n = s.flash := by
  simp [flushed, h, Medium.storeWords]

theorem flushed_of_cons {k : WordKey} {word : UInt32} {later : List (WordKey × UInt32)}
    (h : s.cache.pending = (k, word) :: later) :
    s.flushed 0 = Medium.store s.flash k.item (bytes32 word) true ∧
      ∀ (c : Cache layerSlots) (n : Nat), c.pending = later →
        flushed ⟨Medium.store s.flash k.item (bytes32 word) false, c⟩ n = s.flushed (n + 1) := by
  refine ⟨by simp [flushed, h, Medium.storeWords], fun c n hc => ?_⟩
  simp [flushed, h, hc, Medium.storeWords_cons]

theorem fetch?_flushed (s : FlashStore φ) (n : Nat) (item : UInt8) :
    Medium.fetch? (s.flushed n) item =
      Medium.fetch? (Medium.storeWords s.flash (s.cache.pending.take n)) item := by
  unfold flushed
  split
  · rfl
  · exact Medium.fetch?_store_of_fails _ _ _ _

/-- A flush persists the pending words before the first failure. -/
theorem flushRounds_eq (hs : s.cache.Marked) (faults : Faults) {rounds : Nat}
    (hrounds : s.cache.pending.length ≤ rounds) :
    let n := faults.successes s.cache.pending.length
    s.flushRounds faults rounds =
      (⟨s.flushed n, (s.cache.takeDirty n).2⟩,
        (s.cache.pending.take n).map fun p => .stored p.1.item (bytes32 p.2),
        if n < s.cache.pending.length then .error .io else .ok ()) := by
  have hlayers : layerSlots ≤ 30 := by decide
  induction rounds generalizing s faults with
  | zero =>
    have hnil : s.cache.pending = [] := List.length_eq_zero_iff.mp (Nat.le_zero.mp hrounds)
    have hn : faults.successes 0 = 0 := Nat.le_zero.mp (faults.successes_le 0)
    simp only [flushed_of_nil hnil, hnil, List.length_nil, hn]
    rfl
  | succ rounds ih =>
    have hnext := Cache.nextDirty?_eq hlayers hs
    cases hpending : s.cache.pending with
    | nil =>
      have hn : faults.successes 0 = 0 := Nat.le_zero.mp (faults.successes_le 0)
      rw [hpending] at hnext
      simp only [flushRounds, hnext, flushed_of_nil hpending, List.head?_nil, List.length_nil, hn]
      rfl
    | cons p later =>
      obtain ⟨k, word⟩ := p
      obtain ⟨hrefused, hstored⟩ := flushed_of_cons hpending
      rw [hpending] at hnext
      simp only [flushRounds, hnext, List.head?_cons, List.length_cons, Faults.successes_succ]
      split
      · next hfails =>
        rw [hrefused, hfails]
        rfl
      · next hfails =>
        -- The word is stored and its key marked clean: what is left is the rest of the list.
        have hlater := Cache.pending_markClean hlayers hs hpending
        have hrest := ih
          (s := ⟨Medium.store s.flash k.item (bytes32 word) false, s.cache.markClean k⟩)
          (hs.markClean k) faults.rest (by
            rw [hpending] at hrounds
            simpa only [hlater] using Nat.le_of_succ_le_succ hrounds)
        simp only [hlater, hstored _ _ hlater] at hrest
        simp only [Bool.eq_false_iff.mpr hfails, hrest, Cache.takeDirty, hnext, List.head?_cons,
          List.take_succ_cons, List.map_cons, Nat.add_lt_add_iff_right]

omit [Medium φ] in
theorem length_pending_le (hs : s.cache.Marked) : s.cache.pending.length ≤ Cache.allRounds := by
  rw [← List.length_map (f := Prod.fst), Cache.map_fst_pending hs]
  exact Nat.le_trans (List.length_filter_le _ _) (by decide)

theorem flush_eq (hs : s.cache.Marked) (faults : Faults) :
    let n := faults.successes s.cache.pending.length
    s.flush faults =
      (⟨s.flushed n, (s.cache.takeDirty n).2⟩,
        (s.cache.pending.take n).map fun p => .stored p.1.item (bytes32 p.2),
        if n < s.cache.pending.length then .error .io else .ok ()) :=
  flushRounds_eq hs faults (length_pending_le hs)

omit [Medium φ] in
theorem nodup_items_pending (hs : s.cache.Marked) :
    (s.cache.pending.map fun p => p.1.item).Nodup := by
  have hnodup := Cache.nodup_pending (by decide) hs
  change (s.cache.pending.map (WordKey.item ∘ Prod.fst)).Nodup
  rw [← List.map_map]
  have hheld : ∀ k ∈ s.cache.pending.map Prod.fst, k ∈ WordKey.all layerSlots :=
    fun k hk => hs.held k ((Cache.isMarked_iff_mem_pending hs k).mpr hk)
  exact hnodup.map_on fun k hk l hl => WordKey.item_injOn (by decide) (hheld k hk) (hheld l hl)

/-- The first `n` pending words have reached flash, and nothing else has changed there. -/
theorem items_flushed (hs : s.cache.Marked) (n : Nat) :
    (∀ p ∈ s.cache.pending.take n,
      Medium.fetch? (s.flushed n) p.1.item = some (bytes32 p.2)) ∧
    ∀ item, (∀ p ∈ s.cache.pending.take n, p.1.item ≠ item) →
      Medium.fetch? (s.flushed n) item = Medium.fetch? s.flash item := by
  have hnodup := nodup_items_pending hs
  rw [← List.take_append_drop n s.cache.pending, List.map_append] at hnodup
  simp only [fetch?_flushed]
  exact ⟨fun p hp => Medium.fetch?_storeWords_of_mem (List.nodup_append.mp hnodup).1 hp,
    fun item h => Medium.fetch?_storeWords_of_notMem h⟩

theorem Synced.flush (hs : s.Synced) (faults : Faults) : (s.flush faults).1.Synced := by
  rw [flush_eq hs.marked]
  generalize faults.successes s.cache.pending.length = n
  obtain ⟨-, hleft, hmarked, hget⟩ := Cache.takeDirty_eq (by decide) hs.marked n
  obtain ⟨hstored, hothers⟩ := items_flushed hs.marked n
  refine ⟨hmarked, fun k hk hclean => ?_⟩
  change (s.cache.takeDirty n).2.get k = Medium.word? (s.flushed n) k
  rw [hget]
  by_cases hmem : ∃ p ∈ s.cache.pending.take n, p.1 = k
  · obtain ⟨p, hp, rfl⟩ := hmem
    rw [Medium.word?_of_fetch? (hstored p hp)]
    exact (Cache.get_of_mem_pending (List.mem_of_mem_take hp)).1
  · -- A key that is clean after the flush and was not flushed was clean before.
    have hbefore : s.cache.isMarked k = false := by
      rw [← Bool.not_eq_true, Cache.isMarked_iff_mem_pending hs.marked,
        ← List.take_append_drop n s.cache.pending, List.map_append, List.mem_append, not_or]
      refine ⟨fun h => hmem (List.mem_map.mp h), ?_⟩
      rw [← hleft, ← Cache.isMarked_iff_mem_pending hmarked]
      exact Bool.not_eq_true _ ▸ hclean
    rw [hs.clean k hk hbefore]
    refine (Medium.word?_congr (hothers k.item fun p hp heq => hmem ⟨p, hp, ?_⟩)).symm
    have hheld := hs.marked.held p.1 (Cache.get_of_mem_pending (List.mem_of_mem_take hp)).2
    exact WordKey.item_injOn (by decide) hheld hk heq

theorem Synced.perform (hs : s.Synced) (op : StoreOp) : (s.perform op).Synced := by
  cases op with
  | putKeyboard word => exact hs.put .keyboard word
  | putLayout word => exact perform_putLayout s word ▸ hs.put .layout word
  | putLayer n word => exact hs.put (.layer n) word
  | flush faults => exact hs.flush faults

theorem Synced.run (hs : s.Synced) (ops : List StoreOp) : (s.run ops).Synced := by
  induction ops generalizing s with
  | nil => exact hs
  | cons op ops ih => exact ih (hs.perform op)

/-- An item changes only when the word of its key was marked. -/
theorem fetch?_perform (hs : s.cache.Marked) (op : StoreOp) {item : UInt8}
    (h : ∀ k, s.cache.isMarked k = true → k.item ≠ item) :
    Medium.fetch? (s.perform op).flash item = Medium.fetch? s.flash item := by
  cases op with
  | putKeyboard word => exact congrArg (Medium.fetch? · item) (s.flash_put .keyboard word)
  | putLayout word =>
    rw [perform_putLayout]
    exact congrArg (Medium.fetch? · item) (s.flash_put .layout word)
  | putLayer n word => exact congrArg (Medium.fetch? · item) (s.flash_put (.layer n) word)
  | flush faults =>
    change Medium.fetch? (s.flush faults).1.flash item = _
    rw [flush_eq hs]
    refine (items_flushed hs _).2 item fun p hp => h p.1 ?_
    exact (Cache.get_of_mem_pending (List.mem_of_mem_take hp)).2

/-- A flush that fails after `n` words leaves the store cut at this point: the words before it are
safe, the others are still to be persisted. -/
theorem flush_interrupted (hs : s.Synced) (faults : Faults)
    (hfew : faults.successes s.cache.pending.length < s.cache.pending.length) :
    let t := (s.flush faults).1
    ∃ saved next later, s.cache.pending = saved ++ next :: later ∧
      faults.runs.head? = some saved.length ∧
      (s.flush faults).2.1 = saved.map (fun p => .stored p.1.item (bytes32 p.2)) ∧
      (∀ p ∈ saved, Medium.word? t.flash p.1 = some p.2 ∧ t.cache.isMarked p.1 = false) ∧
      t.cache.pending = next :: later ∧
      ∀ p ∈ next :: later, t.cache.isMarked p.1 = true ∧
        Medium.fetch? t.flash p.1.item = Medium.fetch? s.flash p.1.item := by
  have hrefused := Faults.head?_runs hfew
  rw [flush_eq hs.marked]
  generalize faults.successes s.cache.pending.length = n at hfew hrefused ⊢
  obtain ⟨-, hleft, hmarked, -⟩ := Cache.takeDirty_eq (by decide) hs.marked n
  obtain ⟨hstored, hothers⟩ := items_flushed hs.marked n
  -- No key is pending twice, so those before the failure and those after it are apart.
  have hkeys := Cache.nodup_pending (by decide) hs.marked
  have hitems := nodup_items_pending hs.marked
  rw [← List.take_append_drop n s.cache.pending, List.map_append, List.nodup_append]
    at hkeys hitems
  obtain ⟨-, -, hkeys⟩ := hkeys
  obtain ⟨-, -, hitems⟩ := hitems
  have hsplit := List.drop_eq_getElem_cons hfew
  refine ⟨s.cache.pending.take n, s.cache.pending[n], s.cache.pending.drop (n + 1), ?_, ?_, rfl,
    fun p hp => ⟨?_, ?_⟩, hleft.trans hsplit, fun p hp => ⟨?_, ?_⟩⟩
  · rw [← hsplit, List.take_append_drop]
  · rw [List.length_take, Nat.min_eq_left (Nat.le_of_lt hfew)]
    exact hrefused
  · exact Medium.word?_of_fetch? (hstored p hp)
  · rw [← Bool.not_eq_true, Cache.isMarked_iff_mem_pending hmarked, hleft]
    exact fun hmem => hkeys p.1 (List.mem_map_of_mem hp) p.1 hmem rfl
  · rw [Cache.isMarked_iff_mem_pending hmarked, hleft, hsplit]
    exact List.mem_map_of_mem hp
  · refine hothers _ fun q hq => hitems q.1.item (List.mem_map.mpr ⟨q, hq, rfl⟩) _ ?_
    rw [hsplit]
    exact List.mem_map.mpr ⟨p, hp, rfl⟩

/-- A flush that gets through leaves nothing to be persisted, and flash then holds every word. -/
theorem flush_complete (hs : s.Synced) (faults : Faults)
    (hall : s.cache.pending.length ≤ faults.successes s.cache.pending.length) :
    let t := (s.flush faults).1
    t.cache.isDirty = false ∧ ∀ k, ((mount t.flash).load []).1.cache.get k = t.cache.get k := by
  intro t
  have ht : t.Synced := hs.flush faults
  have hnone : t.cache.pending = [] := by
    simp only [t, flush_eq hs.marked]
    rw [(Cache.takeDirty_eq (by decide) hs.marked _).2.1]
    exact List.drop_eq_nil_iff.mpr hall
  refine ⟨?_, fun k => ?_⟩
  · rw [← Bool.not_eq_true, Cache.isDirty_iff (by decide) ht.marked, not_not, hnone]
  · rw [(load_eq t.flash).2.2]
    split
    · next hk =>
      refine (ht.clean k hk ?_).symm
      rw [← Bool.not_eq_true, Cache.isMarked_iff_mem_pending ht.marked, hnone]
      simp
    · next hk => exact (Cache.get_eq_none hk).symm

/-- **Words survive failures of flash.**  Load a store from any flash, or another medium, and do
anything to it.  Then the word of every key without a mark is the one in flash, and its item is left
alone, as are the items of no key.  A flush changes no word.  If it succeeds, nothing is marked, and
a store that loads what flash holds then has the same words.  If it fails, the pending words before
the first refused one are in flash and clean; that one and the later ones are marked still, their
items untouched. -/
theorem run_persists (f : φ) (ops : List StoreOp) :
    let s := ((mount f).load []).1.run ops
    (∀ k ∈ WordKey.all layerSlots, s.cache.isMarked k = false →
      s.cache.get k = Medium.word? s.flash k) ∧
    (∀ op, (∀ k ∈ WordKey.all layerSlots, s.cache.isMarked k = false →
        Medium.fetch? (s.perform op).flash k.item = Medium.fetch? s.flash k.item) ∧
      ∀ item, item ∉ (WordKey.all layerSlots).map WordKey.item →
        Medium.fetch? (s.perform op).flash item = Medium.fetch? s.flash item) ∧
    ∀ faults,
      let t := (s.flush faults).1
      let result := (s.flush faults).2.2
      (∀ k, t.cache.get k = s.cache.get k) ∧
      (result = .ok () → t.cache.isDirty = false ∧
        ∀ k, ((mount t.flash).load []).1.cache.get k = s.cache.get k) ∧
      ∀ e, result = .error e → e = .io ∧
        ∃ saved next later, s.cache.pending = saved ++ next :: later ∧
          faults.runs.head? = some saved.length ∧
          (s.flush faults).2.1 = saved.map (fun p => .stored p.1.item (bytes32 p.2)) ∧
          (∀ p ∈ saved, Medium.word? t.flash p.1 = some p.2 ∧ t.cache.isMarked p.1 = false) ∧
          t.cache.pending = next :: later ∧
          ∀ p ∈ next :: later, t.cache.isMarked p.1 = true ∧
            Medium.fetch? t.flash p.1.item = Medium.fetch? s.flash p.1.item := by
  intro s
  have hs : s.Synced := (synced_load f).run ops
  refine ⟨hs.clean, fun op => ⟨fun k hk hclean => ?_, fun item hitem => ?_⟩, fun faults => ?_⟩
  · refine fetch?_perform hs.marked op fun l hl heq => ?_
    rw [WordKey.item_injOn (by decide) (hs.marked.held l hl) hk heq, hclean] at hl
    cases hl
  · refine fetch?_perform hs.marked op fun l hl heq => hitem ?_
    exact heq ▸ List.mem_map_of_mem (hs.marked.held l hl)
  intro t result
  have hresult : result = if faults.successes s.cache.pending.length < s.cache.pending.length
      then .error .io else .ok () := by
    simp only [result, flush_eq hs.marked faults]
  have hwords : ∀ k, t.cache.get k = s.cache.get k := by
    intro k
    simp only [t, flush_eq hs.marked faults]
    exact (Cache.takeDirty_eq (by decide) hs.marked _).2.2.2 k
  refine ⟨hwords, fun hok => ?_, fun e herror => ?_⟩
  · split at hresult
    · rw [hresult] at hok
      cases hok
    · next hall =>
      obtain ⟨hclean, hreload⟩ := flush_complete hs faults (Nat.not_lt.mp hall)
      exact ⟨hclean, fun k => (hreload k).trans (hwords k)⟩
  · split at hresult
    · next hfew =>
      rw [hresult] at herror
      cases herror
      exact ⟨rfl, flush_interrupted hs faults hfew⟩
    · rw [hresult] at herror
      cases herror

/-- The layout options and then the settings are written, and flash refuses the second item.  The
settings come first in key order, so they are in flash; the layout options are still to be
persisted, and flash holds none. -/
theorem run_persists_up_to_refusal :
    let s := ((mount Flash.empty).load []).1.run [.putLayout 3, .putKeyboard 5]
    let t := (s.flush (.after 1)).1
    s.cache.pending = [(.keyboard, 5), (.layout, 3)] ∧ (s.flush (.after 1)).2.2 = .error .io ∧
      Medium.word? t.flash .keyboard = some 5 ∧ t.cache.pending = [(.layout, 3)] ∧
      Medium.fetch? t.flash WordKey.layout.item = none := by
  intro s t
  have hflush := (run_persists Flash.empty [.putLayout 3, .putKeyboard 5]).2.2 (.after 1)
  -- The abbreviations are written out on both sides, so that nothing is run to compare them.
  dsimp only at hflush
  dsimp only [t, s]
  obtain ⟨-, saved, next, later, hsplit, hcount, -, hsaved, hleft, hmarked⟩ :=
    hflush.2.2 .io (by decide)
  have hone : 1 = saved.length := Option.some.inj hcount
  obtain ⟨first, rfl⟩ := List.length_eq_one_iff.mp hone.symm
  have hpending : [(.keyboard, 5), (.layout, 3)] = first :: next :: later :=
    Eq.trans (by decide) hsplit
  obtain ⟨rfl, hnext⟩ := List.cons.inj hpending
  obtain ⟨rfl, rfl⟩ := List.cons.inj hnext
  exact ⟨hsplit, by decide, (hsaved _ List.mem_cons_self).1, hleft,
    (hmarked _ List.mem_cons_self).2.trans (by decide)⟩

end FlashStore

end TwinBall
