import Mathlib.Data.List.Dedup
import Mathlib.Data.List.DropRight
import TagHighlight.Cache.LineCache
import TagHighlight.Proofs.Cache.Lru

/-!
# A cache holds what was used last

What a cache has done is a list of events, the oldest first. It tells which keys have been used since
the last clear, by a store or by a look-up that found a value, and what was stored under each of them
last. Without a look at the queue of the cache this says what the cache holds: of the used keys, each
at the place of its last use, the last ones up to the capacity (`recent`), with the values stored last
under them (`latest`).

A use of a key moves it to the end of the used keys, and it does the same to the last of them
(`rtake_moveToEnd`); so each operation keeps `Recalls`, and every run does.
-/

namespace TagHighlight

namespace Lru

section
variable {κ α : Type}

/-! ### Operations and events -/

inductive Op (κ α : Type)
  | get (k : κ)
  | put (k : κ) (v : α)
  | clear

inductive Event (κ α : Type)
  | got (k : κ) (answer : Option α)
  | stored (k : κ) (v : α)
  | cleared

namespace Event

def isCleared : Event κ α → Bool
  | cleared => true
  | _ => false

/-- The key that is used: by a store, or by a look-up that finds a value. -/
def used? : Event κ α → Option κ
  | got k (some _) => some k
  | stored k _ => some k
  | _ => none

def isHit : Event κ α → Bool
  | got _ answer => answer.isSome
  | _ => false

def isMiss : Event κ α → Bool
  | got _ answer => answer.isNone
  | _ => false

theorem isCleared_of_used {e : Event κ α} {k : κ} (h : e.used? = some k) : e.isCleared = false := by
  cases e with
  | got _ _ => rfl
  | stored _ _ => rfl
  | cleared => cases h

end Event

def sinceClear (es : List (Event κ α)) : List (Event κ α) := es.rtakeWhile fun e => !e.isCleared

theorem sinceClear_concat (es : List (Event κ α)) {e : Event κ α} (h : e.isCleared = false) :
    sinceClear (es ++ [e]) = sinceClear es ++ [e] :=
  List.rtakeWhile_concat_pos _ _ _ (by simp [h])

theorem sinceClear_cleared (es : List (Event κ α)) : sinceClear (es ++ [.cleared]) = [] :=
  List.rtakeWhile_concat_neg _ _ _ (by simp [Event.isCleared])

def hitCount (es : List (Event κ α)) : Nat := (sinceClear es).countP Event.isHit

def missCount (es : List (Event κ α)) : Nat := (sinceClear es).countP Event.isMiss

end

variable {κ α : Type} [DecidableEq κ]

def perform (c : Lru κ α) : Op κ α → Event κ α × Lru κ α
  | .get k => (.got k (c.get k).1, (c.get k).2)
  | .put k v => (.stored k v, (c.put k v).2)
  | .clear => (.cleared, c.clear)

def performAll (c : Lru κ α) : List (Op κ α) → List (Event κ α) × Lru κ α
  | [] => ([], c)
  | op :: ops =>
    let first := c.perform op
    let rest := performAll first.2 ops
    (first.1 :: rest.1, rest.2)

/-! ### What events tell -/

/-- The value that is stored under a key. -/
def Event.storedAt? (k : κ) : Event κ α → Option α
  | stored j v => if j = k then some v else none
  | _ => none

/-- The last `n` different keys that have been used since the last clear, in the order of their last
uses: `dedup` leaves the last one of several uses of a key. -/
def recent (n : Nat) (es : List (Event κ α)) : List κ :=
  ((sinceClear es).filterMap Event.used?).dedup.rtake n

/-- What was stored last under a key since the last clear. -/
def latest (k : κ) (es : List (Event κ α)) : Option α :=
  ((sinceClear es).filterMap (Event.storedAt? k)).getLast?

/-- The cache is as the events tell. -/
structure Recalls (es : List (Event κ α)) (c : Lru κ α) : Prop where
  entries_eq : c.entries.map (fun e => (e.1, some e.2)) =
    (recent c.capacity es).map fun k => (k, latest k es)
  hits_eq : c.hits = hitCount es
  misses_eq : c.misses = missCount es

/-! ### A key is moved to the end -/

def moveToEnd (k : κ) (ks : List κ) : List κ := ks.filter (· ≠ k) ++ [k]

theorem dedup_concat (ks : List κ) (k : κ) : (ks ++ [k]).dedup = moveToEnd k ks.dedup := by
  induction ks with
  | nil => rfl
  | cons j ks ih =>
    rw [List.cons_append, List.dedup_cons, List.dedup_cons, ih, moveToEnd, moveToEnd]
    by_cases hj : j ∈ ks
    · rw [if_pos hj, if_pos (List.mem_append_left _ hj)]
    · by_cases hk : j = k
      · rw [if_neg hj, if_pos (by simp [hk]), List.filter_cons_of_neg (by simp [hk])]
      · rw [if_neg hj, if_neg (by simp [hj, hk]), List.filter_cons_of_pos (by simpa using hk),
          List.cons_append]

theorem length_moveToEnd (k : κ) {ks : List κ} (h : ks.Nodup) :
    (moveToEnd k ks).length = if k ∈ ks then ks.length else ks.length + 1 := by
  have herase : ks.filter (· ≠ k) = ks.erase k := by
    rw [h.erase_eq_filter]
    exact List.filter_congr fun j _ => by by_cases hj : j = k <;> simp [hj]
  rw [moveToEnd, herase, List.length_append, List.length_singleton, List.length_erase]
  split
  · rename_i hk
    have hpos := List.length_pos_of_mem hk
    omega
  · rfl

theorem length_le_length_moveToEnd (k : κ) {ks : List κ} (h : ks.Nodup) :
    ks.length ≤ (moveToEnd k ks).length := by
  rw [length_moveToEnd k h]
  split
  · exact Nat.le_refl _
  · exact Nat.le_succ _

theorem rtake_append_of_le {β : Type} {n : Nat} {bs : List β} (h : n ≤ bs.length) (as : List β) :
    (as ++ bs).rtake n = bs.rtake n := by
  rw [List.rtake, List.rtake, List.length_append, List.drop_append, List.drop_eq_nil_of_le (by omega),
    List.nil_append]
  congr 1
  omega

theorem rtake_moveToEnd (n : Nat) (k : κ) {ks : List κ} (h : ks.Nodup) :
    (moveToEnd k ks).rtake n = (moveToEnd k (ks.rtake n)).rtake n := by
  by_cases hn : n ≤ ks.length
  · have hparts : ks.take (ks.length - n) ++ ks.rtake n = ks := List.take_append_drop _ _
    have hlast : (ks.rtake n).Nodup := h.sublist (List.drop_sublist _ _)
    have hlength : (ks.rtake n).length = n := by rw [List.rtake, List.length_drop]; omega
    have hle := length_le_length_moveToEnd k hlast
    conv => lhs; rw [← hparts]
    rw [moveToEnd, List.filter_append, List.append_assoc]
    exact rtake_append_of_le (by rwa [hlength] at hle) _
  · have hall : ks.rtake n = ks := by rw [List.rtake, show ks.length - n = 0 by omega, List.drop_zero]
    rw [hall]

/-! ### One more event -/

section
variable {e : Event κ α} {k : κ} {v : α} {n : Nat}

theorem recent_concat_of_used (es : List (Event κ α)) (h : e.used? = some k) :
    recent n (es ++ [e]) = (moveToEnd k (recent n es)).rtake n := by
  have huse : [e].filterMap Event.used? = [k] := by simp [h]
  rw [recent, sinceClear_concat es (Event.isCleared_of_used h), List.filterMap_append, huse, dedup_concat,
    rtake_moveToEnd n k (List.nodup_dedup _)]
  rfl

theorem recent_missed (es : List (Event κ α)) : recent n (es ++ [.got k none]) = recent n es := by
  have huse : [Event.got k (none : Option α)].filterMap Event.used? = [] := rfl
  rw [recent, sinceClear_concat es rfl, List.filterMap_append, huse, List.append_nil]
  rfl

theorem recent_cleared (es : List (Event κ α)) : recent n (es ++ [.cleared]) = [] := by
  rw [recent, sinceClear_cleared]
  simp

theorem latest_stored (es : List (Event κ α)) : latest k (es ++ [.stored k v]) = some v := by
  rw [latest, sinceClear_concat es rfl, List.filterMap_append]
  simp [Event.storedAt?]

theorem latest_stored_of_ne (es : List (Event κ α)) {j : κ} (h : j ≠ k) :
    latest j (es ++ [.stored k v]) = latest j es := by
  rw [latest, sinceClear_concat es rfl, List.filterMap_append]
  simp [Event.storedAt?, latest, Ne.symm h]

theorem latest_got (es : List (Event κ α)) (answer : Option α) (j : κ) :
    latest j (es ++ [.got k answer]) = latest j es := by
  rw [latest, sinceClear_concat es rfl, List.filterMap_append]
  simp [Event.storedAt?, latest]

end

/-! ### Operations keep the account -/

variable {c : Lru κ α} {es : List (Event κ α)} {k : κ} {v : α}

theorem entries_put_eq_rtake (c : Lru κ α) (k : κ) (v : α) :
    (c.put k v).2.entries = (useKey k v c.entries).rtake c.capacity := by
  have hle := length_eraseKey_le k c.entries
  have hcapacity := c.length_le
  have hused := length_useKey k v c.entries
  rw [entries_put, List.rtake]
  split
  · rw [show (useKey k v c.entries).length - c.capacity = 0 by omega, List.drop_zero]
  · rw [show (useKey k v c.entries).length - c.capacity = 1 by omega, List.drop_one]

theorem entries_get_eq_rtake (h : c.entries.lookup k = some v) :
    (c.get k).2.entries = (useKey k v c.entries).rtake c.capacity := by
  have hlt := length_eraseKey_lt h
  have hcapacity := c.length_le
  have hused := length_useKey k v c.entries
  rw [entries_get_of_some h, List.rtake,
    show (useKey k v c.entries).length - c.capacity = 0 by omega, List.drop_zero]

theorem map_useKey {entries : List (κ × α)} {ks : List κ} {f g : κ → Option α}
    (h : entries.map (fun e => (e.1, some e.2)) = ks.map fun j => (j, f j)) (hk : g k = some v)
    (hne : ∀ j, j ≠ k → g j = f j) :
    (useKey k v entries).map (fun e => (e.1, some e.2)) = (moveToEnd k ks).map fun j => (j, g j) := by
  have hfilter := congrArg (List.filter fun e => e.1 ≠ k) h
  rw [List.filter_map, List.filter_map] at hfilter
  have hkept : (ks.filter (· ≠ k)).map (fun j => (j, f j)) =
      (ks.filter (· ≠ k)).map fun j => (j, g j) := by
    refine List.map_congr_left fun j hj => ?_
    rw [hne j (by simpa using (List.mem_filter.1 hj).2)]
  rw [useKey, moveToEnd, List.map_append, List.map_append, ← hkept]
  exact congrArg₂ (· ++ ·) hfilter (by simp [hk])

theorem Recalls.entries_of_used {e : Event κ α} {c' : Lru κ α} (h : c.Recalls es)
    (hcapacity : c'.capacity = c.capacity)
    (hentries : c'.entries = (useKey k v c.entries).rtake c.capacity) (hused : e.used? = some k)
    (hk : latest k (es ++ [e]) = some v) (hne : ∀ j, j ≠ k → latest j (es ++ [e]) = latest j es) :
    c'.entries.map (fun e => (e.1, some e.2)) =
      (recent c'.capacity (es ++ [e])).map fun k => (k, latest k (es ++ [e])) := by
  have hmap := map_useKey h.entries_eq hk hne
  rw [hentries, hcapacity, recent_concat_of_used es hused, List.rtake, List.rtake, List.map_drop,
    List.map_drop, hmap, ← List.length_map (f := fun e : κ × α => (e.1, some e.2)), hmap,
    List.length_map]

/-! ### What an operation does besides -/

theorem hits_get (c : Lru κ α) (k : κ) :
    (c.get k).2.hits = c.hits + if (c.get k).1.isSome then 1 else 0 := by
  unfold get
  split
  · rfl
  · rfl

theorem misses_get (c : Lru κ α) (k : κ) :
    (c.get k).2.misses = c.misses + if (c.get k).1.isNone then 1 else 0 := by
  unfold get
  split
  · rfl
  · rfl

theorem capacity_get (c : Lru κ α) (k : κ) : (c.get k).2.capacity = c.capacity := by
  unfold get
  split
  · rfl
  · rfl

theorem put_frame (c : Lru κ α) (k : κ) (v : α) :
    (c.put k v).2.capacity = c.capacity ∧ (c.put k v).2.hits = c.hits ∧
      (c.put k v).2.misses = c.misses := by
  unfold put
  dsimp only
  split
  · exact ⟨rfl, rfl, rfl⟩
  · exact ⟨rfl, rfl, rfl⟩

theorem capacity_perform (c : Lru κ α) (op : Op κ α) : (c.perform op).2.capacity = c.capacity := by
  cases op with
  | get k => exact capacity_get c k
  | put k v => exact (put_frame c k v).1
  | clear => rfl

/-! ### Runs -/

theorem recalls_empty {n : Nat} (h : 0 < n) : (empty n h : Lru κ α).Recalls [] where
  entries_eq := by simp [empty, recent, sinceClear]
  hits_eq := by simp [empty, hitCount, sinceClear]
  misses_eq := by simp [empty, missCount, sinceClear]

theorem Recalls.latest_of_lookup (h : c.Recalls es) (hk : c.entries.lookup k = some v) :
    latest k es = some v := by
  have hmem := List.mem_map_of_mem (f := fun e : κ × α => (e.1, some e.2)) (mem_of_lookup hk)
  rw [h.entries_eq] at hmem
  obtain ⟨j, _, hj⟩ := List.mem_map.1 hmem
  obtain ⟨rfl, hv⟩ := Prod.mk.inj hj
  exact hv

theorem Recalls.get (h : c.Recalls es) (k : κ) :
    (c.get k).2.Recalls (es ++ [.got k (c.get k).1]) where
  entries_eq := by
    rw [get_fst]
    cases hk : c.entries.lookup k with
    | none =>
      rw [entries_get_of_none hk, capacity_get, recent_missed, h.entries_eq]
      simp only [latest_got]
    | some v =>
      have hv := h.latest_of_lookup hk
      exact h.entries_of_used (capacity_get c k) (entries_get_eq_rtake hk) rfl
        (by rw [latest_got, hv]) fun j _ => latest_got es _ j
  hits_eq := by
    rw [hits_get, h.hits_eq, hitCount, hitCount, sinceClear_concat es rfl, List.countP_append,
      List.countP_singleton]
    rfl
  misses_eq := by
    rw [misses_get, h.misses_eq, missCount, missCount, sinceClear_concat es rfl, List.countP_append,
      List.countP_singleton]
    rfl

theorem Recalls.put (h : c.Recalls es) (k : κ) (v : α) :
    (c.put k v).2.Recalls (es ++ [.stored k v]) := by
  obtain ⟨hcapacity, hhits, hmisses⟩ := put_frame c k v
  refine ⟨?_, ?_, ?_⟩
  · exact h.entries_of_used hcapacity (entries_put_eq_rtake c k v) rfl (latest_stored es)
      fun j hj => latest_stored_of_ne es hj
  · rw [hhits, h.hits_eq, hitCount, hitCount, sinceClear_concat es rfl, List.countP_append]
    rfl
  · rw [hmisses, h.misses_eq, missCount, missCount, sinceClear_concat es rfl, List.countP_append]
    rfl

theorem recalls_clear (c : Lru κ α) (es : List (Event κ α)) : c.clear.Recalls (es ++ [.cleared]) where
  entries_eq := by rw [recent_cleared]; rfl
  hits_eq := by rw [hitCount, sinceClear_cleared]; rfl
  misses_eq := by rw [missCount, sinceClear_cleared]; rfl

theorem Recalls.perform (h : c.Recalls es) (op : Op κ α) :
    (c.perform op).2.Recalls (es ++ [(c.perform op).1]) := by
  cases op with
  | get k => exact h.get k
  | put k v => exact h.put k v
  | clear => exact recalls_clear c es

theorem Recalls.performAll (h : c.Recalls es) (ops : List (Op κ α)) :
    (c.performAll ops).2.Recalls (es ++ (c.performAll ops).1) := by
  induction ops generalizing c es with
  | nil => rwa [Lru.performAll, List.append_nil]
  | cons op ops ih =>
    have hrest := ih (h.perform op)
    rwa [List.append_assoc] at hrest

theorem capacity_performAll (c : Lru κ α) (ops : List (Op κ α)) :
    (c.performAll ops).2.capacity = c.capacity := by
  induction ops generalizing c with
  | nil => rfl
  | cons op ops ih => exact (ih _).trans (capacity_perform c op)

/-! ### Answers and dropped keys -/

theorem Recalls.keys_eq (h : c.Recalls es) : c.keys = recent c.capacity es := by
  have hkeys := congrArg (List.map Prod.fst) h.entries_eq
  rw [List.map_map, List.map_map] at hkeys
  exact hkeys.trans (List.map_id _)

theorem exists_lookup_of_mem_keys (hk : k ∈ c.keys) : ∃ v, c.entries.lookup k = some v := by
  obtain ⟨e, he, rfl⟩ := List.mem_map.1 hk
  rw [← Option.isSome_iff_exists, List.lookup_isSome_iff]
  exact ⟨e, he, by simp⟩

theorem Recalls.get_of_mem (h : c.Recalls es) (hk : k ∈ recent c.capacity es) :
    ∃ v, latest k es = some v ∧ (c.get k).1 = some v := by
  rw [← h.keys_eq] at hk
  obtain ⟨v, hv⟩ := exists_lookup_of_mem_keys hk
  exact ⟨v, h.latest_of_lookup hv, by rw [get_fst, hv]⟩

theorem Recalls.get_of_notMem (h : c.Recalls es) (hk : k ∉ recent c.capacity es) :
    (c.get k).1 = none := by
  rw [get_fst, List.lookup_eq_none_iff]
  intro e he
  rw [← h.keys_eq] at hk
  simpa using fun hek => hk (List.mem_map.2 ⟨e, he, hek.symm⟩)

theorem eraseKey_eq_self {entries : List (κ × α)} (h : k ∉ entries.map Prod.fst) :
    eraseKey k entries = entries := by
  refine List.filter_eq_self.2 fun e he => ?_
  simpa using fun hek => h (List.mem_map.2 ⟨e, he, hek⟩)

theorem perm_entries_get (c : Lru κ α) (k : κ) : (c.get k).2.entries.Perm c.entries := by
  cases hk : c.entries.lookup k with
  | none => rw [entries_get_of_none hk]
  | some v =>
    obtain ⟨before, after, hentries, _⟩ := List.lookup_eq_some_iff.1 hk
    have hnodup := c.nodup_keys
    rw [hentries, List.map_append, List.map_cons, List.nodup_middle, List.nodup_cons,
      ← List.map_append] at hnodup
    have herase : eraseKey k c.entries = before ++ after := by
      have hrest := eraseKey_eq_self hnodup.1
      rw [eraseKey, List.filter_append] at hrest
      rw [hentries, eraseKey, List.filter_append, List.filter_cons_of_neg (by simp), hrest]
    rw [entries_get_of_some hk, useKey, herase, hentries]
    exact (List.perm_append_singleton (k, v) (before ++ after)).trans List.perm_middle.symm

theorem put_of_room (v : α) (h : k ∈ c.keys ∨ c.size < c.capacity) :
    (c.put k v).1 = none ∧ ∀ j ∈ c.keys, j ∈ (c.put k v).2.keys := by
  have hroom : (useKey k v c.entries).length ≤ c.capacity := by
    have hle := length_eraseKey_le k c.entries
    have hcapacity := c.length_le
    rw [length_useKey]
    rcases h with hk | hsize
    · obtain ⟨w, hw⟩ := exists_lookup_of_mem_keys hk
      have hlt := length_eraseKey_lt hw
      omega
    · rw [size] at hsize
      omega
  refine ⟨by simp only [put, dif_pos hroom], fun j hj => ?_⟩
  rw [keys, entries_put, if_pos hroom, useKey, List.map_append, List.mem_append]
  by_cases hjk : j = k
  · exact .inr (by simp [hjk])
  · obtain ⟨e, he, rfl⟩ := List.mem_map.1 hj
    exact .inl (List.mem_map_of_mem (List.mem_filter.2 ⟨he, by simpa using hjk⟩))

theorem put_of_full (v : α) (hk : k ∉ c.keys) (hfull : c.size = c.capacity) :
    ∃ least others, c.keys = least :: others ∧ (c.put k v).1 = some least ∧
      (c.put k v).2.keys = others ++ [k] := by
  have hpos := c.capacity_pos
  have hsame : eraseKey k c.entries = c.entries := eraseKey_eq_self hk
  have hover : ¬(useKey k v c.entries).length ≤ c.capacity := by
    rw [length_useKey, hsame]
    rw [size] at hfull
    omega
  obtain ⟨first, rest, hentries⟩ : ∃ first rest, c.entries = first :: rest := by
    refine List.exists_cons_of_ne_nil fun hnil => ?_
    rw [size, hnil, List.length_nil] at hfull
    omega
  have hused : useKey k v c.entries = first :: (rest ++ [(k, v)]) := by
    rw [useKey, hsame, hentries, List.cons_append]
  refine ⟨first.1, rest.map Prod.fst, by rw [keys, hentries, List.map_cons], ?_, ?_⟩
  · simp only [put, dif_neg hover]
    rw [hused]
    rfl
  · rw [keys, entries_put, if_neg hover, hused, List.tail_cons, List.map_append]
    rfl

end Lru

namespace LineCache

open Lru (Recalls recent latest)

/-- **A cache of lines holds the lines that were used last.** After any operations on a cache that
was empty, the keys are the ones used last since the last clear, in the order of their last uses and
as many as there is room for, each with what was stored last under it, and the look-ups are counted.
A look-up finds the value of a key that is there, and it changes no value. A store drops a key, and
tells it, exactly when its own key is new and the cache is full: the key whose last use is the oldest
one. -/
theorem holds_recent_lines {capacity : Int} (hcapacity : 1 ≤ capacity) :
    ∃ cache : LineCache, ofCapacity? capacity = some cache ∧
      ∀ ops events after, cache.performAll ops = (events, after) →
        after.capacity = capacity.toNat ∧ after.Recalls events ∧
        after.keys = recent capacity.toNat events ∧
        (∀ key, key ∈ after.keys →
          ∃ tokens, latest key events = some tokens ∧ (after.get key).1 = some tokens) ∧
        (∀ key, key ∉ after.keys → (after.get key).1 = none) ∧
        (∀ key, (after.get key).2.entries.Perm after.entries) ∧
        ∀ key tokens,
          (store after key tokens).1 = (after.perform (.put key tokens)).2 ∧
          (key ∈ after.keys ∨ after.size < after.capacity → (store after key tokens).2 = [] ∧
            ∀ other ∈ after.keys, other ∈ (store after key tokens).1.keys) ∧
          (key ∉ after.keys → after.size = after.capacity → ∃ least others,
            after.keys = least :: others ∧
            (store after key tokens).2 = [evictionRecord least] ∧
            (store after key tokens).1.keys = others ++ [key]) := by
  have hpos : 0 < capacity.toNat := by omega
  refine ⟨Lru.empty capacity.toNat hpos, dif_pos hpos, fun ops events after hrun => ?_⟩
  have hrecalls := Recalls.performAll (Lru.recalls_empty hpos) ops
  have hsize := Lru.capacity_performAll (Lru.empty capacity.toNat hpos : LineCache) ops
  rw [hrun, List.nil_append] at hrecalls
  rw [hrun] at hsize
  change after.capacity = capacity.toNat at hsize
  have hkeys := hrecalls.keys_eq
  refine ⟨hsize, hrecalls, hsize ▸ hkeys, fun key hkey => ?_, fun key hkey => ?_,
    fun key => Lru.perm_entries_get after key, fun key tokens => ⟨rfl, fun hroom => ?_,
    fun hkey hfull => ?_⟩⟩
  · exact hrecalls.get_of_mem (hkeys ▸ hkey)
  · exact hrecalls.get_of_notMem (hkeys ▸ hkey)
  · obtain ⟨hdropped, hkept⟩ := Lru.put_of_room tokens hroom
    refine ⟨?_, hkept⟩
    simp only [store, hdropped]
    rfl
  · obtain ⟨least, others, hleast, hdropped, hrest⟩ := Lru.put_of_full tokens hkey hfull
    refine ⟨least, others, hleast, ?_, hrest⟩
    simp only [store, hdropped]
    rfl

/-- In a cache of two lines a look-up protects the older one, so that the other one is dropped. -/
theorem holds_recent_lines_of_two :
    (1 : Int) ≤ 2 ∧ ∃ cache : LineCache, ofCapacity? 2 = some cache ∧
      (cache.performAll [.put ("a", "") [], .put ("b", "") [], .get ("a", ""), .get ("x", ""),
        .put ("c", "") []]).2.keys = [("a", ""), ("c", "")] := by
  obtain ⟨cache, hcache, hrun⟩ := holds_recent_lines (show (1 : Int) ≤ 2 by decide)
  obtain rfl := Option.some.inj hcache
  refine ⟨by decide, _, rfl, ?_⟩
  rw [(hrun _ _ _ rfl).2.2.1]
  rfl

end LineCache

end TagHighlight
