/-!
# A bounded cache that keeps what was used last

Entries are kept in order of their last use, the least recent one first. A look-up that finds its
key and every store are uses. When a new key comes to a full cache, the least recent entry is
dropped. The cache counts the look-ups that found their key and those that did not.

No key occurs twice and there are never more entries than the capacity; both facts are part of the
type.
-/

namespace TagHighlight

variable {κ α : Type} [DecidableEq κ]

/-- The entries without those of a key. -/
def eraseKey (k : κ) (es : List (κ × α)) : List (κ × α) := es.filter fun e => e.1 ≠ k

/-- The entries after a use of a key that holds a value: the key is now the most recent one. -/
def useKey (k : κ) (v : α) (es : List (κ × α)) : List (κ × α) := eraseKey k es ++ [(k, v)]

theorem not_mem_keys_eraseKey (k : κ) (es : List (κ × α)) : k ∉ (eraseKey k es).map Prod.fst := by
  intro h
  obtain ⟨e, he, rfl⟩ := List.mem_map.1 h
  simpa [eraseKey] using (List.mem_filter.1 he).2

theorem nodup_keys_eraseKey (k : κ) {es : List (κ × α)} (h : (es.map Prod.fst).Nodup) :
    ((eraseKey k es).map Prod.fst).Nodup :=
  List.Nodup.sublist (List.filter_sublist.map Prod.fst) h

theorem nodup_keys_useKey (k : κ) (v : α) {es : List (κ × α)} (h : (es.map Prod.fst).Nodup) :
    ((useKey k v es).map Prod.fst).Nodup := by
  rw [useKey, List.map_append, List.nodup_append]
  refine ⟨nodup_keys_eraseKey k h, by simp, fun a ha b hb hab => ?_⟩
  simp only [List.map_cons, List.map_nil, List.mem_singleton] at hb
  rw [hab, hb] at ha
  exact not_mem_keys_eraseKey k es ha

theorem length_eraseKey_le (k : κ) (es : List (κ × α)) : (eraseKey k es).length ≤ es.length :=
  List.length_filter_le _ _

theorem length_eraseKey_lt {k : κ} {v : α} {es : List (κ × α)} (h : es.lookup k = some v) :
    (eraseKey k es).length < es.length := by
  obtain ⟨l₁, l₂, rfl, _⟩ := List.lookup_eq_some_iff.1 h
  refine List.length_filter_lt_length_iff_exists.2 ⟨(k, v), by simp, by simp⟩

theorem length_useKey (k : κ) (v : α) (es : List (κ × α)) :
    (useKey k v es).length = (eraseKey k es).length + 1 := by
  simp [useKey]

/-- A cache that drops the least recently used entry. -/
structure Lru (κ α : Type) [DecidableEq κ] where
  /-- The entries, the least recently used one first. -/
  entries : List (κ × α)
  capacity : Nat
  hits : Nat
  misses : Nat
  capacity_pos : 0 < capacity
  length_le : entries.length ≤ capacity
  nodup_keys : (entries.map Prod.fst).Nodup

namespace Lru

def empty (capacity : Nat) (h : 0 < capacity) : Lru κ α :=
  { entries := [], capacity, hits := 0, misses := 0
    capacity_pos := h, length_le := Nat.zero_le _, nodup_keys := List.nodup_nil }

/-- The keys, the least recently used one first. -/
def keys (c : Lru κ α) : List κ := c.entries.map Prod.fst

def size (c : Lru κ α) : Nat := c.entries.length

def get (c : Lru κ α) (k : κ) : Option α × Lru κ α :=
  match h : c.entries.lookup k with
  | none => (none, { c with misses := c.misses + 1 })
  | some v =>
    (some v,
      { c with
        entries := useKey k v c.entries
        hits := c.hits + 1
        length_le := by
          rw [length_useKey]
          exact Nat.le_trans (length_eraseKey_lt h) c.length_le
        nodup_keys := nodup_keys_useKey k v c.nodup_keys })

/-- Stores a value under a key, and tells the key that was dropped to make room for it. -/
def put (c : Lru κ α) (k : κ) (v : α) : Option κ × Lru κ α :=
  let used := useKey k v c.entries
  if h : used.length ≤ c.capacity then
    (none, { c with
      entries := used, length_le := h, nodup_keys := nodup_keys_useKey k v c.nodup_keys })
  else
    (used.head?.map Prod.fst,
      { c with
        entries := used.tail
        length_le := by
          rw [List.length_tail, length_useKey, Nat.add_sub_cancel]
          exact Nat.le_trans (length_eraseKey_le k c.entries) c.length_le
        nodup_keys :=
          List.Nodup.sublist ((List.tail_sublist used).map Prod.fst)
            (nodup_keys_useKey k v c.nodup_keys) })

/-- Drops all entries and sets the counts to zero. -/
def clear (c : Lru κ α) : Lru κ α := empty c.capacity c.capacity_pos

end Lru

end TagHighlight
