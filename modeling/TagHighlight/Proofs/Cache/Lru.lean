import TagHighlight.Cache.Lru

/-!
# What the operations of a cache do to its entries

A look-up answers what is stored under its key. A look-up that finds its key and a store put the
key at the end of the queue; a store into a full cache then drops the front. So every entry of a
later cache is an entry of an earlier one or was stored in between.
-/

namespace TagHighlight

variable {κ α : Type} [DecidableEq κ]

theorem mem_useKey {k : κ} {v : α} {es : List (κ × α)} {e : κ × α} (h : e ∈ useKey k v es) :
    e = (k, v) ∨ e ∈ es := by
  rcases List.mem_append.1 h with h | h
  · exact Or.inr (List.mem_filter.1 h).1
  · exact Or.inl (List.mem_singleton.1 h)

theorem mem_of_lookup {k : κ} {v : α} {es : List (κ × α)} (h : es.lookup k = some v) :
    (k, v) ∈ es := by
  obtain ⟨l₁, l₂, rfl, _⟩ := List.lookup_eq_some_iff.1 h
  exact List.mem_append_right _ List.mem_cons_self

namespace Lru

theorem get_fst (c : Lru κ α) (k : κ) : (c.get k).1 = c.entries.lookup k := by
  unfold get
  split
  · rename_i h
    exact h.symm
  · rename_i v h
    exact h.symm

theorem entries_get_of_none {c : Lru κ α} {k : κ} (h : c.entries.lookup k = none) :
    (c.get k).2.entries = c.entries := by
  unfold get
  split
  · rfl
  · rename_i h'
    rw [h] at h'
    cases h'

theorem entries_get_of_some {c : Lru κ α} {k : κ} {v : α} (h : c.entries.lookup k = some v) :
    (c.get k).2.entries = useKey k v c.entries := by
  unfold get
  split
  · rename_i h'
    rw [h] at h'
    cases h'
  · rename_i w h'
    rw [h] at h'
    cases h'
    rfl

theorem entries_put (c : Lru κ α) (k : κ) (v : α) :
    (c.put k v).2.entries =
      if (useKey k v c.entries).length ≤ c.capacity then useKey k v c.entries
      else (useKey k v c.entries).tail := by
  simp only [put]
  by_cases h : (useKey k v c.entries).length ≤ c.capacity
  · rw [dif_pos h, if_pos h]
  · rw [dif_neg h, if_neg h]

theorem mem_of_mem_entries_get {c : Lru κ α} {k : κ} {e : κ × α}
    (h : e ∈ (c.get k).2.entries) : e ∈ c.entries := by
  cases hk : c.entries.lookup k with
  | none => rwa [entries_get_of_none hk] at h
  | some v =>
    rw [entries_get_of_some hk] at h
    rcases mem_useKey h with rfl | h
    · exact mem_of_lookup hk
    · exact h

theorem mem_of_mem_entries_put {c : Lru κ α} {k : κ} {v : α} {e : κ × α}
    (h : e ∈ (c.put k v).2.entries) : e = (k, v) ∨ e ∈ c.entries := by
  rw [entries_put] at h
  split at h
  · exact mem_useKey h
  · exact mem_useKey (List.mem_of_mem_tail h)

end Lru

end TagHighlight
