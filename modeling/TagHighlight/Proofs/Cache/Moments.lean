import TagHighlight.Proofs.Cache.History
import TagHighlight.Proofs.Lexer.Partition

/-!
# The moments of a cache

What is found in a cache and what is dropped depends on its keys alone. A use of a key, by a look-up
that finds it or by a store, moves the key to the end and keeps as many keys as there is room for; a
look-up that finds nothing changes no key (`keys_get_of_mem`, `keys_get_of_notMem`, `keys_put`).

A text is classified line by line: the line is looked up, and stored if it is not found. So there are
two moments for each line, one after the look-up and one after the line is done. In both cases the
line is used, whatever was found (`keys_classifyLine`).
-/

namespace TagHighlight

namespace Lru

variable {κ α : Type} [DecidableEq κ] {k : κ}

/-! ### Keys -/

theorem map_fst_useKey (k : κ) (v : α) (es : List (κ × α)) :
    (useKey k v es).map Prod.fst = moveToEnd k (es.map Prod.fst) := by
  rw [useKey, moveToEnd, List.map_append, eraseKey, List.filter_map]
  rfl

theorem rtake_of_length_le {β : Type} {n : Nat} {bs : List β} (h : bs.length ≤ n) :
    bs.rtake n = bs := by
  rw [List.rtake, Nat.sub_eq_zero_of_le h, List.drop_zero]

theorem length_rtake {β : Type} (n : Nat) (bs : List β) : (bs.rtake n).length = min n bs.length := by
  rw [List.rtake, List.length_drop]
  omega

variable {c : Lru κ α}

theorem keys_nodup (c : Lru κ α) : c.keys.Nodup := c.nodup_keys

theorem length_keys_le (c : Lru κ α) : c.keys.length ≤ c.capacity := by
  rw [keys, List.length_map]
  exact c.length_le

theorem isSome_get : (c.get k).1.isSome = true ↔ k ∈ c.keys := by
  rw [get_fst]
  constructor
  · intro h
    obtain ⟨v, hv⟩ := Option.isSome_iff_exists.1 h
    exact List.mem_map_of_mem (mem_of_lookup hv)
  · intro h
    obtain ⟨v, hv⟩ := exists_lookup_of_mem_keys h
    rw [hv]
    rfl

theorem keys_get_of_mem (h : k ∈ c.keys) : (c.get k).2.keys = moveToEnd k c.keys := by
  obtain ⟨v, hv⟩ := exists_lookup_of_mem_keys h
  rw [keys, entries_get_of_some hv, map_fst_useKey]
  rfl

theorem keys_get_of_notMem (h : k ∉ c.keys) : (c.get k).2.keys = c.keys := by
  rw [← isSome_get, get_fst, Bool.not_eq_true, Option.isSome_eq_false_iff, Option.isNone_iff_eq_none] at h
  rw [keys, entries_get_of_none h]
  rfl

theorem keys_put (c : Lru κ α) (k : κ) (v : α) :
    (c.put k v).2.keys = (moveToEnd k c.keys).rtake c.capacity := by
  rw [keys, entries_put_eq_rtake, List.rtake, List.rtake, List.map_drop, map_fst_useKey,
    ← List.length_map (f := Prod.fst), map_fst_useKey]
  rfl

end Lru

namespace LineCache

/-! ### Moments -/

/-- What can be seen of a cache after something has been done with it. -/
structure Moment where
  /-- The key that has just been looked up, and whether it was found. -/
  lookup : Option ((String × String) × Bool)
  cache : LineCache

def Moment.afterGet (cache : LineCache) (key : String × String) : Moment :=
  ⟨some (key, (cache.get key).1.isSome), (cache.get key).2⟩

/-- The moments while lines are classified that are numbered from `lineno` on. -/
def momentsOfLines (cache : LineCache) (config : Config) (key : String) (lineno : Nat) :
    List String → List Moment
  | [] => []
  | line :: rest =>
    let first := classifyLine cache config key line lineno
    .afterGet cache (line, key) :: ⟨none, first.cache⟩ ::
      match first.result with
      | .error _ => []
      | .ok _ => momentsOfLines first.cache config key (lineno + 1) rest

/-! ### One line -/

section Line

variable {cache : LineCache} {config : Config} {key line : String} {lineno : Nat}

theorem classifyLine_of_mem (h : (line, key) ∈ cache.keys) :
    (∃ tokens, (classifyLine cache config key line lineno).result = .ok tokens) ∧
      (classifyLine cache config key line lineno).cache = (cache.get (line, key)).2 := by
  have hfound := Lru.isSome_get.2 h
  unfold classifyLine
  cases hget : cache.get (line, key) with
  | mk found after =>
    rw [hget] at hfound
    obtain ⟨tokens, rfl⟩ := Option.isSome_iff_exists.1 hfound
    exact ⟨⟨tokens, rfl⟩, rfl⟩

theorem classifyLine_of_notMem (h : (line, key) ∉ cache.keys) :
    (∃ tokens, (classifyLine cache config key line lineno).result = .ok tokens) ∧
      (classifyLine cache config key line lineno).cache =
        ((cache.get (line, key)).2.put (line, key) (Lexer.tokens config line)).2 := by
  rw [← Lru.isSome_get, Bool.not_eq_true, Option.isSome_eq_false_iff] at h
  unfold classifyLine
  cases hget : cache.get (line, key) with
  | mk found after =>
    rw [hget] at h
    obtain rfl := Option.isNone_iff_eq_none.1 h
    rw [TagHighlight.classifyLine_eq]
    exact ⟨⟨_, rfl⟩, rfl⟩

theorem exists_result_classifyLine (cache : LineCache) (config : Config) (key line : String)
    (lineno : Nat) :
    ∃ tokens, (classifyLine cache config key line lineno).result = .ok tokens := by
  by_cases h : (line, key) ∈ cache.keys
  · exact (classifyLine_of_mem h).1
  · exact (classifyLine_of_notMem h).1

theorem capacity_classifyLine (cache : LineCache) (config : Config) (key line : String)
    (lineno : Nat) :
    (classifyLine cache config key line lineno).cache.capacity = cache.capacity := by
  by_cases h : (line, key) ∈ cache.keys
  · rw [(classifyLine_of_mem h).2, Lru.capacity_get]
  · rw [(classifyLine_of_notMem h).2, (Lru.put_frame _ _ _).1, Lru.capacity_get]

theorem keys_classifyLine (cache : LineCache) (config : Config) (key line : String) (lineno : Nat) :
    (classifyLine cache config key line lineno).cache.keys =
      (Lru.moveToEnd (line, key) cache.keys).rtake cache.capacity := by
  by_cases h : (line, key) ∈ cache.keys
  · have hlength : (Lru.moveToEnd (line, key) cache.keys).length ≤ cache.capacity := by
      rw [Lru.length_moveToEnd _ cache.keys_nodup, if_pos h]
      exact cache.length_keys_le
    rw [(classifyLine_of_mem h).2, Lru.keys_get_of_mem h, Lru.rtake_of_length_le hlength]
  · rw [(classifyLine_of_notMem h).2, Lru.keys_put, Lru.keys_get_of_notMem h, Lru.capacity_get]

theorem counts_classifyLine (cache : LineCache) (config : Config) (key line : String)
    (lineno : Nat) :
    (classifyLine cache config key line lineno).cache.hits = (cache.get (line, key)).2.hits ∧
      (classifyLine cache config key line lineno).cache.misses =
        (cache.get (line, key)).2.misses := by
  by_cases h : (line, key) ∈ cache.keys
  · rw [(classifyLine_of_mem h).2]
    exact ⟨rfl, rfl⟩
  · rw [(classifyLine_of_notMem h).2]
    exact (Lru.put_frame _ _ _).2

/-! ### Lines -/

theorem momentsOfLines_cons (cache : LineCache) (config : Config) (key : String) (lineno : Nat)
    (line : String) (rest : List String) :
    momentsOfLines cache config key lineno (line :: rest) =
      .afterGet cache (line, key) :: ⟨none, (classifyLine cache config key line lineno).cache⟩ ::
        momentsOfLines (classifyLine cache config key line lineno).cache config key (lineno + 1)
          rest := by
  obtain ⟨tokens, htokens⟩ := exists_result_classifyLine cache config key line lineno
  rw [momentsOfLines]
  simp only [htokens]

theorem cache_classifyLines_cons (cache : LineCache) (config : Config) (key : String) (lineno : Nat)
    (line : String) (rest : List String) :
    (classifyLines cache config key lineno (line :: rest)).cache =
      (classifyLines (classifyLine cache config key line lineno).cache config key (lineno + 1)
        rest).cache := by
  obtain ⟨tokens, htokens⟩ := exists_result_classifyLine cache config key line lineno
  rw [classifyLines]
  simp only [htokens]

theorem capacity_classifyLines (cache : LineCache) (config : Config) (key : String) (lineno : Nat)
    (lines : List String) :
    (classifyLines cache config key lineno lines).cache.capacity = cache.capacity := by
  induction lines generalizing cache lineno with
  | nil => rfl
  | cons line rest ih => rw [cache_classifyLines_cons, ih, capacity_classifyLine]

end Line

end LineCache

end TagHighlight
