import TagHighlight.Proofs.Cache.Moments

/-!
# A larger cache finds more

The same is done with two empty caches, one of which has more room. They do not stay alike: a line
that only the larger one finds is moved in the larger one alone, and a classification then stores it
in the smaller one alone. Still the smaller one never holds a key that the larger one does not.

The relation `Within` says so of the keys in their order. By itself that is not kept: the larger cache
could drop the first of its keys while the smaller one still has room for it. It has not, since a key
that only the larger cache holds was dropped by the smaller one, which has been full ever since; as
long as it is not full, the two hold the same keys.
-/

namespace TagHighlight

namespace Lru

variable {κ α : Type} [DecidableEq κ]

/-- What a cache holds is held by one with more room, which has not missed more look-ups. -/
structure Within (small large : Lru κ α) : Prop where
  capacity_le : small.capacity ≤ large.capacity
  keys_sublist : small.keys.Sublist large.keys
  keys_eq : small.keys.length < small.capacity → small.keys = large.keys
  misses_le : large.misses ≤ small.misses

theorem moveToEnd_sublist (k : κ) {ks js : List κ} (h : ks.Sublist js) :
    (moveToEnd k ks).Sublist (moveToEnd k js) :=
  (h.filter _).append_right [k]

theorem sublist_moveToEnd {k : κ} {ks : List κ} (h : k ∉ ks) : ks.Sublist (moveToEnd k ks) := by
  have hall : ks.filter (· ≠ k) = ks :=
    List.filter_eq_self.2 fun j hj => decide_eq_true fun hjk : j = k => h (hjk ▸ hj)
  rw [moveToEnd, hall]
  exact List.sublist_append_left ks [k]

variable {small large : Lru κ α} {k : κ}

theorem within_empty {m n : Nat} (hm : 0 < m) (hn : 0 < n) (hmn : m ≤ n) :
    Within (empty m hm : Lru κ α) (empty n hn) :=
  ⟨hmn, List.Sublist.refl [], fun _ => rfl, Nat.le_refl 0⟩

namespace Within

theorem mem (h : Within small large) (hk : k ∈ small.keys) : k ∈ large.keys :=
  h.keys_sublist.subset hk

/-- A key that only the larger cache holds tells that the smaller one is full. -/
theorem length_eq_capacity (h : Within small large) (hk : k ∉ small.keys) (hk' : k ∈ large.keys) :
    small.keys.length = small.capacity := by
  by_contra hne
  have hle := small.length_keys_le
  rw [h.keys_eq (by omega)] at hk
  exact hk hk'

theorem clear (h : Within small large) : Within small.clear large.clear :=
  within_empty small.capacity_pos large.capacity_pos h.capacity_le

theorem misses_get (h : Within small large) (k : κ) :
    (large.get k).2.misses ≤ (small.get k).2.misses := by
  have hmisses := h.misses_le
  rw [Lru.misses_get, Lru.misses_get, ← Option.not_isSome, ← Option.not_isSome]
  by_cases hk : k ∈ small.keys
  · rw [isSome_get.2 hk, isSome_get.2 (h.mem hk)]
    exact hmisses
  · have hmissed : (small.get k).1.isSome = false := by
      rwa [← isSome_get, Bool.not_eq_true] at hk
    rw [hmissed]
    split
    · exact Nat.succ_le_succ hmisses
    · exact Nat.le_succ_of_le hmisses

theorem get (h : Within small large) (k : κ) : Within (small.get k).2 (large.get k).2 := by
  have hcapacity := h.capacity_le
  refine ⟨by rwa [capacity_get, capacity_get], ?_, ?_, h.misses_get k⟩
  · by_cases hk : k ∈ small.keys
    · rw [keys_get_of_mem hk, keys_get_of_mem (h.mem hk)]
      exact moveToEnd_sublist k h.keys_sublist
    · rw [keys_get_of_notMem hk]
      by_cases hk' : k ∈ large.keys
      · rw [keys_get_of_mem hk']
        exact (sublist_moveToEnd hk).trans (moveToEnd_sublist k h.keys_sublist)
      · rw [keys_get_of_notMem hk']
        exact h.keys_sublist
  · rw [capacity_get]
    by_cases hk : k ∈ small.keys
    · rw [keys_get_of_mem hk, keys_get_of_mem (h.mem hk), length_moveToEnd k small.keys_nodup,
        if_pos hk]
      exact fun hroom => congrArg (moveToEnd k) (h.keys_eq hroom)
    · rw [keys_get_of_notMem hk]
      intro hroom
      have hkeys := h.keys_eq hroom
      rw [hkeys] at hk
      rw [keys_get_of_notMem hk, hkeys]

/-- If a store makes the larger cache drop a key, then the smaller one drops a key too. -/
theorem overflow_le (h : Within small large) (k : κ) :
    (moveToEnd k large.keys).length - large.capacity ≤
      (moveToEnd k small.keys).length - small.capacity := by
  have hsmall := small.length_keys_le
  have hlarge := large.length_keys_le
  have hcapacity := h.capacity_le
  rw [length_moveToEnd k small.keys_nodup, length_moveToEnd k large.keys_nodup]
  by_cases hk : k ∈ large.keys
  · rw [if_pos hk]
    omega
  · rw [if_neg hk, if_neg fun hks => hk (h.mem hks)]
    by_cases hroom : small.keys.length < small.capacity
    · rw [← h.keys_eq hroom]
      omega
    · omega

theorem put (h : Within small large) (k : κ) (v w : α) :
    Within (small.put k v).2 (large.put k w).2 := by
  have hcapacity := h.capacity_le
  obtain ⟨hsmall, -, hmisses⟩ := put_frame small k v
  obtain ⟨hlarge, -, hmisses'⟩ := put_frame large k w
  refine ⟨by rwa [hsmall, hlarge], ?_, ?_, by rw [hmisses, hmisses']; exact h.misses_le⟩
  · rw [keys_put, keys_put, List.rtake, List.rtake]
    exact (List.drop_sublist_drop_left _ (h.overflow_le k)).trans
      ((moveToEnd_sublist k h.keys_sublist).drop _)
  · rw [hsmall, keys_put, keys_put, length_rtake]
    intro hroom
    have hgrows := length_le_length_moveToEnd k small.keys_nodup
    have hkeys := h.keys_eq (by omega)
    rw [← hkeys, rtake_of_length_le (by omega), rtake_of_length_le (by omega)]

theorem put_of_found (h : Within small large) (hk : k ∉ small.keys) (hk' : k ∈ large.keys) (v : α) :
    Within ((small.get k).2.put k v).2 (large.get k).2 := by
  have hget := h.get k
  have hfull := h.length_eq_capacity hk hk'
  obtain ⟨hcapacity, -, hmisses⟩ := put_frame (small.get k).2 k v
  refine ⟨by rw [hcapacity]; exact hget.capacity_le, ?_, ?_, by rw [hmisses]; exact hget.misses_le⟩
  · rw [keys_put, keys_get_of_notMem hk, keys_get_of_mem hk']
    exact (List.drop_sublist _ _).trans (moveToEnd_sublist k h.keys_sublist)
  · rw [hcapacity, keys_put, keys_get_of_notMem hk, capacity_get, length_rtake]
    have hgrows := length_le_length_moveToEnd k small.keys_nodup
    intro hroom
    omega

end Within

end Lru

namespace LineCache

open Lru (Within)

/-! ### What is done with a cache -/

inductive Step
  | get (key : String × String)
  | put (key : String × String) (tokens : List Token)
  | clear
  | classify (text : String) (config : Config)

/-- The cache after a step. A configuration without a key is refused before the cache is asked. -/
def Step.perform (cache : LineCache) : Step → LineCache
  | get key => (cache.get key).2
  | put key tokens => (store cache key tokens).1
  | clear => cache.clear
  | classify text config =>
    match config.key with
    | .error _ => cache
    | .ok key => (LineCache.classify cache config key text).cache

def Step.moments (cache : LineCache) : Step → List Moment
  | get key => [.afterGet cache key]
  | put key tokens => [⟨none, (store cache key tokens).1⟩]
  | clear => [⟨none, cache.clear⟩]
  | classify text config =>
    match config.key with
    | .error _ => []
    | .ok key => momentsOfLines cache config key 1 (Text.lines text)

def moments (cache : LineCache) : List Step → List Moment
  | [] => []
  | step :: steps => step.moments cache ++ moments (step.perform cache) steps

/-- At a moment of two caches the same key is asked for. What the smaller one holds and finds, the
larger one holds and finds, and it has not missed more. -/
structure Moment.Below (small large : Moment) : Prop where
  keys_sublist : small.cache.keys.Sublist large.cache.keys
  lookup_eq : small.lookup.map Prod.fst = large.lookup.map Prod.fst
  found : ∀ key, small.lookup = some (key, true) → large.lookup = some (key, true)
  misses_le : large.cache.misses ≤ small.cache.misses

variable {small large : LineCache}

theorem Moment.below_of_within (h : Within small large) :
    Moment.Below ⟨none, small⟩ ⟨none, large⟩ :=
  ⟨h.keys_sublist, rfl, nofun, h.misses_le⟩

theorem Moment.below_afterGet (h : Within small large) (key : String × String) :
    Moment.Below (.afterGet small key) (.afterGet large key) := by
  refine ⟨(h.get key).keys_sublist, rfl, fun other hfound => ?_, (h.get key).misses_le⟩
  obtain ⟨rfl, hsmall⟩ := Prod.mk.inj (Option.some.inj hfound)
  have hlarge := Lru.isSome_get.2 (h.mem (Lru.isSome_get.1 hsmall))
  rw [Moment.afterGet, hlarge]

/-! ### Steps -/

theorem within_classifyLine (h : Within small large) (config : Config) (key line : String)
    (lineno : Nat) :
    Within (classifyLine small config key line lineno).cache
      (classifyLine large config key line lineno).cache := by
  by_cases hsmall : (line, key) ∈ small.keys
  · rw [(classifyLine_of_mem hsmall).2, (classifyLine_of_mem (h.mem hsmall)).2]
    exact h.get (line, key)
  · rw [(classifyLine_of_notMem hsmall).2]
    by_cases hlarge : (line, key) ∈ large.keys
    · rw [(classifyLine_of_mem hlarge).2]
      exact h.put_of_found hsmall hlarge _
    · rw [(classifyLine_of_notMem hlarge).2]
      exact (h.get (line, key)).put (line, key) _ _

theorem within_classifyLines (h : Within small large) (config : Config) (key : String)
    (lineno : Nat) (lines : List String) :
    List.Forall₂ Moment.Below (momentsOfLines small config key lineno lines)
        (momentsOfLines large config key lineno lines) ∧
      Within (classifyLines small config key lineno lines).cache
        (classifyLines large config key lineno lines).cache := by
  induction lines generalizing small large lineno with
  | nil => exact ⟨.nil, h⟩
  | cons line rest ih =>
    have hline := within_classifyLine h config key line lineno
    obtain ⟨hmoments, hafter⟩ := ih hline (lineno + 1)
    rw [momentsOfLines_cons, momentsOfLines_cons, cache_classifyLines_cons, cache_classifyLines_cons]
    exact ⟨.cons (Moment.below_afterGet h (line, key)) (.cons (Moment.below_of_within hline) hmoments),
      hafter⟩

theorem Step.within (h : Within small large) (step : Step) :
    List.Forall₂ Moment.Below (step.moments small) (step.moments large) ∧
      Within (step.perform small) (step.perform large) := by
  cases step with
  | get key => exact ⟨.cons (Moment.below_afterGet h key) .nil, h.get key⟩
  | put key tokens =>
    have hput := h.put key tokens tokens
    exact ⟨.cons (Moment.below_of_within hput) .nil, hput⟩
  | clear => exact ⟨.cons (Moment.below_of_within h.clear) .nil, h.clear⟩
  | classify text config =>
    dsimp only [Step.moments, Step.perform]
    cases config.key with
    | error e => exact ⟨.nil, h⟩
    | ok key => exact within_classifyLines h config key 1 (Text.lines text)

theorem within_moments (h : Within small large) (steps : List Step) :
    List.Forall₂ Moment.Below (moments small steps) (moments large steps) := by
  induction steps generalizing small large with
  | nil => exact .nil
  | cons step steps ih =>
    obtain ⟨hmoments, hafter⟩ := step.within h
    exact List.rel_append hmoments (ih hafter)

/-- **A cache with more room loses no hit.** The same steps are made with two caches that are empty at
first. At every moment the keys of the smaller one are among those of the larger one, in the same
order; what the smaller one finds, the larger one finds, and it does not count more misses. -/
theorem larger_cache_loses_no_hit {m n : Int} (hm : 1 ≤ m) (hmn : m ≤ n) :
    ∃ small large : LineCache, ofCapacity? m = some small ∧ ofCapacity? n = some large ∧
      ∀ steps, List.Forall₂ Moment.Below (moments small steps) (moments large steps) := by
  have hsmall : 0 < m.toNat := by omega
  have hlarge : 0 < n.toNat := by omega
  refine ⟨Lru.empty m.toNat hsmall, Lru.empty n.toNat hlarge, dif_pos hsmall, dif_pos hlarge,
    fun steps => ?_⟩
  exact within_moments (Lru.within_empty hsmall hlarge (by omega)) steps

/-- A line that only the larger of two caches finds is kept there, and the older line is dropped. -/
theorem larger_cache_loses_no_hit_of_one_and_two :
    (1 : Int) ≤ 1 ∧ (1 : Int) ≤ 2 ∧
      ∃ small large : LineCache, ofCapacity? 1 = some small ∧ ofCapacity? 2 = some large ∧
        let steps := [.put ("a", "") [], .put ("b", "") [], .get ("a", ""), .put ("c", "") [],
          .get ("a", ""), .get ("c", "")]
        List.Forall₂ Moment.Below (moments small steps) (moments large steps) ∧
          (moments small steps).filterMap Moment.lookup =
            [(("a", ""), false), (("a", ""), false), (("c", ""), true)] ∧
          (moments large steps).filterMap Moment.lookup =
            [(("a", ""), true), (("a", ""), true), (("c", ""), true)] := by
  obtain ⟨small, large, hsmall, hlarge, hsteps⟩ :=
    larger_cache_loses_no_hit (show (1 : Int) ≤ 1 by decide) (show (1 : Int) ≤ 2 by decide)
  obtain rfl := Option.some.inj hsmall
  obtain rfl := Option.some.inj hlarge
  exact ⟨by decide, by decide, _, _, rfl, rfl, hsteps _, rfl, rfl⟩

end LineCache

end TagHighlight
