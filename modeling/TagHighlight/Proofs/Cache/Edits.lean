import Mathlib.Data.List.Perm.Subperm
import TagHighlight.Proofs.Cache.Moments

/-!
# An edit is classified anew where it changed the text

A text is classified with a cache, and then a changed text under the same configuration. If the lines
of both together fit into the cache, then only the lines that the first text does not have are missed,
whatever the cache held before and however often and in which order the lines occur.

The invariant is `EndsWith`: the keys that have been used since some moment are the last keys of the
cache, in the order of their last uses. What a store drops is the first key of all, so it is none of
them as long as they fit (`EndsWith.classifyLine`).
-/

namespace TagHighlight

theorem length_dedup_le_of_subset {β : Type} [DecidableEq β] {as bs : List β} (h : as ⊆ bs) :
    as.dedup.length ≤ bs.dedup.length := by
  refine (List.Nodup.subperm (List.nodup_dedup as) fun a ha => ?_).length_le
  exact List.mem_dedup.2 (h (List.mem_dedup.1 ha))

theorem length_dedup_map_le {β γ : Type} [DecidableEq β] [DecidableEq γ] (f : β → γ) (bs : List β) :
    (bs.map f).dedup.length ≤ bs.dedup.length := by
  have hsubset : (bs.map f).dedup ⊆ bs.dedup.map f := by
    intro c hc
    obtain ⟨b, hb, rfl⟩ := List.mem_map.1 (List.mem_dedup.1 hc)
    exact List.mem_map_of_mem (List.mem_dedup.2 hb)
  have hle := (List.Nodup.subperm (List.nodup_dedup _) hsubset).length_le
  rwa [List.length_map] at hle

namespace Lru

variable {κ α : Type} [DecidableEq κ]

/-! ### The keys used last -/

/-- The last keys of the cache are the given ones, each at the place of its last use. -/
def EndsWith (ks : List κ) (c : Lru κ α) : Prop := ks.dedup <:+ c.keys

variable {c : Lru κ α} {ks : List κ} {k : κ}

theorem endsWith_nil (c : Lru κ α) : EndsWith [] c := List.nil_suffix

theorem EndsWith.mem (h : EndsWith ks c) (hk : k ∈ ks) : k ∈ c.keys :=
  h.subset (List.mem_dedup.2 hk)

theorem suffix_rtake_moveToEnd {n : Nat} {js : List κ} (h : ks.dedup <:+ js)
    (hroom : (ks ++ [k]).dedup.length ≤ n) : (ks ++ [k]).dedup <:+ (moveToEnd k js).rtake n := by
  have hmoved : (ks ++ [k]).dedup <:+ moveToEnd k js := by
    obtain ⟨older, rfl⟩ := h
    rw [dedup_concat, moveToEnd, moveToEnd, List.filter_append, List.append_assoc]
    exact List.suffix_append _ _
  have hlength := hmoved.length_le
  refine List.suffix_of_suffix_length_le hmoved (List.drop_suffix _ _) ?_
  rw [length_rtake]
  omega

theorem mem_keys_get {j : κ} : j ∈ (c.get k).2.keys ↔ j ∈ c.keys :=
  ((perm_entries_get c k).map Prod.fst).mem_iff

end Lru

namespace LineCache

open Lru (EndsWith)

/-! ### Look-ups of a classification -/

def lookedUp (seen : List Moment) : List (String × String) :=
  seen.filterMap fun m => m.lookup.map Prod.fst

def Moment.missed? : Moment → Option String
  | ⟨some ((line, _), false), _⟩ => some line
  | _ => none

def missed (seen : List Moment) : List String := seen.filterMap Moment.missed?

/-- At each moment the cache holds the given keys and those that have been looked up before. -/
def Keeps (ks : List (String × String)) (seen : List Moment) : Prop :=
  ∀ before m after, seen = before ++ m :: after → ∀ k, k ∈ ks ∨ k ∈ lookedUp before →
    k ∈ m.cache.keys

section

variable {cache : LineCache} {config : Config} {key line : String} {lineno : Nat}
  {ks : List (String × String)} {lines rest : List String}

theorem missed_lines_cons_of_mem (h : (line, key) ∈ cache.keys) :
    missed (momentsOfLines cache config key lineno (line :: rest)) =
      missed (momentsOfLines (classifyLine cache config key line lineno).cache config key
        (lineno + 1) rest) := by
  have hfound := Lru.isSome_get.2 h
  rw [momentsOfLines_cons, Moment.afterGet, hfound]
  rfl

theorem missed_lines_cons_of_notMem (h : (line, key) ∉ cache.keys) :
    missed (momentsOfLines cache config key lineno (line :: rest)) =
      line :: missed (momentsOfLines (classifyLine cache config key line lineno).cache config key
        (lineno + 1) rest) := by
  rw [← Lru.isSome_get, Bool.not_eq_true] at h
  rw [momentsOfLines_cons, Moment.afterGet, h]
  rfl

theorem lookedUp_momentsOfLines (cache : LineCache) (config : Config) (key : String) (lineno : Nat)
    (lines : List String) :
    lookedUp (momentsOfLines cache config key lineno lines) = lines.map (·, key) := by
  induction lines generalizing cache lineno with
  | nil => rfl
  | cons line rest ih =>
    rw [momentsOfLines_cons, List.map_cons, ← ih (classifyLine cache config key line lineno).cache]
    rfl

theorem counts_classifyLines (cache : LineCache) (config : Config) (key : String) (lineno : Nat)
    (lines : List String) :
    let unknown := (missed (momentsOfLines cache config key lineno lines)).length
    (classifyLines cache config key lineno lines).cache.misses = cache.misses + unknown ∧
      (classifyLines cache config key lineno lines).cache.hits + unknown =
        cache.hits + lines.length := by
  induction lines generalizing cache lineno with
  | nil => exact ⟨rfl, rfl⟩
  | cons line rest ih =>
    obtain ⟨hmisses, hhits⟩ := ih (classifyLine cache config key line lineno).cache (lineno + 1)
    obtain ⟨hhits', hmisses'⟩ := counts_classifyLine cache config key line lineno
    rw [Lru.hits_get] at hhits'
    rw [Lru.misses_get] at hmisses'
    dsimp only at hmisses hhits ⊢
    rw [cache_classifyLines_cons, List.length_cons]
    by_cases h : (line, key) ∈ cache.keys
    · rw [missed_lines_cons_of_mem h]
      rw [if_pos (Lru.isSome_get.2 h)] at hhits'
      rw [← Option.not_isSome, Lru.isSome_get.2 h] at hmisses'
      simp only [Bool.not_true, Bool.false_eq_true, if_false] at hmisses'
      omega
    · rw [missed_lines_cons_of_notMem h, List.length_cons]
      rw [← Lru.isSome_get, Bool.not_eq_true] at h
      rw [← Option.not_isSome, h] at hmisses'
      rw [h] at hhits'
      simp only [Bool.not_false, if_true, Bool.false_eq_true, if_false] at hmisses' hhits'
      omega

theorem mem_missed_of_notMem_keys (hline : line ∈ lines) (h : (line, key) ∉ cache.keys) :
    line ∈ missed (momentsOfLines cache config key lineno lines) := by
  induction lines generalizing cache lineno with
  | nil => cases hline
  | cons other rest ih =>
    by_cases hother : line = other
    · subst hother
      rw [missed_lines_cons_of_notMem h]
      exact List.mem_cons_self
    · have hafter : (line, key) ∉ (classifyLine cache config key other lineno).cache.keys := by
        rw [keys_classifyLine, Lru.moveToEnd]
        intro hmem
        rcases List.mem_append.1 (List.mem_of_mem_drop hmem) with hmem | hmem
        · exact h (List.mem_of_mem_filter hmem)
        · exact hother (Prod.mk.inj (List.mem_singleton.1 hmem)).1
      have hrest : line ∈ missed (momentsOfLines _ config key (lineno + 1) rest) :=
        ih ((List.mem_cons.1 hline).resolve_left hother) hafter
      by_cases hknown : (other, key) ∈ cache.keys
      · rwa [missed_lines_cons_of_mem hknown]
      · rw [missed_lines_cons_of_notMem hknown]
        exact List.mem_cons_of_mem _ hrest

/-! ### Lines that fit into the cache -/

/-- The lines of a classification, with the keys used before it, fit into the cache. -/
def Fits (cache : LineCache) (key : String) (ks : List (String × String)) (lines : List String) :
    Prop :=
  (ks ++ lines.map (·, key)).dedup.length ≤ cache.capacity

theorem fits_of_subset {texts : List String} (hroom : texts.dedup.length ≤ cache.capacity)
    (h : ks ++ lines.map (·, key) ⊆ texts.map (·, key)) : Fits cache key ks lines :=
  Nat.le_trans (length_dedup_le_of_subset h) (Nat.le_trans (length_dedup_map_le _ texts) hroom)

theorem Fits.tail (h : Fits cache key ks (line :: rest)) (config : Config) (lineno : Nat) :
    Fits (classifyLine cache config key line lineno).cache key (ks ++ [(line, key)]) rest := by
  rw [Fits, capacity_classifyLine, List.append_assoc]
  exact h

theorem endsWith_classifyLine (h : EndsWith ks cache) (hfits : Fits cache key ks (line :: rest))
    (config : Config) (lineno : Nat) :
    EndsWith (ks ++ [(line, key)]) (classifyLine cache config key line lineno).cache := by
  have hsubset : ks ++ [(line, key)] ⊆ ks ++ (line :: rest).map (·, key) := by
    rw [List.map_cons]
    exact List.append_subset.2 ⟨List.subset_append_left _ _,
      List.subset_append_of_subset_right _ (by simp)⟩
  rw [EndsWith, keys_classifyLine]
  exact Lru.suffix_rtake_moveToEnd h (Nat.le_trans (length_dedup_le_of_subset hsubset) hfits)

theorem endsWith_classifyLines (h : EndsWith ks cache) (hfits : Fits cache key ks lines)
    (config : Config) (lineno : Nat) :
    EndsWith (ks ++ lines.map (·, key)) (classifyLines cache config key lineno lines).cache := by
  induction lines generalizing cache ks lineno with
  | nil => rwa [List.map_nil, List.append_nil]
  | cons line rest ih =>
    have hrest := ih (endsWith_classifyLine h hfits config lineno) (hfits.tail config lineno)
      (lineno + 1)
    rwa [List.append_assoc, ← cache_classifyLines_cons] at hrest

theorem keeps_nil (ks : List (String × String)) : Keeps ks [] := by
  intro before m after hseen
  cases before <;> cases hseen

theorem keeps_cons {m : Moment} {seen : List Moment} (hm : ∀ k ∈ ks, k ∈ m.cache.keys)
    (h : Keeps (ks ++ lookedUp [m]) seen) : Keeps ks (m :: seen) := by
  intro before n after hseen k hk
  cases before with
  | nil =>
    obtain ⟨rfl, rfl⟩ := List.cons.inj hseen
    exact hm k (hk.resolve_right List.not_mem_nil)
  | cons l before =>
    obtain ⟨rfl, rfl⟩ := List.cons.inj hseen
    refine h before n after rfl k ?_
    rwa [lookedUp, ← List.singleton_append, List.filterMap_append, List.mem_append, ← or_assoc,
      ← List.mem_append] at hk

/-- While lines that fit are classified, none of them is dropped once it has been looked up, and
neither is a key that was among the last ones before. -/
theorem keeps_momentsOfLines (h : EndsWith ks cache) (hfits : Fits cache key ks lines)
    (config : Config) (lineno : Nat) :
    Keeps ks (momentsOfLines cache config key lineno lines) := by
  induction lines generalizing cache ks lineno with
  | nil => exact keeps_nil ks
  | cons line rest ih =>
    have hline := endsWith_classifyLine h hfits config lineno
    rw [momentsOfLines_cons]
    refine keeps_cons (fun k hk => Lru.mem_keys_get.2 (h.mem hk)) ?_
    refine keeps_cons (fun k hk => hline.mem hk) ?_
    have hrest := ih hline (hfits.tail config lineno) (lineno + 1)
    rwa [← List.append_nil (ks ++ [(line, key)])] at hrest

/-- While lines that fit are classified, none is missed twice, and none whose key was among the last
ones before. -/
theorem missed_momentsOfLines (h : EndsWith ks cache) (hfits : Fits cache key ks lines)
    (config : Config) (lineno : Nat) :
    (missed (momentsOfLines cache config key lineno lines)).Nodup ∧
      ∀ line ∈ missed (momentsOfLines cache config key lineno lines),
        line ∈ lines ∧ (line, key) ∉ ks := by
  induction lines generalizing cache ks lineno with
  | nil => exact ⟨List.nodup_nil, nofun⟩
  | cons line rest ih =>
    obtain ⟨hnodup, hmissed⟩ := ih (endsWith_classifyLine h hfits config lineno)
      (hfits.tail config lineno) (lineno + 1)
    have hrest : ∀ other ∈ missed (momentsOfLines (classifyLine cache config key line lineno).cache
        config key (lineno + 1) rest), other ∈ line :: rest ∧ other ≠ line ∧ (other, key) ∉ ks := by
      intro other hother
      obtain ⟨hmem, hnew⟩ := hmissed other hother
      rw [List.mem_append, not_or, List.mem_singleton] at hnew
      exact ⟨List.mem_cons_of_mem _ hmem, fun he => hnew.2 (he ▸ rfl), hnew.1⟩
    by_cases hknown : (line, key) ∈ cache.keys
    · rw [missed_lines_cons_of_mem hknown]
      exact ⟨hnodup, fun other hother => ⟨(hrest other hother).1, (hrest other hother).2.2⟩⟩
    · rw [missed_lines_cons_of_notMem hknown]
      refine ⟨List.nodup_cons.2 ⟨fun hline => (hrest line hline).2.1 rfl, hnodup⟩, ?_⟩
      rintro other (_ | ⟨_, hother⟩)
      · exact ⟨List.mem_cons_self, fun hks => hknown (h.mem hks)⟩
      · exact ⟨(hrest other hother).1, (hrest other hother).2.2⟩

end

/-! ### Two texts -/

/-- What a second classification asks and finds, and how it counts: it looks every line up, in order;
it misses none of the first text, and any other one at most once, and surely if it was not there before;
all else is found. What it holds of the first text, and what it has looked up, it keeps. -/
structure ScansOnlyNew (old new : List String) (key : String) (before after : LineCache)
    (seen : List Moment) : Prop where
  lookedUp_eq : lookedUp seen = new.map (·, key)
  missed_nodup : (missed seen).Nodup
  missed_is_new : ∀ line ∈ missed seen, line ∈ new ∧ line ∉ old
  missed_of_unknown : ∀ line ∈ new, (line, key) ∉ before.keys → line ∈ missed seen
  misses_eq : after.misses = before.misses + (missed seen).length
  hits_eq : after.hits + (missed seen).length = before.hits + new.length
  keeps : Keeps (old.map (·, key)) seen

/-- **After an edit only new lines are classified.** Two texts whose different lines together are no
more than there is room for are classified one after the other under one configuration, whose key is
`key`, with any cache. The second classification scans only new lines, and a third one scans none. -/
theorem edit_rescans_new_lines (cache : LineCache) (config : Config) (key old new : String)
    (hroom : (Text.lines old ++ Text.lines new).dedup.length ≤ cache.capacity) :
    let first := (classify cache config key old).cache
    let second := (classify first config key new).cache
    let third := (classify second config key new).cache
    ScansOnlyNew (Text.lines old) (Text.lines new) key first second
        (momentsOfLines first config key 1 (Text.lines new)) ∧
      third.misses = second.misses ∧ third.hits = second.hits + (Text.lines new).length := by
  intro first second third
  have hfirst : first.capacity = cache.capacity := capacity_classifyLines ..
  have hsecond : second.capacity = cache.capacity := (capacity_classifyLines ..).trans hfirst
  have hold : (Text.lines old).map (·, key) ⊆ (Text.lines old ++ Text.lines new).map (·, key) :=
    List.map_subset _ (List.subset_append_left _ _)
  have hnew : (Text.lines new).map (·, key) ⊆ (Text.lines old ++ Text.lines new).map (·, key) :=
    List.map_subset _ (List.subset_append_right _ _)
  -- the lines of the first text are the last keys after it, and those of both after the second one
  have hends := endsWith_classifyLines (Lru.endsWith_nil cache) (fits_of_subset hroom hold) config 1
  have hfits : Fits first key ((Text.lines old).map (·, key)) (Text.lines new) :=
    fits_of_subset (hfirst ▸ hroom) (List.append_subset.2 ⟨hold, hnew⟩)
  have hends' := endsWith_classifyLines hends hfits config 1
  have hfits' : Fits second key
      ((Text.lines old).map (·, key) ++ (Text.lines new).map (·, key)) (Text.lines new) :=
    fits_of_subset (hsecond ▸ hroom)
      (List.append_subset.2 ⟨List.append_subset.2 ⟨hold, hnew⟩, hnew⟩)
  obtain ⟨hnodup, hmissed⟩ := missed_momentsOfLines hends hfits config 1
  obtain ⟨hmisses, hhits⟩ := counts_classifyLines first config key 1 (Text.lines new)
  refine ⟨⟨lookedUp_momentsOfLines .., hnodup, fun line hline => ?_, fun line hline hunknown => ?_,
    hmisses, hhits, keeps_momentsOfLines hends hfits config 1⟩, ?_⟩
  · obtain ⟨hmem, hkey⟩ := hmissed line hline
    exact ⟨hmem, fun hline => hkey (List.mem_map_of_mem hline)⟩
  · exact mem_missed_of_notMem_keys hline hunknown
  · -- every line of the third classification is one of the second
    have hnone : missed (momentsOfLines second config key 1 (Text.lines new)) = [] := by
      refine List.eq_nil_iff_forall_not_mem.2 fun line hline => ?_
      obtain ⟨hmem, hkey⟩ := (missed_momentsOfLines hends' hfits' config 1).2 line hline
      exact hkey (List.mem_append_right _ (List.mem_map_of_mem hmem))
    obtain ⟨hmisses', hhits'⟩ := counts_classifyLines second config key 1 (Text.lines new)
    rw [hnone] at hmisses' hhits'
    exact ⟨hmisses', hhits'⟩

/-- The cache is full of other lines, and the two texts need all of it: the first look-up of the new
line drops the last of the others and not the line of the first text. -/
theorem edit_rescans_new_line_in_full_cache :
    let cache : LineCache :=
      (((Lru.empty 2 Nat.two_pos).put ("x", "k") []).2.put ("y", "k") []).2
    let first := (classify cache Config.default "k" "a").cache
    let second := (classify first Config.default "k" "b\na\nb").cache
    let seen := momentsOfLines first Config.default "k" 1 ["b", "a", "b"]
    (Text.lines "a" ++ Text.lines "b\na\nb").dedup.length ≤ cache.capacity ∧
      ScansOnlyNew ["a"] ["b", "a", "b"] "k" first second seen ∧
      first.keys = [("y", "k"), ("a", "k")] ∧ missed seen = ["b"] ∧
      second.keys = [("a", "k"), ("b", "k")] := by
  refine ⟨by decide, (edit_rescans_new_lines _ Config.default "k" "a" "b\na\nb" (by decide)).1, ?_, ?_,
    ?_⟩
  · decide +kernel
  · decide +kernel
  · decide +kernel

end LineCache

end TagHighlight
