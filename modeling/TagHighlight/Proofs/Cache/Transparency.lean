import TagHighlight.Proofs.Cache.Lru
import TagHighlight.Proofs.Config.Separators
import TagHighlight.Proofs.Lexer.Partition
import TagHighlight.Session.Basic

/-!
# A cache changes no answer, where there is a key

Texts are classified under any number of configurations with one cache, which may be cleared in
between. Every answer is the one that is given without a cache, provided that the configuration has a
key, that no word of a table holds a separator, that the policies are truth values, and that different
encodings in the run have different keys. A configuration has no key when a surrogate stands alone in
a word: classifying with the cache then fails, although without the cache there is an answer.

The invariant is `Sound`: an entry holds the tokens of its line under every configuration of the run
that has its key. What is stored is the tokens under the configuration of the call; another
configuration with the same key has the same encoding, and so gives the same tokens. Look-ups,
stores with what they drop, and clears keep the invariant, since each entry afterwards was there
before or has just been stored; a use that fails for the key leaves the cache alone.
-/

namespace TagHighlight

/-! ### Keys that only alike configurations share -/

/-- Configurations of the list with one key classify every line alike. -/
def KeysTellApart (configs : List Config) : Prop :=
  ∀ c ∈ configs, ∀ d ∈ configs, ∀ key, c.key = .ok key → d.key = .ok key →
    ∀ line, Lexer.tokens c line = Lexer.tokens d line

/-- The digests of two encodings are cut to one key only if the encodings are equal. -/
def DigestsTellApart (configs : List Config) : Prop :=
  ∀ c ∈ configs, ∀ d ∈ configs, ∀ s t : String, c.encoding = .ok s → d.encoding = .ok t →
    truncate (Digest.ofString s) keyLength = truncate (Digest.ofString t) keyLength → s = t

theorem Config.Separable.key_cases {c : Config} {p : Bool} (h : c.Separable)
    (hp : c.unterminatedToEol = .bool p) :
    (c.WordsAreStrings ∧ ∃ key, c.key = .ok key) ∨
      ¬c.WordsAreStrings ∧ ∃ e, c.key = .error (.loneSurrogates e) := by
  have hswitch : c.unterminatedToEol.text = .ok (flagWord p) := by rw [hp, Json.text_bool]
  by_cases hwords : c.WordsAreStrings
  · exact .inl ⟨hwords, exists_key_iff.2 ⟨h.holdsTexts, hwords, _, hswitch⟩⟩
  · refine .inr ⟨hwords, key_eq_error_of_not_isString (h.encoding_eq hp) fun hstring => ?_⟩
    exact hwords (isString_join_parts_iff.1 hstring).1

theorem keysTellApart {configs : List Config} (hsep : ∀ c ∈ configs, c.Separable)
    (hflag : ∀ c ∈ configs, ∃ p, c.unterminatedToEol = .bool p)
    (hdigest : DigestsTellApart configs) : KeysTellApart configs := by
  intro c hc d hd key hck hdk
  obtain ⟨s, hs, hskey⟩ := Config.key_eq_ok_iff.1 hck
  obtain ⟨t, ht, htkey⟩ := Config.key_eq_ok_iff.1 hdk
  have hst : s = t := hdigest c hc d hd s t hs ht (hskey.symm.trans htkey)
  subst hst
  obtain ⟨p, hp⟩ := hflag c hc
  obtain ⟨q, hq⟩ := hflag d hd
  exact (sameLookups_of_encoding_eq (hsep c hc) (hsep d hd) hp hq hs ht).tokens_eq

/-! ### The invariant -/

namespace LineCache

/-- An entry holds the tokens of its line under every configuration that has its key. -/
def Sound (configs : List Config) (cache : LineCache) : Prop :=
  ∀ line key tokens, ((line, key), tokens) ∈ cache.entries →
    ∀ c ∈ configs, c.key = .ok key → tokens = Lexer.tokens c line

theorem sound_empty (configs : List Config) {capacity : Nat} (h : 0 < capacity) :
    Sound configs (Lru.empty capacity h) := by
  intro line key tokens hmem
  cases hmem

theorem Sound.get {configs : List Config} {cache : LineCache} (h : Sound configs cache)
    (k : String × String) : Sound configs (cache.get k).2 :=
  fun line key tokens hmem => h line key tokens (Lru.mem_of_mem_entries_get hmem)

theorem Sound.put {configs : List Config} {cache : LineCache} (h : Sound configs cache)
    (happart : KeysTellApart configs) {c : Config} (hc : c ∈ configs) {key : String}
    (hkey : c.key = .ok key) (line : String) :
    Sound configs (cache.put (line, key) (Lexer.tokens c line)).2 := by
  intro line' key' tokens hmem d hd hdkey
  rcases Lru.mem_of_mem_entries_put hmem with he | hmem
  · obtain ⟨⟨rfl, rfl⟩, rfl⟩ := Prod.mk.inj he |>.imp_left Prod.mk.inj
    exact happart c hc d hd _ hkey hdkey _
  · exact h line' key' tokens hmem d hd hdkey

variable {configs : List Config} {cache : LineCache} {c : Config} {key : String}

theorem Sound.classifyLine (h : Sound configs cache) (happart : KeysTellApart configs)
    (hc : c ∈ configs) (hkey : c.key = .ok key) (line : String) (lineno : Nat) :
    (LineCache.classifyLine cache c key line lineno).result = .ok (Lexer.tokens c line) ∧
      Sound configs (LineCache.classifyLine cache c key line lineno).cache := by
  have hfst := Lru.get_fst cache (line, key)
  have hget := h.get (line, key)
  unfold LineCache.classifyLine
  cases hlook : cache.get (line, key) with
  | mk found after =>
    rw [hlook] at hfst hget
    cases found with
    | some tokens =>
      -- a hit: the entry that is found satisfies the invariant
      refine ⟨?_, hget⟩
      rw [h line key tokens (mem_of_lookup hfst.symm) c hc hkey]
    | none =>
      -- a miss: the tokens are computed and stored
      simp only [classifyLine_eq, store, true_and]
      exact hget.put happart hc hkey line

theorem Sound.classifyLines (h : Sound configs cache) (happart : KeysTellApart configs)
    (hc : c ∈ configs) (hkey : c.key = .ok key) (lineno : Nat) (lines : List String) :
    (LineCache.classifyLines cache c key lineno lines).result =
        .ok (lines.map (Lexer.tokens c)) ∧
      Sound configs (LineCache.classifyLines cache c key lineno lines).cache := by
  induction lines generalizing cache lineno with
  | nil => exact ⟨rfl, h⟩
  | cons line lines ih =>
    obtain ⟨hresult, hsound⟩ := h.classifyLine happart hc hkey line lineno
    obtain ⟨hrest, hafter⟩ := ih hsound (lineno + 1)
    simp only [LineCache.classifyLines, hresult]
    exact ⟨by rw [hrest]; rfl, hafter⟩

end LineCache

/-! ### Runs -/

theorem SessionM.bind_of_ok {α β : Type} {x : SessionM α} {f : α → SessionM β} {s s' : Session}
    {a : α} (h : x s = (.ok a, s')) : (x >>= f) s = f a s' := by
  change (x s >>= fun r => ExceptT.bindCont f r.1 r.2 : Id _) = _
  rw [h]
  rfl

theorem SessionM.bind_of_error {α β : Type} {x : SessionM α} {f : α → SessionM β} {s s' : Session}
    {e : SessionError} (h : x s = (.error e, s')) : (x >>= f) s = (.error e, s') := by
  change (x s >>= fun r => ExceptT.bindCont f r.1 r.2 : Id _) = _
  rw [h]
  rfl

/-- A use of the cache of a session. -/
inductive CacheUse
  | classify (text : String) (config : Config)
  | clear

namespace CacheUse

def perform : CacheUse → SessionM (Option (List (List Token)))
  | classify text config => do return some (← SessionM.classifyText config true text)
  | clear => do
    SessionM.setCache (← SessionM.getCache "clear").clear
    return none

def uncached : CacheUse → Except SessionError (Option (List (List Token)))
  | classify text config => ((TagHighlight.classify config text).map some).mapError .partition
  | clear => .ok none

def performAll : List CacheUse → Session → List (Except SessionError (Option (List (List Token))))
  | [], _ => []
  | use :: uses, s => (use.perform s).1 :: performAll uses (use.perform s).2

def config? : CacheUse → Option Config
  | classify _ config => some config
  | clear => none

theorem classifyText_eq {s : Session} {cache : LineCache} (hs : s.cache = some cache) {c : Config}
    {key text : String} {ls : List (List Token)} (hkey : c.key = .ok key)
    (hresult : (LineCache.classify cache c key text).result = .ok ls) :
    SessionM.classifyText c true text s =
      (.ok ls, { s with
        cache := some (LineCache.classify cache c key text).cache
        log := s.log ++ (LineCache.classify cache c key text).log }) := by
  obtain ⟨_, active, log⟩ := s
  subst hs
  unfold SessionM.classifyText
  simp only [SessionM.keyOf, hkey]
  change SessionM.ofExcept SessionError.partition (LineCache.classify cache c key text).result _ = _
  rw [hresult]
  rfl

theorem classifyText_of_error {s : Session} {cache : LineCache} (hs : s.cache = some cache)
    {c : Config} {e : ConfigError} (hkey : c.key = .error e) (text : String) :
    SessionM.classifyText c true text s = (.error (.config e), s) := by
  obtain ⟨_, active, log⟩ := s
  subst hs
  unfold SessionM.classifyText
  simp only [SessionM.keyOf, hkey]
  rfl

/-- The use needs no key, or there is one. -/
def HasKey (use : CacheUse) : Prop := ∀ c, use.config? = some c → c.WordsAreStrings

/-- What a use answers, with the cache or for the want of a key. -/
structure Answers (use : CacheUse) (answer : Except SessionError (Option (List (List Token)))) :
    Prop where
  cached : use.HasKey → answer = use.uncached
  keyless : ¬use.HasKey → ∃ e, answer = .error e ∧ e.raised.kind = .unicodeEncoding

theorem exists_uncached (use : CacheUse) : ∃ ls, use.uncached = .ok ls := by
  cases use with
  | clear => exact ⟨none, rfl⟩
  | classify text c => exact ⟨_, by rw [uncached, classify_eq]; rfl⟩

theorem Answers.eq_uncached_iff {use : CacheUse}
    {answer : Except SessionError (Option (List (List Token)))} (h : use.Answers answer) :
    answer = use.uncached ↔ use.HasKey := by
  refine ⟨fun heq => ?_, h.cached⟩
  by_contra hkeyless
  obtain ⟨e, he, -⟩ := h.keyless hkeyless
  obtain ⟨ls, hls⟩ := use.exists_uncached
  rw [he, hls] at heq
  cases heq

/-- A use of a sound cache answers what is answered without one, or fails for the key, and leaves a
sound cache. -/
theorem perform_answers {configs : List Config} (happart : KeysTellApart configs)
    (hsep : ∀ c ∈ configs, c.Separable) (hflag : ∀ c ∈ configs, ∃ p, c.unterminatedToEol = .bool p)
    {s : Session} {cache : LineCache} (hs : s.cache = some cache) (hsound : cache.Sound configs)
    {use : CacheUse} (huse : ∀ c, use.config? = some c → c ∈ configs) :
    use.Answers (use.perform s).1 ∧
      ∃ after, (use.perform s).2.cache = some after ∧ LineCache.Sound configs after := by
  cases use with
  | clear =>
    obtain ⟨_, active, log⟩ := s
    subst hs
    refine ⟨⟨fun _ => rfl, fun hkeyless => absurd nofun hkeyless⟩, cache.clear, rfl, ?_⟩
    exact LineCache.sound_empty configs cache.capacity_pos
  | classify text c =>
    have hc := huse c rfl
    have hasKey : HasKey (classify text c) ↔ c.WordsAreStrings := by simp [HasKey, config?]
    obtain ⟨p, hp⟩ := hflag c hc
    rcases (hsep c hc).key_cases hp with ⟨hwords, key, hkey⟩ | ⟨hwords, e, hkey⟩
    · obtain ⟨hresult, hafter⟩ := hsound.classifyLines happart hc hkey 1 (Text.lines text)
      rw [perform, SessionM.bind_of_ok (classifyText_eq hs hkey hresult)]
      refine ⟨⟨fun _ => ?_, fun hkeyless => absurd (hasKey.2 hwords) hkeyless⟩, _, rfl, hafter⟩
      rw [uncached, classify_eq]
      rfl
    · rw [perform, SessionM.bind_of_error (classifyText_of_error hs hkey text)]
      exact ⟨⟨fun h => absurd (hasKey.1 h) hwords, fun _ => ⟨_, rfl, rfl⟩⟩, cache, hs, hsound⟩

theorem performAll_answers {configs : List Config} (happart : KeysTellApart configs)
    (hsep : ∀ c ∈ configs, c.Separable) (hflag : ∀ c ∈ configs, ∃ p, c.unterminatedToEol = .bool p)
    {uses : List CacheUse} {s : Session} {cache : LineCache} (hs : s.cache = some cache)
    (hsound : cache.Sound configs) (huses : ∀ use ∈ uses, ∀ c, use.config? = some c → c ∈ configs) :
    List.Forall₂ Answers uses (performAll uses s) := by
  induction uses generalizing s cache with
  | nil => exact .nil
  | cons use uses ih =>
    obtain ⟨hanswer, after, hs', hsound'⟩ :=
      perform_answers happart hsep hflag hs hsound (huses use List.mem_cons_self)
    have hrest : ∀ u ∈ uses, ∀ c, u.config? = some c → c ∈ configs :=
      fun u hu => huses u (List.mem_cons_of_mem _ hu)
    exact .cons hanswer (ih hs' hsound' hrest)

theorem eq_map_uncached_iff {uses : List CacheUse}
    {answers : List (Except SessionError (Option (List (List Token))))}
    (h : List.Forall₂ Answers uses answers) :
    answers = uses.map uncached ↔ ∀ use ∈ uses, use.HasKey := by
  induction h with
  | nil => simp
  | cons hanswer _ ih =>
    rw [List.map_cons, List.cons.injEq, hanswer.eq_uncached_iff, ih, List.forall_mem_cons]

/-- **Uses of a cache that was empty, in any order and number, answer what is answered without a
cache, those apart whose configuration has a word with a lone surrogate: they fail.** -/
theorem performAll_eq_uncached_iff {capacity : Nat} (hcapacity : 0 < capacity) {s : Session}
    (hs : s.cache = some (Lru.empty capacity hcapacity)) (uses : List CacheUse)
    (hsep : ∀ c ∈ uses.filterMap config?, c.Separable)
    (hflag : ∀ c ∈ uses.filterMap config?, ∃ p, c.unterminatedToEol = .bool p)
    (hdigest : DigestsTellApart (uses.filterMap config?)) :
    List.Forall₂ Answers uses (performAll uses s) ∧
      (performAll uses s = uses.map uncached ↔
        ∀ c ∈ uses.filterMap config?, c.WordsAreStrings) := by
  have hanswers : List.Forall₂ Answers uses (performAll uses s) := by
    refine performAll_answers (keysTellApart hsep hflag hdigest) hsep hflag hs
      (LineCache.sound_empty _ hcapacity) fun use huse c hc => ?_
    exact List.mem_filterMap.2 ⟨use, huse, hc⟩
  refine ⟨hanswers, (eq_map_uncached_iff hanswers).trans ?_⟩
  simp only [HasKey, List.mem_filterMap, forall_exists_index, and_imp]
  exact ⟨fun h c use huse hc => h use huse c hc, fun h use huse c hc => h c use huse hc⟩

/-- One line is all that the cache holds: the second use drops what the first one stored, and the
third one does not find what was stored under another configuration. -/
theorem performAll_of_one_line :
    let uses := [classify "a\nb" (withKeywords []), classify "a" (withKeywords []),
      classify "a" (withKeywords ["a"]), clear, classify "" (withKeywords ["a"])]
    (withKeywords []).key ≠ (withKeywords ["a"]).key ∧
      performAll uses { cache := some (Lru.empty 1 Nat.one_pos) } = uses.map uncached := by
  intro uses
  have hconfigs : ∀ c ∈ uses.filterMap config?, c = withKeywords [] ∨ c = withKeywords ["a"] := by
    simp [uses, config?]
  have hnone : (withKeywords []).encoding = .ok "\x1e\x1e\x1eTrue" := rfl
  have hone : (withKeywords ["a"]).encoding = .ok "a\x1e\x1e\x1eTrue" := rfl
  have hdigests : truncate (Digest.ofString "\x1e\x1e\x1eTrue") keyLength ≠
      truncate (Digest.ofString "a\x1e\x1e\x1eTrue") keyLength := by decide +kernel
  have hencoding {c : Config} (hc : c ∈ uses.filterMap config?) {s : String}
      (hs : c.encoding = .ok s) : s = "\x1e\x1e\x1eTrue" ∨ s = "a\x1e\x1e\x1eTrue" := by
    rcases hconfigs c hc with rfl | rfl
    · exact .inl (LooseText.ofString_inj.1 (Except.ok.inj (hs.symm.trans hnone)))
    · exact .inr (LooseText.ofString_inj.1 (Except.ok.inj (hs.symm.trans hone)))
  refine ⟨fun hkey => ?_, (performAll_eq_uncached_iff Nat.one_pos rfl uses ?_ ?_ ?_).2.2 ?_⟩
  · rw [Config.key_eq_ok_iff.2 ⟨_, hnone, rfl⟩, Config.key_eq_ok_iff.2 ⟨_, hone, rfl⟩] at hkey
    exact hdigests (Except.ok.inj hkey)
  · intro c hc
    rcases hconfigs c hc with rfl | rfl
    · exact separable_withKeywords (by decide)
    · exact separable_withKeywords (by decide)
  · intro c hc
    rcases hconfigs c hc with rfl | rfl
    · exact ⟨true, rfl⟩
    · exact ⟨true, rfl⟩
  · intro c hc d hd s t hs ht heq
    rcases hencoding hc hs with rfl | rfl <;> rcases hencoding hd ht with rfl | rfl
    · rfl
    · exact absurd heq hdigests
    · exact absurd heq.symm hdigests
    · rfl
  · intro c hc
    apply Config.WordsAreStrings.of_key
    rcases hconfigs c hc with rfl | rfl
    · exact ⟨_, Config.key_eq_ok_iff.2 ⟨_, hnone, rfl⟩⟩
    · exact ⟨_, Config.key_eq_ok_iff.2 ⟨_, hone, rfl⟩⟩

/-- The keyword that is one surrogate: without the cache the line is a plain word, and with the cache
there is no answer. -/
theorem cached_word_of_surrogate_fails :
    let c := withKeywords [⟨[.surrogate 0]⟩]
    c.Separable ∧ c.unterminatedToEol = .bool true ∧ DigestsTellApart [c] ∧
      uncached (classify "a" c) = .ok (some [[⟨"a", .plain, 0⟩]]) ∧
      performAll [classify "a" c] { cache := some (Lru.empty 1 Nat.one_pos) } =
        [.error (.config (.loneSurrogates ⟨0, 0, 1⟩))] := by
  intro c
  have hsep : c.Separable := separable_withKeywords (by decide)
  have hkey : c.key = .error (.loneSurrogates ⟨0, 0, 1⟩) := by
    rw [Config.key_of_encoding (hsep.encoding_eq rfl)]
    rfl
  refine ⟨hsep, rfl, fun d hd e he s t hs _ _ => ?_, ?_, ?_⟩
  · obtain rfl := List.mem_singleton.1 hd
    rw [Config.key_eq_ok_iff.2 ⟨s, hs, rfl⟩] at hkey
    cases hkey
  · have hword : Lexer.IsWord ['a'] := by
      change Lexer.IsWord (Lexer.word 'a' []).1
      exact Lexer.isWord_word rfl rfl rfl
    rw [uncached, classify_eq]
    show Except.ok (some [Lexer.tokens c (String.ofList ['a'])]) = _
    rw [Lexer.tokens_word c hword]
    rfl
  · rw [performAll, perform, SessionM.bind_of_error (classifyText_of_error rfl hkey "a")]
    rfl

end CacheUse

end TagHighlight
