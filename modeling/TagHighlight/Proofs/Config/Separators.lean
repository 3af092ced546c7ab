import TagHighlight.Proofs.Config.Keys
import TagHighlight.Proofs.Lexer.Lookups

/-!
# What the encoding of a configuration tells

The encoding joins words by unit separators and tables by record separators, and it escapes neither.
A word that holds a separator can therefore look like two words or like the end of a table: the
keywords `a` and `b` have the encoding of the one keyword that is `a`, a unit separator and `b`, and
only the former make `a` a keyword.

The text still ends with the word for the policy, so equal encodings mean equal policies, and two
configurations with one encoding classify alike exactly when their tables agree on what a line can
ask. They do agree when no word holds a separator (`Config.Separable`): cutting the text at its
separators then finds every word again, the empty one apart, and no line asks for that.
-/

namespace TagHighlight

open TagHighlight.Lexer (IsWord IsName SameEntries SameLookups)
open TagHighlight.Unicode (lower lowerAfter lowerChar)

def unitSeparator : CodePoint := .char '\x1f'

def recordSeparator : CodePoint := .char '\x1e'

/-- All entries of the table are texts, and none of them holds a separator. -/
structure Table.Separable (t : Table) : Prop where
  texts : t.others = []
  words : ∀ w ∈ t.words, unitSeparator ∉ w.points ∧ recordSeparator ∉ w.points

/-! ### Encodings of tables -/

namespace Table.Separable

theorem record_notMem_join {t : Table} (h : t.Separable) :
    recordSeparator ∉ (LooseText.join "\x1f" t.words).points := by
  intro hmem
  rcases LooseText.mem_points_join hmem with hsep | ⟨w, hw, hmem⟩
  · exact absurd hsep (by decide)
  · exact (h.words w hw).2 hmem

theorem mem_words_iff {t : Table} (h : t.Separable) {w : LooseText} (hw : w.points ≠ []) :
    w ∈ t.words ↔ w.points ∈ (LooseText.join "\x1f" t.words).points.splitOn unitSeparator := by
  show w ∈ t.words ↔ w.points ∈ ([unitSeparator].intercalate _).splitOn unitSeparator
  by_cases hwords : t.words = []
  · rw [hwords]
    simpa using hw
  · have hsep : ∀ l ∈ t.words.map LooseText.points, unitSeparator ∉ l := by
      intro l hl
      obtain ⟨v, hv, rfl⟩ := List.mem_map.1 hl
      exact (h.words v hv).1
    rw [List.splitOn_intercalate _ hsep (by simpa using hwords), List.mem_map]
    refine ⟨fun hmem => ⟨w, hmem, rfl⟩, ?_⟩
    rintro ⟨v, hv, hvw⟩
    obtain ⟨points⟩ := w
    rwa [← show v = ⟨points⟩ from congrArg LooseText.mk hvw]

theorem contains_eq {t u : Table} (ht : t.Separable) (hu : u.Separable)
    (h : LooseText.join "\x1f" t.words = .join "\x1f" u.words) {w : String} (hw : w ≠ "") :
    t.contains w = u.contains w := by
  have hne : (LooseText.ofString w).points ≠ [] := by
    rw [LooseText.ofString, Ne, List.map_eq_nil_iff, String.toList_eq_nil_iff]
    exact hw
  rw [Bool.eq_iff_iff, Table.contains, Table.contains, List.contains_iff_mem,
    List.contains_iff_mem, ht.mem_words_iff hne, hu.mem_words_iff hne, h]

end Table.Separable

/-! ### Encodings of configurations -/

structure Config.Separable (c : Config) : Prop where
  keywords : c.keywords.Separable
  punctuation : c.punctuation.Separable
  elementNames : c.elementNames.Separable

theorem Config.Separable.holdsTexts {c : Config} (h : c.Separable) : c.HoldsTexts :=
  ⟨h.keywords.texts, h.punctuation.texts, h.elementNames.texts⟩

/-- A truth value as it is encoded. -/
def flagWord (p : Bool) : String := if p then "True" else "False"

theorem Json.text_bool (p : Bool) : (Json.bool p).text = .ok (flagWord p) := by
  cases p <;> rfl

theorem Config.encoding_eq_join {c : Config} {p : Bool} {text : LooseText}
    (hp : c.unterminatedToEol = .bool p) (h : c.encoding = .ok text) :
    text = .join "\x1e" (c.parts (flagWord p)) := by
  obtain ⟨-, switch, hswitch, rfl⟩ := encoding_eq_ok_iff.1 h
  rw [hp, Json.text_bool] at hswitch
  rw [← Except.ok.inj hswitch]

theorem Config.Separable.encoding_eq {c : Config} {p : Bool} (h : c.Separable)
    (hp : c.unterminatedToEol = .bool p) :
    c.encoding = .ok (.join "\x1e" (c.parts (flagWord p))) :=
  encoding_eq_ok_iff.2 ⟨h.holdsTexts, _, by rw [hp, Json.text_bool], rfl⟩

theorem policy_eq_of_encoding_eq {c d : Config} {p q : Bool} {text : LooseText}
    (hp : c.unterminatedToEol = .bool p) (hq : d.unterminatedToEol = .bool q)
    (hc : c.encoding = .ok text) (hd : d.encoding = .ok text) : p = q := by
  have h := (Config.encoding_eq_join hp hc).symm.trans (Config.encoding_eq_join hq hd)
  have hrev := congrArg (fun t => t.points.reverse) h
  -- the last two characters are `ue` after one policy and `se` after the other
  cases p <;> cases q <;>
    simp [Config.parts, LooseText.join, LooseText.ofString, flagWord] at hrev ⊢

theorem Config.Separable.record_notMem_parts {c : Config} (h : c.Separable) (p : Bool) :
    ∀ l ∈ (c.parts (flagWord p)).map LooseText.points, recordSeparator ∉ l := by
  intro l hl
  obtain ⟨s, hs, rfl⟩ := List.mem_map.1 hl
  simp only [Config.parts, List.mem_cons, List.not_mem_nil, or_false] at hs
  rcases hs with rfl | rfl | rfl | rfl
  · exact h.keywords.record_notMem_join
  · exact h.punctuation.record_notMem_join
  · exact h.elementNames.record_notMem_join
  · cases p <;> decide

theorem parts_eq_of_encoding_eq {c d : Config} {p q : Bool} {text : LooseText} (hcs : c.Separable)
    (hds : d.Separable) (hp : c.unterminatedToEol = .bool p) (hq : d.unterminatedToEol = .bool q)
    (hc : c.encoding = .ok text) (hd : d.encoding = .ok text) :
    c.parts (flagWord p) = d.parts (flagWord q) := by
  have h := (Config.encoding_eq_join hp hc).symm.trans (Config.encoding_eq_join hq hd)
  have hlists := congrArg (fun t => t.points.splitOn recordSeparator) h
  change ([recordSeparator].intercalate _).splitOn _ = ([recordSeparator].intercalate _).splitOn _
    at hlists
  rw [List.splitOn_intercalate _ (hcs.record_notMem_parts p) (by simp [Config.parts]),
    List.splitOn_intercalate _ (hds.record_notMem_parts q) (by simp [Config.parts])] at hlists
  refine (List.map_inj_right fun s t hst => ?_).1 hlists
  obtain ⟨points⟩ := s
  exact congrArg LooseText.mk hst

theorem lower_ne_empty {s : String} (h : s ≠ "") : lower s ≠ "" := by
  intro hlower
  rw [lower, String.ofList_eq_empty_iff] at hlower
  obtain ⟨c, cs, hs⟩ := List.exists_cons_of_ne_nil fun he => h (String.toList_eq_nil_iff.1 he)
  rw [hs, lowerAfter] at hlower
  have hchar := (List.append_eq_nil_iff.1 hlower).1
  unfold lowerChar at hchar
  split at hchar
  · cases hchar
  · split at hchar <;> cases hchar

theorem sameEntries_of_parts_eq {c d : Config} {v w : LooseText} (hc : c.Separable)
    (hd : d.Separable) (h : c.parts v = d.parts w) : SameEntries c d := by
  simp only [Config.parts, List.cons.injEq] at h
  obtain ⟨hkeywords, hpunctuation, hnames, _⟩ := h
  have hne : ∀ w : List Char, w ≠ [] → String.ofList w ≠ "" :=
    fun w hw he => hw (String.ofList_eq_empty_iff.1 he)
  refine ⟨fun w hw => ?_, fun w hw _ => ?_, fun n hn _ _ => ?_⟩
  · exact hc.keywords.contains_eq hd.keywords hkeywords (hne w hw.1)
  · exact hc.punctuation.contains_eq hd.punctuation hpunctuation (hne w hw.1)
  · exact hc.elementNames.contains_eq hd.elementNames hnames (lower_ne_empty (hne n hn.1))

/-- Without separators in words, an encoding decides how every line is classified. -/
theorem sameLookups_of_encoding_eq {c d : Config} {p q : Bool} {text : LooseText} (hcs : c.Separable)
    (hds : d.Separable) (hp : c.unterminatedToEol = .bool p) (hq : d.unterminatedToEol = .bool q)
    (hc : c.encoding = .ok text) (hd : d.encoding = .ok text) : SameLookups c d := by
  refine ⟨sameEntries_of_parts_eq hcs hds (parts_eq_of_encoding_eq hcs hds hp hq hc hd), ?_⟩
  rw [hp, hq, policy_eq_of_encoding_eq hp hq hc hd]

/-! ### When an encoding decides -/

/-- **Two configurations with one encoding classify every line alike exactly when their tables agree
on every word and every name that a line can hold. They do when no word of the tables holds a
separator.** -/
theorem classify_alike_iff_of_encoding_eq {c d : Config} {p q : Bool} {text : LooseText}
    (hp : c.unterminatedToEol = .bool p) (hq : d.unterminatedToEol = .bool q)
    (hc : c.encoding = .ok text) (hd : d.encoding = .ok text) :
    ((∀ line, Lexer.tokens c line = Lexer.tokens d line) ↔ SameEntries c d) ∧
      (c.Separable → d.Separable → ∀ line, Lexer.tokens c line = Lexer.tokens d line) := by
  have hpolicy : c.unterminatedToEol.isOn = d.unterminatedToEol.isOn := by
    rw [hp, hq, policy_eq_of_encoding_eq hp hq hc hd]
  rw [Lexer.tokens_eq_iff_sameLookups]
  refine ⟨⟨fun h => h.toSameEntries, fun h => ⟨h, hpolicy⟩⟩, fun hcs hds => ?_⟩
  exact sameLookups_of_encoding_eq hcs hds hp hq hc hd

/-- The configuration with the given keywords and nothing else in its tables. -/
def withKeywords (words : List LooseText) : Config :=
  .make (.ofWords words) (.ofWords []) (.ofWords []) (.bool true) (.bool false)

theorem separable_withKeywords {words : List LooseText}
    (h : ∀ w ∈ words, unitSeparator ∉ w.points ∧ recordSeparator ∉ w.points) :
    (withKeywords words).Separable := by
  have hnone : Table.Separable (.ofWords []) := ⟨rfl, by intro w hw; cases hw⟩
  exact ⟨⟨rfl, fun w hw => h w (mem_sortWords.1 hw)⟩, hnone, hnone⟩

/-- The empty word leaves no trace in an encoding, and no line asks for it. -/
theorem classify_alike_without_empty_word :
    (withKeywords []).encoding = .ok "\x1e\x1e\x1eTrue" ∧
      (withKeywords [""]).encoding = .ok "\x1e\x1e\x1eTrue" ∧
      ∀ line, Lexer.tokens (withKeywords []) line = Lexer.tokens (withKeywords [""]) line := by
  refine ⟨rfl, rfl, (classify_alike_iff_of_encoding_eq rfl rfl rfl rfl).2 ?_ ?_⟩
  · exact separable_withKeywords (by decide)
  · exact separable_withKeywords (by decide)

/-- The keywords `a` and `b` and the one keyword that joins them by a unit separator have one
encoding, but only the former make `a` a keyword. -/
theorem encoding_merges_words :
    (withKeywords ["a", "b"]).encoding = .ok "a\x1fb\x1e\x1e\x1eTrue" ∧
      (withKeywords ["a\x1fb"]).encoding = .ok "a\x1fb\x1e\x1e\x1eTrue" ∧
      Lexer.tokens (withKeywords ["a", "b"]) "a" = [⟨"a", .keyword, 0⟩] ∧
      Lexer.tokens (withKeywords ["a\x1fb"]) "a" = [⟨"a", .plain, 0⟩] := by
  have hword : IsWord ['a'] := by
    change IsWord (Lexer.word 'a' []).1
    exact Lexer.isWord_word rfl rfl rfl
  exact ⟨rfl, rfl, Lexer.tokens_word _ hword, Lexer.tokens_word _ hword⟩

end TagHighlight
