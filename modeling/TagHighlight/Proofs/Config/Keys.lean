import TagHighlight.Config.Encoding
import TagHighlight.Proofs.Text.Strings
import TagHighlight.Proofs.Traversal

/-!
# When a configuration has a key

The encoding of a configuration is made of parts, one for each table and one for the switch of
unterminated quotes. It can be made when all entries of the tables are texts and the switch can be
written (`Config.encoding_eq_ok_iff`), and it has a digest when no surrogate stands alone in it. So a
configuration has a key exactly when all these texts are strings (`Config.exists_key_iff`), and with
all entries texts and a switch that can be written it fails for its surrogates otherwise.
-/

namespace TagHighlight

theorem Json.least?_eq_none_iff {vs : List Json} : Json.least? vs = none ↔ vs = [] := by
  cases vs with
  | nil => exact iff_of_true rfl rfl
  | cons v vs => exact iff_of_false nofun nofun

theorem Table.encoding_eq_ok_iff {t : Table} {text : LooseText} :
    t.encoding = .ok text ↔ t.others = [] ∧ text = .join "\x1f" t.words := by
  unfold encoding
  cases hleast : Json.least? t.others with
  | some v =>
    refine iff_of_false nofun fun h => ?_
    rw [Json.least?_eq_none_iff.2 h.1] at hleast
    cases hleast
  | none =>
    rw [Except.ok.injEq]
    exact ⟨fun h => ⟨Json.least?_eq_none_iff.1 hleast, h.symm⟩, fun h => h.2.symm⟩

namespace Config

structure HoldsTexts (c : Config) : Prop where
  keywords : c.keywords.others = []
  punctuation : c.punctuation.others = []
  elementNames : c.elementNames.others = []

/-- What an encoding is made of, with the switch as text. -/
def parts (c : Config) (switch : LooseText) : List LooseText :=
  [.join "\x1f" c.keywords.words, .join "\x1f" c.punctuation.words,
    .join "\x1f" c.elementNames.words, switch]

theorem encoding_eq_ok_iff {c : Config} {text : LooseText} :
    c.encoding = .ok text ↔
      c.HoldsTexts ∧ ∃ switch, c.unterminatedToEol.text = .ok switch ∧
        text = .join "\x1e" (c.parts switch) := by
  constructor
  · intro h
    obtain ⟨keywords, hkeywords, h⟩ := exists_of_bind_eq_ok h
    obtain ⟨punctuation, hpunctuation, h⟩ := exists_of_bind_eq_ok h
    obtain ⟨elementNames, helements, h⟩ := exists_of_bind_eq_ok h
    obtain ⟨switch, hswitch, h⟩ := exists_of_bind_eq_ok h
    obtain ⟨hk, rfl⟩ := Table.encoding_eq_ok_iff.1 hkeywords
    obtain ⟨hp, rfl⟩ := Table.encoding_eq_ok_iff.1 hpunctuation
    obtain ⟨he, rfl⟩ := Table.encoding_eq_ok_iff.1 helements
    cases htext : c.unterminatedToEol.text with
    | error e =>
      rw [htext] at hswitch
      cases hswitch
    | ok given =>
      rw [htext] at hswitch
      cases hswitch
      exact ⟨⟨hk, hp, he⟩, _, rfl, (Except.ok.inj h).symm⟩
  · rintro ⟨⟨hk, hp, he⟩, switch, hswitch, rfl⟩
    rw [encoding, Table.encoding_eq_ok_iff.2 ⟨hk, rfl⟩, Table.encoding_eq_ok_iff.2 ⟨hp, rfl⟩,
      Table.encoding_eq_ok_iff.2 ⟨he, rfl⟩, hswitch]
    rfl

theorem key_of_encoding {c : Config} {text : LooseText} (h : c.encoding = .ok text) :
    c.key = match text.toString? with
      | .ok s => .ok (truncate (Digest.ofString s) keyLength)
      | .error e => .error (.loneSurrogates e) := by
  rw [key, h]
  show (Digest.ofText text).mapError _ >>= _ = _
  rw [Digest.ofText]
  cases text.toString? <;> rfl

theorem key_eq_ok_iff {c : Config} {key : String} :
    c.key = .ok key ↔
      ∃ s : String, c.encoding = .ok s ∧ key = truncate (Digest.ofString s) keyLength := by
  cases hencoding : c.encoding with
  | error e =>
    rw [Config.key, hencoding]
    exact iff_of_false nofun (by simp)
  | ok text =>
    rw [key_of_encoding hencoding]
    constructor
    · intro h
      split at h
      · rename_i s htext
        obtain rfl := LooseText.toString?_eq_ok_iff.1 htext
        exact ⟨s, rfl, (Except.ok.inj h).symm⟩
      · cases h
    · rintro ⟨s, hs, rfl⟩
      obtain rfl := Except.ok.inj hs
      rw [LooseText.toString?_eq_ok_iff.2 rfl]

theorem key_eq_error_of_not_isString {c : Config} {text : LooseText} (h : c.encoding = .ok text)
    (hlone : ¬text.IsString) : ∃ e, c.key = .error (.loneSurrogates e) := by
  rw [← LooseText.exists_toString?_iff] at hlone
  rw [key_of_encoding h]
  split
  · rename_i s htext
    exact absurd ⟨s, htext⟩ hlone
  · rename_i e _
    exact ⟨e, rfl⟩

/-- Words without lone surrogates. -/
def WordsAreStrings (c : Config) : Prop :=
  ∀ t ∈ [c.keywords, c.punctuation, c.elementNames], ∀ w ∈ t.words, w.IsString

theorem isString_join_parts_iff {c : Config} {switch : LooseText} :
    (LooseText.join "\x1e" (c.parts switch)).IsString ↔ c.WordsAreStrings ∧ switch.IsString := by
  rw [LooseText.isString_join]
  simp only [parts, WordsAreStrings, List.forall_mem_cons, LooseText.isString_join, List.not_mem_nil,
    false_implies, implies_true, and_true, and_assoc]

/-- **A configuration has a key exactly when all entries of its tables and its switch are strings.** -/
theorem exists_key_iff {c : Config} :
    (∃ key, c.key = .ok key) ↔
      c.HoldsTexts ∧ c.WordsAreStrings ∧ ∃ s : String, c.unterminatedToEol.text = .ok s := by
  constructor
  · rintro ⟨key, h⟩
    obtain ⟨s, hs, -⟩ := key_eq_ok_iff.1 h
    obtain ⟨htexts, switch, hswitch, hjoin⟩ := encoding_eq_ok_iff.1 hs
    have hstring := isString_join_parts_iff.1 (hjoin ▸ LooseText.isString_ofString s)
    obtain ⟨hwords, w, rfl⟩ := hstring
    exact ⟨htexts, hwords, w, hswitch⟩
  · rintro ⟨htexts, hwords, w, hswitch⟩
    obtain ⟨s, hs⟩ := isString_join_parts_iff.2 ⟨hwords, LooseText.isString_ofString w⟩
    exact ⟨_, key_eq_ok_iff.2 ⟨s, encoding_eq_ok_iff.2 ⟨htexts, w, hswitch, hs.symm⟩, rfl⟩⟩

theorem WordsAreStrings.of_key {c : Config} (h : ∃ key, c.key = .ok key) : c.WordsAreStrings :=
  (exists_key_iff.1 h).2.1

end Config

end TagHighlight
