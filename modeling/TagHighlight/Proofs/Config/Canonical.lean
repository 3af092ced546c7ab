import Mathlib.Data.List.Sort
import TagHighlight.Proofs.Config.Keys
import TagHighlight.Proofs.Lexer.Partition

/-!
# Configurations are canonical

A configuration can be written in many ways: the words of a table in any order and more than once, as
a list, as an object or, when there is one only, by themselves; the names of elements in any case; and
settings that are the default ones left out. `GivesConfig v ws policy` says which words and which
policy an object gives. Objects that give the same words, those of elements as they are when lowered,
and the same policy are read as one configuration, its strict switch apart.

A table keeps its words in ascending order, and ascending lists with the same members are equal
(`Table.ofWords_congr`). For element names that is enough because lowering twice is lowering once, and
for the same reason a configuration that is made again from its own settings is the same one
(`Config.again_make`).
-/

namespace TagHighlight

/-! ### Tables with the same words -/

theorem eq_of_ascending {ws vs : List LooseText} (hws : ws.Pairwise (· < ·))
    (hvs : vs.Pairwise (· < ·)) (h : ∀ w, w ∈ ws ↔ w ∈ vs) : ws = vs := by
  have : Std.Antisymm fun v w : LooseText => v < w :=
    ⟨fun v w hvw hwv => absurd (LooseText.lt_trans hvw hwv) (LooseText.lt_irrefl v)⟩
  have : Std.Irrefl fun v w : LooseText => v < w := ⟨LooseText.lt_irrefl⟩
  exact hws.eq_of_mem_iff hvs h

theorem sortWords_congr {ws vs : List LooseText} (h : ∀ w, w ∈ ws ↔ w ∈ vs) :
    sortWords ws = sortWords vs := by
  refine eq_of_ascending (pairwise_sortWords ws) (pairwise_sortWords vs) fun w => ?_
  rw [mem_sortWords, mem_sortWords, h]

namespace Table

theorem ofWords_congr {ws vs : List LooseText} (h : ∀ w, w ∈ ws ↔ w ∈ vs) (others : List Json) :
    ofWords ws others = ofWords vs others := by
  unfold ofWords
  simp only [sortWords_congr h]

theorem ofWords_words (t : Table) : ofWords t.words t.others = t := by
  obtain ⟨words, others, ascending⟩ := t
  have hwords : sortWords words = words :=
    eq_of_ascending (pairwise_sortWords words) ascending fun _ => mem_sortWords
  unfold ofWords
  simp only [hwords]

theorem map_ofWords (f : LooseText → LooseText) (ws : List LooseText) (others : List Json) :
    (ofWords ws others).map f = ofWords (ws.map f) others := by
  refine ofWords_congr (fun w => ?_) others
  simp only [ofWords, List.mem_map, mem_sortWords]

theorem map_lower_map_lower (t : Table) :
    (t.map LooseText.lower).map LooseText.lower = t.map LooseText.lower := by
  have hlower : LooseText.lower ∘ LooseText.lower = LooseText.lower :=
    funext LooseText.lower_lower
  show (ofWords (t.words.map LooseText.lower) t.others).map LooseText.lower =
    ofWords (t.words.map LooseText.lower) t.others
  rw [map_ofWords, List.map_map, hlower]

end Table

/-! ### What an object gives -/

/-- The words that a value gives to a table. -/
inductive GivesWords : Json → List LooseText → Prop
  | word (w : LooseText) : GivesWords (.str w) [w]
  | list (ws : List LooseText) : GivesWords (.arr (ws.map .str)) ws
  | names (members : List (LooseText × Json)) : GivesWords (.obj members) (members.map Prod.fst)

/-- The words of the table under a name, which are the default ones if there is no such table. -/
inductive GivesTable (v : Json) (name : String) (fallback : List LooseText) :
    List LooseText → Prop
  | missing (h : v.get? name = none) : GivesTable v name fallback fallback
  | given {value : Json} {ws : List LooseText} (h : v.get? name = some value)
    (hws : GivesWords value ws) : GivesTable v name fallback ws

structure TableWords where
  keywords : List LooseText
  punctuation : List LooseText
  elementNames : List LooseText

/-- The words and the policy that an object gives. Nothing is said of its other members. -/
structure GivesConfig (v : Json) (ws : TableWords) (policy : Json) : Prop where
  isObject : ∃ members, v = .obj members
  keywords : GivesTable v "keywords" defaultKeywords ws.keywords
  punctuation : GivesTable v "punctuation" defaultPunctuation ws.punctuation
  elementNames : GivesTable v "element_names" defaultElementNames ws.elementNames
  policy_eq : (v.get? "unterminated_string_to_eol").getD (.bool true) = policy

/-- The same words, in whatever order and however often, and in whatever case for elements. -/
structure TableWords.Alike (ws vs : TableWords) : Prop where
  keywords : ∀ w, w ∈ ws.keywords ↔ w ∈ vs.keywords
  punctuation : ∀ w, w ∈ ws.punctuation ↔ w ∈ vs.punctuation
  elementNames : ∀ w,
    w ∈ ws.elementNames.map LooseText.lower ↔ w ∈ vs.elementNames.map LooseText.lower

theorem Table.ofJson?_of_givesWords {value : Json} {ws : List LooseText} (h : GivesWords value ws) :
    ofJson? value = .ok (.ofWords ws) := by
  cases h with
  | word w => rfl
  | names members => rfl
  | list ws =>
    have hcompound : (ws.map Json.str).find? Json.isCompound = none := by
      simp [Json.isCompound]
    have htexts : (ws.map Json.str).filterMap Json.asText? = ws := by
      simp [List.filterMap_map, Function.comp_def, Json.asText?]
    have hothers : (ws.map Json.str).filter (fun v => !v.isText) = [] := by
      simp [Json.isText, Json.asText?]
    simp only [ofJson?, hcompound, htexts, hothers]

theorem Table.member?_of_givesTable {v : Json} {name : String}
    {fallback ws : List LooseText}
    (h : GivesTable v name fallback ws) : member? v name fallback = .ok (.ofWords ws) := by
  cases h with
  | missing h => simp only [member?, h]
  | given h hws => simp only [member?, h, ofJson?_of_givesWords hws]

def TableWords.config (ws : TableWords) (policy strict : Json) : Config :=
  .make (.ofWords ws.keywords) (.ofWords ws.punctuation) (.ofWords ws.elementNames) policy strict

theorem Config.ofJson?_of_givesConfig {v policy : Json} {ws : TableWords}
    (h : GivesConfig v ws policy) :
    ofJson? v = .ok (ws.config policy ((v.get? "strict").getD (.bool false))) := by
  obtain ⟨⟨members, rfl⟩, hkeywords, hpunctuation, helements, rfl⟩ := h
  simp only [ofJson?, Table.member?_of_givesTable hkeywords,
    Table.member?_of_givesTable hpunctuation, Table.member?_of_givesTable helements]
  rfl

theorem TableWords.Alike.config_eq {ws vs : TableWords} (h : ws.Alike vs) (policy strict : Json) :
    ws.config policy strict = vs.config policy strict := by
  have hkeywords := Table.ofWords_congr h.keywords []
  have hpunctuation := Table.ofWords_congr h.punctuation []
  have helements := Table.ofWords_congr h.elementNames []
  simp only [config, Config.make, Table.map_ofWords, hkeywords, hpunctuation, helements]

/-! ### Keys -/

theorem forall_mem_sortWords {ws : List LooseText} {P : LooseText → Prop} :
    (∀ w ∈ sortWords ws, P w) ↔ ∀ w ∈ ws, P w := by
  simp only [mem_sortWords]

structure TableWords.AreStrings (ws : TableWords) : Prop where
  keywords : ∀ w ∈ ws.keywords, w.IsString
  punctuation : ∀ w ∈ ws.punctuation, w.IsString
  elementNames : ∀ w ∈ ws.elementNames, w.IsString

theorem TableWords.wordsAreStrings_config_iff {ws : TableWords} {policy strict : Json} :
    (ws.config policy strict).WordsAreStrings ↔ ws.AreStrings := by
  have helements : (∀ w ∈ ((Table.ofWords ws.elementNames).map LooseText.lower).words,
      w.IsString) ↔ ∀ w ∈ ws.elementNames, w.IsString := by
    rw [Table.map_ofWords]
    show (∀ w ∈ sortWords _, _) ↔ _
    simp only [forall_mem_sortWords, List.forall_mem_map, LooseText.isString_lower]
  have hall : (ws.config policy strict).WordsAreStrings ↔
      (∀ w ∈ sortWords ws.keywords, w.IsString) ∧ (∀ w ∈ sortWords ws.punctuation, w.IsString) ∧
        ∀ w ∈ ((Table.ofWords ws.elementNames).map LooseText.lower).words, w.IsString := by
    simp only [Config.WordsAreStrings, List.forall_mem_cons, List.not_mem_nil, false_implies,
      implies_true, and_true]
    rfl
  rw [hall, forall_mem_sortWords, forall_mem_sortWords, helements]
  constructor
  · rintro ⟨hkeywords, hpunctuation, helements⟩
    exact ⟨hkeywords, hpunctuation, helements⟩
  · intro h
    exact ⟨h.keywords, h.punctuation, h.elementNames⟩

theorem TableWords.exists_key_config_iff {ws : TableWords} {policy strict : Json} :
    (∃ key, (ws.config policy strict).key = .ok key) ↔
      ws.AreStrings ∧ ∃ s : String, policy.text = .ok s := by
  have htexts : (ws.config policy strict).HoldsTexts := ⟨rfl, rfl, rfl⟩
  rw [Config.exists_key_iff, wordsAreStrings_config_iff]
  exact ⟨fun h => h.2, fun h => ⟨htexts, h⟩⟩

/-! ### Made again -/

namespace Table

def entries (t : Table) : List Json := t.words.map .str ++ t.others

def toJson (t : Table) : Json := .arr t.entries

/-- The entries that are no texts are no lists and no objects. -/
def IsSound (t : Table) : Prop := ∀ v ∈ t.others, v.isCompound = false ∧ v.isText = false

theorem isSound_ofWords (ws : List LooseText) : (ofWords ws).IsSound := by
  intro v hv
  cases hv

theorem isSound_of_ofJson? {given : Json} {t : Table} (h : ofJson? given = .ok t) : t.IsSound := by
  unfold ofJson? at h
  split at h
  · cases h
    exact isSound_ofWords _
  · cases h
    exact isSound_ofWords _
  · split at h
    · cases h
    · rename_i items hnone
      cases h
      intro v hv
      obtain ⟨hmem, htext⟩ := List.mem_filter.1 hv
      exact ⟨by simpa using List.find?_eq_none.1 hnone v hmem, by simpa using htext⟩
  · cases h

theorem isSound_of_member? {v : Json} {name : String} {fallback : List LooseText} {t : Table}
    (h : member? v name fallback = .ok t) : t.IsSound := by
  unfold member? at h
  split at h
  · cases h
    exact isSound_ofWords fallback
  · exact isSound_of_ofJson? h

theorem find?_entries {t : Table} (h : t.IsSound) : t.entries.find? Json.isCompound = none := by
  rw [List.find?_eq_none, entries]
  intro v hv
  rcases List.mem_append.1 hv with hv | hv
  · obtain ⟨w, -, rfl⟩ := List.mem_map.1 hv
    exact Bool.false_ne_true
  · rw [(h v hv).1]
    exact Bool.false_ne_true

theorem texts_entries {t : Table} (h : t.IsSound) : t.entries.filterMap Json.asText? = t.words := by
  have hothers : t.others.filterMap Json.asText? = [] := by
    rw [List.filterMap_eq_nil_iff]
    exact fun v hv => Option.not_isSome_iff_eq_none.1 (Bool.eq_false_iff.1 (h v hv).2)
  rw [entries, List.filterMap_append, hothers, List.append_nil]
  simp [List.filterMap_map, Function.comp_def, Json.asText?]

theorem others_entries {t : Table} (h : t.IsSound) :
    t.entries.filter (fun v => !v.isText) = t.others := by
  have hwords : (t.words.map Json.str).filter (fun v => !v.isText) = [] := by
    simp [Json.isText, Json.asText?]
  have hothers : t.others.filter (fun v => !v.isText) = t.others := by
    rw [List.filter_eq_self]
    intro v hv
    rw [(h v hv).2]
    rfl
  rw [entries, List.filter_append, hwords, hothers, List.nil_append]

theorem ofJson?_toJson {t : Table} (h : t.IsSound) : ofJson? t.toJson = .ok t := by
  simp only [toJson, ofJson?, find?_entries h, texts_entries h, others_entries h, ofWords_words]

end Table

namespace Config

/-- The configuration that is made of the settings of another one. -/
def again (c : Config) : Config :=
  make c.keywords c.punctuation c.elementNames c.unterminatedToEol c.strict

/-- The object of the settings of a configuration. -/
def fields (c : Config) : Json :=
  .obj [("keywords", c.keywords.toJson), ("punctuation", c.punctuation.toJson),
    ("element_names", c.elementNames.toJson), ("unterminated_string_to_eol", c.unterminatedToEol),
    ("strict", c.strict)]

theorem again_make (keywords punctuation elementNames : Table) (policy strict : Json) :
    (make keywords punctuation elementNames policy strict).again =
      make keywords punctuation elementNames policy strict := by
  simp only [again, make, Table.map_lower_map_lower]

theorem ofJson?_eq_ok {v : Json} {c : Config} (h : ofJson? v = .ok c) :
    ∃ keywords punctuation elementNames policy strict,
      c = make keywords punctuation elementNames policy strict ∧ keywords.IsSound ∧
        punctuation.IsSound ∧ elementNames.others = [] := by
  cases v with
  | obj members =>
    obtain ⟨keywords, hkeywords, h⟩ := exists_of_bind_eq_ok h
    obtain ⟨punctuation, hpunctuation, h⟩ := exists_of_bind_eq_ok h
    obtain ⟨elementNames, -, h⟩ := exists_of_bind_eq_ok h
    split at h
    · cases h
    · rename_i hothers
      exact ⟨keywords, punctuation, elementNames, _, _, (Except.ok.inj h).symm,
        Table.isSound_of_member? hkeywords, Table.isSound_of_member? hpunctuation, hothers⟩
  | null | bool _ | int _ | real _ | str _ | arr _ => cases h

theorem ofJson?_fields_of_isSound {c : Config} (hkeywords : c.keywords.IsSound)
    (hpunctuation : c.punctuation.IsSound) (helements : c.elementNames.others = []) :
    ofJson? c.fields = .ok c.again := by
  have hsound : c.elementNames.IsSound := by
    intro v hv
    rw [helements] at hv
    cases hv
  have hk : Table.member? c.fields "keywords" defaultKeywords = .ok c.keywords :=
    Table.ofJson?_toJson hkeywords
  have hp : Table.member? c.fields "punctuation" defaultPunctuation = .ok c.punctuation :=
    Table.ofJson?_toJson hpunctuation
  have he : Table.member? c.fields "element_names" defaultElementNames = .ok c.elementNames :=
    Table.ofJson?_toJson hsound
  rw [fields] at hk hp he
  unfold ofJson? fields
  simp only [hk, hp, he, bind, Except.bind, helements]
  rfl

theorem again_of_ofJson? {v : Json} {c : Config} (h : ofJson? v = .ok c) : c.again = c := by
  obtain ⟨keywords, punctuation, elementNames, policy, strict, rfl, -⟩ := ofJson?_eq_ok h
  exact again_make keywords punctuation elementNames policy strict

theorem ofJson?_fields {v : Json} {c : Config} (h : ofJson? v = .ok c) :
    ofJson? c.fields = .ok c := by
  have hagain := again_of_ofJson? h
  obtain ⟨keywords, punctuation, elementNames, policy, strict, rfl, hkeywords, hpunctuation,
    hothers⟩ := ofJson?_eq_ok h
  rw [ofJson?_fields_of_isSound hkeywords hpunctuation hothers, hagain]

end Config

/-! ### One configuration -/

/-- What is read of objects that give the same words and the same policy: configurations with these
words and that policy, which have one key, if they have one, and classify every text alike. -/
structure ReadAlike (v w : Json) (ws : TableWords) (policy : Json) (c d : Config) : Prop where
  left : Config.ofJson? v = .ok c
  right : Config.ofJson? w = .ok d
  left_eq : c = ws.config policy ((v.get? "strict").getD (.bool false))
  right_eq : d = ws.config policy ((w.get? "strict").getD (.bool false))
  key_eq : c.key = d.key
  exists_key_iff : (∃ key, c.key = .ok key) ↔ ws.AreStrings ∧ ∃ s : String, policy.text = .ok s
  classify_eq : ∀ text, classify c text = classify d text

theorem GivesConfig.readAlike {v w policy : Json} {ws vs : TableWords} (hv : GivesConfig v ws policy)
    (hw : GivesConfig w vs policy) (h : ws.Alike vs) : ∃ c d, ReadAlike v w ws policy c d := by
  refine ⟨_, _, Config.ofJson?_of_givesConfig hv, Config.ofJson?_of_givesConfig hw, rfl,
    (h.config_eq _ _).symm, ?_, TableWords.exists_key_config_iff, fun text => ?_⟩
  · rw [← h.config_eq]
    rfl
  · rw [classify_eq, classify_eq, ← h.config_eq]
    exact congrArg (fun tokens => Except.ok ((Text.lines text).map tokens))
      (funext (Lexer.tokens_strict (ws.config policy _) _)).symm

/-- **Configurations are canonical.** How the words of tables are written, in which order and how
often, is forgotten when a configuration is read; so are other members, and the strict switch changes
neither the key nor the tokens. A configuration that is made again of its own settings is the same
one, since lowering an element name twice is lowering it once. -/
theorem configurations_are_canonical :
    (∀ (v w policy : Json) (ws vs : TableWords), GivesConfig v ws policy → GivesConfig w vs policy →
      ws.Alike vs → ∃ c d, ReadAlike v w ws policy c d) ∧
    (∀ t : LooseText, t.lower.lower = t.lower) ∧
    (∀ s : String, (LooseText.ofString s).lower = LooseText.ofString (Unicode.lower s) ∧
      Unicode.lower (Unicode.lower s) = Unicode.lower s) ∧
    (∀ keywords punctuation elementNames policy strict,
      (Config.make keywords punctuation elementNames policy strict).again =
        .make keywords punctuation elementNames policy strict) ∧
    ∀ v c, Config.ofJson? v = .ok c → c.again = c ∧ Config.ofJson? c.fields = .ok c := by
  refine ⟨fun v w policy ws vs hv hw h => hv.readAlike hw h, LooseText.lower_lower,
    fun s => ⟨LooseText.lower_ofString s, Unicode.lower_lower s⟩, Config.again_make,
    fun v c h => ⟨Config.again_of_ofJson? h, Config.ofJson?_fields h⟩⟩

/-- A list with capitals and repetitions and an object with an unknown member besides. -/
theorem configurations_are_canonical_for_sigma :
    ∃ c d key,
      Config.ofJson? (.obj [("keywords", .arr [.str "let", .str "const", .str "let"]),
        ("punctuation", .str ";"), ("element_names", .arr [.str "ΑΣ", .str "DIV", .str "Div"]),
        ("strict", .bool true)]) = .ok c ∧
      Config.ofJson? (.obj [("colors", .null), ("element_names", .arr [.str "div", .str "ας"]),
        ("keywords", .obj [("const", .null), ("let", .int 1)]),
        ("punctuation", .arr [.str ";"])]) = .ok d ∧
      c.strict = .bool true ∧ d.strict = .bool false ∧ c.key = .ok key ∧ d.key = .ok key ∧
        ∀ text, classify c text = classify d text := by
  let ws : TableWords := ⟨["let", "const", "let"], [";"], ["ΑΣ", "DIV", "Div"]⟩
  have halike : ws.Alike ⟨["const", "let"], [";"], ["div", "ας"]⟩ := by
    have hcapitals : (["ΑΣ", "DIV", "Div"] : List LooseText).map LooseText.lower =
        (["ας", "div", "div"] : List LooseText) := by decide +kernel
    have hsmall : (["div", "ας"] : List LooseText).map LooseText.lower =
        (["div", "ας"] : List LooseText) := by decide +kernel
    refine ⟨fun w => ?_, fun w => Iff.rfl, fun w => ?_⟩
    · show w ∈ (["let", "const", "let"] : List LooseText) ↔ w ∈ (["const", "let"] : List LooseText)
      simp only [List.mem_cons, List.not_mem_nil, or_false]
      exact ⟨fun h => h.elim .inr fun h => h.elim .inl .inr,
        fun h => h.elim (fun h => .inr (.inl h)) .inl⟩
    · show w ∈ (["ΑΣ", "DIV", "Div"] : List LooseText).map LooseText.lower ↔
        w ∈ (["div", "ας"] : List LooseText).map LooseText.lower
      rw [hcapitals, hsmall]
      simp only [List.mem_cons, List.not_mem_nil, or_false]
      exact ⟨fun h => h.elim .inr fun h => .inl (h.elim id id),
        fun h => h.elim (fun h => .inr (.inl h)) .inl⟩
  obtain ⟨c, d, h⟩ := configurations_are_canonical.1
    (.obj [("keywords", .arr [.str "let", .str "const", .str "let"]),
      ("punctuation", .str ";"), ("element_names", .arr [.str "ΑΣ", .str "DIV", .str "Div"]),
      ("strict", .bool true)])
    (.obj [("colors", .null), ("element_names", .arr [.str "div", .str "ας"]),
      ("keywords", .obj [("const", .null), ("let", .int 1)]), ("punctuation", .arr [.str ";"])])
    (.bool true) ws ⟨["const", "let"], [";"], ["div", "ας"]⟩
    ⟨⟨_, rfl⟩, .given rfl (.list ["let", "const", "let"]), .given rfl (.word ";"),
      .given rfl (.list ["ΑΣ", "DIV", "Div"]), rfl⟩
    ⟨⟨_, rfl⟩, .given rfl (.names [("const", .null), ("let", .int 1)]), .given rfl (.list [";"]),
      .given rfl (.list ["div", "ας"]), rfl⟩ halike
  have hstrings : ws.AreStrings := by
    refine ⟨?_, ?_, ?_⟩
    all_goals
      simp only [ws, List.forall_mem_cons, LooseText.isString_ofString, List.not_mem_nil,
        false_implies, implies_true, and_true]
  obtain ⟨key, hkey⟩ := h.exists_key_iff.2 ⟨hstrings, "True", rfl⟩
  refine ⟨c, d, key, h.left, h.right, ?_, ?_, hkey, h.key_eq ▸ hkey, h.classify_eq⟩
  · rw [h.left_eq]
    rfl
  · rw [h.right_eq]
    rfl

end TagHighlight
