import TagHighlight.Proofs.Config.Canonical
import TagHighlight.Proofs.Lexer.Lookups
import TagHighlight.Proofs.Lexer.Placement
import TagHighlight.Proofs.Unicode.FinalSigma

/-!
# Element names in capitals

A tag name is an element if its lowercase form is that of an entry of the element table. So a name and
an entry may be written in capitals or not, and lowering some of their characters by hand, one by one,
changes nothing, unless it touches a capital sigma that ends a word: `ΑΣ` is looked up as `ας`, and
`Ασ` as `ασ`, which is another name. There is no other exception, for names and for entries.

The first character of a name is left alone throughout, since a name with a capital there is a
component in any case.
-/

namespace TagHighlight

open Unicode

/-! ### Where names are looked up -/

theorem Category.isName_eq_false_of_isInner {c : Category} (h : c.isInner = true) :
    c.isName = false := by
  cases c <;> first | rfl | cases h

namespace Lexer

theorem eq_of_mem_lexeme? {category : List Char → Category} {cs : List Char} {l : Lexeme}
    (h : l ∈ lexeme? category cs) : l = ⟨category cs, cs⟩ := by
  unfold lexeme? at h
  split at h
  · cases h
  · exact List.mem_singleton.1 h

theorem Branch.category_of_isName {config : Config} {mode : Mode} {c : Char} {cs : List Char}
    {s : Step} (h : Branch config mode c cs s) {l : Lexeme} (hl : l ∈ s.lexemes)
    (hname : l.category.isName = true) : l.category = nameCategory config l.chars := by
  have hinner (hin : l.category.isInner = true) : False := by
    rw [Category.isName_eq_false_of_isInner hin] at hname
    cases hname
  cases h with
  | blanks =>
    rw [List.mem_singleton.1 hl] at hname
    cases hname
  | tagStart => cases hl
  | comment =>
    rw [List.mem_singleton.1 hl] at hname
    cases hname
  | word =>
    rw [List.mem_singleton.1 hl] at hname
    rcases wordCategory_cases config (Lexer.word c cs).1 with h | h | h | h <;>
      · rw [h] at hname
        cases hname
  | head =>
    rcases List.mem_cons.1 hl with rfl | hl
    · cases hname
    · rw [eq_of_mem_lexeme? hl]
  | close =>
    rw [List.mem_singleton.1 hl] at hname
    cases hname
  | named hattribute => exact (hinner ((Branch.named hattribute).isInner rfl l hl)).elim
  | unnamed hends hattribute =>
    exact (hinner ((Branch.unnamed hends hattribute).isInner rfl l hl)).elim

theorem category_of_isName_run {config : Config} {mode : Mode} {cs : List Char} {l : Lexeme}
    (hl : l ∈ lexemes (run config mode cs)) (hname : l.category.isName = true) :
    l.category = nameCategory config l.chars := by
  fun_induction run config mode cs with
  | case1 mode => cases hl
  | case2 mode c cs ih =>
    rw [lexemes_cons, List.mem_append] at hl
    rcases hl with hl | hl
    · exact (branch_step config mode c cs).category_of_isName hl hname
    · exact ih hl

theorem category_of_isName_tokens {config : Config} {line : String} {t : Token}
    (ht : t ∈ tokens config line) (hname : t.category.isName = true) :
    t.category = nameCategory config t.text.toList := by
  have hl := List.mem_map_of_mem (f := Token.lexeme) ht
  rw [tokens, map_lexeme_place] at hl
  exact category_of_isName_run hl hname

end Lexer

/-! ### Tables of elements -/

/-- The configuration that is made with these element names, and is like `base` otherwise. -/
def Config.withElements (base : Config) (names : Table) : Config :=
  .make base.keywords base.punctuation names base.unterminatedToEol base.strict

theorem Table.contains_ofWords {ws : List LooseText} {others : List Json} {w : String} :
    (ofWords ws others).contains w = true ↔ .ofString w ∈ ws := by
  show (sortWords ws).contains (.ofString w) = true ↔ .ofString w ∈ ws
  rw [List.contains_iff_mem, mem_sortWords]

theorem Config.contains_withElements {base : Config} {ws : List LooseText} {others : List Json}
    {w : String} :
    (base.withElements (.ofWords ws others)).elementNames.contains w = true ↔
      .ofString w ∈ ws.map LooseText.lower := by
  show (Table.map LooseText.lower (.ofWords ws others)).contains w = true ↔ _
  rw [Table.map_ofWords, Table.contains_ofWords]

theorem Config.contains_withElements_singleton {base : Config} {v w : String} :
    (base.withElements (.ofWords [v])).elementNames.contains w = true ↔ w = lower v := by
  rw [contains_withElements, List.map_singleton, List.mem_singleton, LooseText.lower_ofString,
    LooseText.ofString_inj]

theorem Config.withElements_congr (base : Config) {ws vs : List LooseText} (others : List Json)
    (h : ws.map LooseText.lower = vs.map LooseText.lower) :
    base.withElements (.ofWords ws others) = base.withElements (.ofWords vs others) := by
  simp only [withElements, make, Table.map_ofWords, h]

namespace Lexer

theorem nameCategory_eq_elementName_iff {config : Config} {n : List Char} :
    nameCategory config n = .elementName ↔
      n.head?.any isUppercase = false ∧ '.' ∉ n ∧
        config.elementNames.contains (lower (String.ofList n)) = true := by
  unfold nameCategory
  rw [← List.contains_iff_mem]
  cases n.head?.any isUppercase <;> cases n.contains '.' <;>
    cases config.elementNames.contains (lower (String.ofList n)) <;> simp

theorem nameCategory_congr {config other : Config} {n m : List Char}
    (h : nameCategory config n = .elementName ↔ nameCategory other m = .elementName) :
    nameCategory config n = nameCategory other m := by
  rcases nameCategory_cases config n with hn | hn
  · rcases nameCategory_cases other m with hm | hm
    · rw [hn, hm]
    · rw [h.2 hm, hm]
  · rw [hn, h.1 hn]

end Lexer

open Lexer

namespace Unicode

theorem PartlyLowered.point_mem_iff {cs ds : List Char} (h : PartlyLowered cs ds) :
    '.' ∈ ds ↔ '.' ∈ cs := by
  have hpoint : ¬CasedOnly '.' := by
    intro h
    have hcased : isCased '.' = false := by decide +kernel
    rw [h.isCased] at hcased
    cases hcased
  unfold PartlyLowered at h
  induction h with
  | nil => rfl
  | @cons c d cs ds hcd _ ih =>
    rw [List.mem_cons, List.mem_cons]
    refine or_congr ?_ ih
    rcases hcd.eq_or_casedOnly with rfl | ⟨hc, hd⟩
    · rfl
    · exact iff_of_false (fun heq => hpoint (heq ▸ hd)) fun heq => hpoint (heq ▸ hc)

end Unicode

/-! ### Names and entries with some characters lowered -/

/-- Under every element table a name and the same name with some characters behind the first one
lowered are alike, exactly when they are components anyway or no final sigma is touched. -/
theorem nameCategory_lowered_iff (base : Config) {c : Char} {cs ds : List Char}
    (h : PartlyLowered cs ds) :
    (∀ names : Table, nameCategory (base.withElements names) (c :: ds) =
        nameCategory (base.withElements names) (c :: cs)) ↔
      isUppercase c = true ∨ '.' ∈ c :: cs ∨ KeepsFinalSigmas [] (c :: cs) (c :: ds) := by
  have hname : PartlyLowered (c :: cs) (c :: ds) := .cons (.inl rfl) h
  rw [← lower_eq_iff_keepsFinalSigmas hname]
  constructor
  · intro halike
    by_cases hupper : isUppercase c = true
    · exact .inl hupper
    by_cases hpoint : '.' ∈ c :: cs
    · exact .inr (.inl hpoint)
    -- the table whose only entry is the name itself
    have hself : nameCategory (base.withElements (.ofWords [String.ofList (c :: cs)])) (c :: cs) =
        .elementName := by
      apply nameCategory_eq_elementName_iff.2
      refine ⟨Bool.eq_false_iff.2 hupper, hpoint, ?_⟩
      exact Config.contains_withElements_singleton.2 rfl
    rw [← halike, nameCategory_eq_elementName_iff, Config.contains_withElements_singleton] at hself
    exact .inr (.inr hself.2.2.symm)
  · intro h names
    apply nameCategory_congr
    rw [nameCategory_eq_elementName_iff, nameCategory_eq_elementName_iff, hname.point_mem_iff]
    rcases h with hupper | hpoint | hlower
    · have hany (es : List Char) : (c :: es).head?.any isUppercase = true := hupper
      simp only [hany, Bool.true_eq_false, false_and]
    · simp only [hpoint, not_true_eq_false, false_and, and_false]
    · rw [hlower]
      rfl

theorem map_lower_eq_of_keepsFinalSigmas {ws vs : List String}
    (h : List.Forall₂ (fun w v => PartlyLowered w.toList v.toList ∧
      KeepsFinalSigmas [] w.toList v.toList) ws vs) : ws.map lower = vs.map lower := by
  induction h with
  | nil => rfl
  | cons hwv _ ih =>
    have hlower := (lower_eq_iff_keepsFinalSigmas hwv.1).2 hwv.2
    rw [String.ofList_toList, String.ofList_toList] at hlower
    rw [List.map_cons, List.map_cons, hlower, ih]

theorem entry_lowered_iff (base : Config) {w v : String} (h : PartlyLowered w.toList v.toList)
    (huse : ∃ n, nameCategory (base.withElements (.ofWords [w])) n = .elementName) :
    (∀ n, nameCategory (base.withElements (.ofWords [w])) n =
        nameCategory (base.withElements (.ofWords [v])) n) ↔
      KeepsFinalSigmas [] w.toList v.toList := by
  rw [← lower_eq_iff_keepsFinalSigmas h, String.ofList_toList, String.ofList_toList]
  constructor
  · intro halike
    obtain ⟨n, hn⟩ := huse
    have hother := halike n ▸ hn
    rw [nameCategory_eq_elementName_iff, Config.contains_withElements_singleton] at hn hother
    rw [← hn.2.2, ← hother.2.2]
  · intro hlower n
    have hwords : [(w : LooseText)].map LooseText.lower = [(v : LooseText)].map LooseText.lower := by
      simp [hlower]
    rw [base.withElements_congr [] hwords]

/-- **Elements are matched in any case, but for final sigmas.** The lexer gives every name the category
that it is looked up to have. Under every element table, a name and the same name with some characters
behind the first one lowered, each alone, have one category, exactly when they are components anyway
or every capital sigma that ends a word is left as it is; and entries lowered in this way make the
same configuration. Where an entry is of use to a name at all, this is the only way to lower it that
changes the category of no name. -/
theorem elements_match_but_for_final_sigmas (base : Config) :
    (∀ line, ∀ t ∈ tokens base line, t.category.isName = true →
      t.category = nameCategory base t.text.toList) ∧
    (∀ (c : Char) (cs ds : List Char), PartlyLowered cs ds →
      ((∀ names : Table, nameCategory (base.withElements names) (c :: ds) =
          nameCategory (base.withElements names) (c :: cs)) ↔
        isUppercase c = true ∨ '.' ∈ c :: cs ∨ KeepsFinalSigmas [] (c :: cs) (c :: ds))) ∧
    (∀ (ws vs : List String) (more : List LooseText) (others : List Json),
      List.Forall₂ (fun w v => PartlyLowered w.toList v.toList ∧
        KeepsFinalSigmas [] w.toList v.toList) ws vs →
      base.withElements (.ofWords (ws.map .ofString ++ more) others) =
        base.withElements (.ofWords (vs.map .ofString ++ more) others)) ∧
    ∀ w v : String, PartlyLowered w.toList v.toList →
      (∃ n, nameCategory (base.withElements (.ofWords [w])) n = .elementName) →
      ((∀ n, nameCategory (base.withElements (.ofWords [w])) n =
          nameCategory (base.withElements (.ofWords [v])) n) ↔
        KeepsFinalSigmas [] w.toList v.toList) := by
  refine ⟨?_, ?_, ?_, ?_⟩
  · intro line t ht hname
    exact category_of_isName_tokens ht hname
  · intro c cs ds h
    exact nameCategory_lowered_iff base h
  · intro ws vs more others h
    apply base.withElements_congr
    have hlower (us : List String) : (us.map LooseText.ofString).map LooseText.lower =
        (us.map lower).map LooseText.ofString := by
      simp
    rw [List.map_append, List.map_append, hlower, hlower, map_lower_eq_of_keepsFinalSigmas h]
  · intro w v h huse
    exact entry_lowered_iff base h huse

theorem elements_match_but_for_final_sigmas_in_greek :
    (∀ t ∈ tokens Config.default "</αΣΒ", t.category.isName = true →
      t.category = nameCategory Config.default t.text.toList) ∧
    (∀ names : Table, nameCategory (Config.default.withElements names) ['α', 'σ', 'β'] =
      nameCategory (Config.default.withElements names) ['α', 'Σ', 'Β']) ∧
    Config.default.withElements (.ofWords ["ΑΣΒ", "ΑΣ"]) =
      Config.default.withElements (.ofWords ["ασΒ", "αΣ"]) ∧
    ¬∀ n, nameCategory (Config.default.withElements (.ofWords ["ΑΣ"])) n =
      nameCategory (Config.default.withElements (.ofWords ["Ασ"])) n := by
  have keeps {cs ds : List Char} (h : PartlyLowered cs ds)
      (heq : lower (String.ofList cs) = lower (String.ofList ds)) : KeepsFinalSigmas [] cs ds :=
    (lower_eq_iff_keepsFinalSigmas h).1 heq
  obtain ⟨hlookup, hnames, htables, hentry⟩ := elements_match_but_for_final_sigmas Config.default
  refine ⟨hlookup "</αΣΒ", ?_, ?_, ?_⟩
  · have hlowered : PartlyLowered ['Σ', 'Β'] ['σ', 'β'] := by decide +kernel
    apply (hnames 'α' _ _ hlowered).2
    exact .inr (.inr (keeps (.cons (.inl rfl) hlowered) (by decide +kernel)))
  · have hfirst : PartlyLowered "ΑΣΒ".toList "ασΒ".toList := by decide +kernel
    have hsecond : PartlyLowered "ΑΣ".toList "αΣ".toList := by decide +kernel
    apply htables ["ΑΣΒ", "ΑΣ"] ["ασΒ", "αΣ"] [] []
    exact .cons ⟨hfirst, keeps hfirst (by decide +kernel)⟩
      (.cons ⟨hsecond, keeps hsecond (by decide +kernel)⟩ .nil)
  · intro halike
    have hlowered : PartlyLowered "ΑΣ".toList "Ασ".toList := by decide +kernel
    have hkeeps := (hentry "ΑΣ" "Ασ" hlowered ⟨['α', 'ς'], by decide +kernel⟩).1 halike
    cases hkeeps ['Α'] [] rfl (by decide +kernel)

/-- The name `ασ` is `αΣ` with one character lowered, and is not found where `αΣ` is. The name `ας` is
found where the entry is `αΣ`, and not where the entry is `ασ`. -/
theorem final_sigma_is_no_match :
    PartlyLowered ['α', 'Σ'] ['α', 'σ'] ∧
    nameCategory (Config.default.withElements (.ofWords ["αΣ"])) ['α', 'Σ'] = .elementName ∧
    nameCategory (Config.default.withElements (.ofWords ["αΣ"])) ['α', 'σ'] = .componentName ∧
    nameCategory (Config.default.withElements (.ofWords ["αΣ"])) ['α', 'ς'] = .elementName ∧
    nameCategory (Config.default.withElements (.ofWords ["ασ"])) ['α', 'ς'] = .componentName := by
  decide +kernel

end TagHighlight
