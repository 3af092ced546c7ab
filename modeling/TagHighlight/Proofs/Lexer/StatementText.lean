import TagHighlight.Proofs.Lexer.Placement

/-!
# How statement text is cut

Outside tags a lexeme is a run of blanks that goes no further on either side, a comment that reaches
the end of the line, or a word: it has no blank in it, no tag starts at any of its characters, and it
ends where the line does, before a blank or before a tag. `StatementCut` says so of a lexeme between
what stands on its left and on its right, and also that the tables decide what a word is. One step
cuts such a lexeme off (`statementCut_of_branch`); along the line it is `forall_lexemes_run`.
-/

namespace TagHighlight

namespace Lexer

open TagHighlight.Text (isQuote)
open TagHighlight.Unicode (isBlank)

/-- The category is the one that the tables give to a word: the keywords come first, then the
punctuation, then the quotes. -/
structure IsWordCategory (config : Config) (category : Category) (cs : List Char) : Prop where
  keyword : category = .keyword ↔ config.keywords.contains (String.ofList cs) = true
  punctuation : category = .punctuation ↔ config.keywords.contains (String.ofList cs) = false ∧
    config.punctuation.contains (String.ofList cs) = true
  stringLiteral : category = .stringLiteral ↔
    config.keywords.contains (String.ofList cs) = false ∧
      config.punctuation.contains (String.ofList cs) = false ∧ cs.head?.any isQuote = true
  plain : category = .plain ↔ config.keywords.contains (String.ofList cs) = false ∧
    config.punctuation.contains (String.ofList cs) = false ∧ cs.head?.any isQuote = false

/-- The lexeme is a word of statement text in front of `right`. -/
structure WordCut (config : Config) (l : Lexeme) (right : List Char) : Prop where
  ne_nil : l.chars ≠ []
  blank : ∀ c ∈ l.chars, isBlank c = false
  comment : ¬['/', '/'] <+: l.chars
  /-- No tag starts at any of its characters. -/
  tag : ∀ s t, l.chars = s ++ t → t ≠ [] → atTagStart (t ++ right) = false
  ends : right = [] ∨ (∃ c ∈ right.head?, isBlank c = true) ∨ atTagStart right = true
  category : IsWordCategory config l.category l.chars

/-- The lexeme is cut as statement text out of what stands around it. -/
structure StatementCut (config : Config) (left : List Char) (l : Lexeme) (right : List Char) :
    Prop where
  blanks : l.category = .whitespace → IsMaximalRun isBlank left l.chars right
  comment : l.category = .lineComment → ['/', '/'] <+: l.chars ∧ right = []
  word : l.category ≠ .whitespace → l.category ≠ .lineComment → WordCut config l right

theorem isWordCategory_wordCategory (config : Config) (cs : List Char) :
    IsWordCategory config (wordCategory config cs) cs := by
  unfold wordCategory
  cases hkeyword : config.keywords.contains (String.ofList cs) with
  | true => constructor <;> simp [hkeyword]
  | false =>
    cases hpunctuation : config.punctuation.contains (String.ofList cs) with
    | true => constructor <;> simp [hkeyword, hpunctuation]
    | false =>
      cases hquote : cs.head?.any isQuote with
      | true => constructor <;> simp [hkeyword, hpunctuation, hquote]
      | false => constructor <;> simp [hkeyword, hpunctuation, hquote]

theorem atComment_iff {cs : List Char} : atComment cs = true ↔ ['/', '/'] <+: cs := by
  unfold atComment
  split
  · rename_i c d rest
    rw [List.cons_prefix_cons, List.cons_prefix_cons, Bool.and_eq_true, beq_iff_eq, beq_iff_eq]
    exact ⟨fun ⟨hc, hd⟩ => ⟨hc.symm, hd.symm, List.nil_prefix⟩,
      fun ⟨hc, hd, _⟩ => ⟨hc.symm, hd.symm⟩⟩
  · rename_i hshort
    refine iff_of_false Bool.false_ne_true ?_
    rintro ⟨rest, rfl⟩
    exact hshort _ _ _ rfl

theorem stop_of_splitUntil_rest {stop : List Char → Bool} {cs : List Char}
    (h : (splitUntil stop cs).2 ≠ []) : stop (splitUntil stop cs).2 = true := by
  induction cs with
  | nil => exact absurd rfl h
  | cons c cs ih =>
    unfold splitUntil at h ⊢
    split
    · assumption
    · rename_i hc
      rw [if_neg hc] at h
      exact ih h

theorem atTagStart_of_suffix_word {c : Char} {cs t : List Char}
    (htag : atTagStart (c :: cs) = false) (ht : t <:+ (word c cs).1) (hne : t ≠ []) :
    atTagStart (t ++ (word c cs).2) = false := by
  rcases List.suffix_cons_iff.1 ht with hfull | ht
  · rw [hfull]
    change atTagStart ((word c cs).1 ++ (word c cs).2) = false
    rwa [word_append]
  · have hstop : endsWord (t ++ (word c cs).2) = false := stop_of_suffix_splitUntil ht hne
    obtain ⟨d, ds, rfl⟩ := List.exists_cons_of_ne_nil hne
    rw [List.cons_append, endsWord, Bool.or_eq_false_iff] at hstop
    exact hstop.2

theorem wordCut_word (config : Config) {c : Char} {cs : List Char} (hblank : isBlank c = false)
    (htag : atTagStart (c :: cs) = false) (hcomment : atComment (c :: cs) = false) :
    WordCut config ⟨wordCategory config (word c cs).1, (word c cs).1⟩ (word c cs).2 where
  ne_nil := List.cons_ne_nil _ _
  blank := isBlank_eq_false_of_mem_word hblank
  comment h := by
    have hstart := atComment_append (word c cs).2 (atComment_iff.2 h)
    rw [word_append, hcomment] at hstart
    cases hstart
  tag s t hsplit hne := atTagStart_of_suffix_word htag ⟨s, hsplit.symm⟩ hne
  ends := by
    by_cases hrest : (word c cs).2 = []
    · exact .inl hrest
    · have hstop : endsWord (word c cs).2 = true := stop_of_splitUntil_rest hrest
      obtain ⟨d, ds, hds⟩ := List.exists_cons_of_ne_nil hrest
      rw [hds, endsWord, Bool.or_eq_true] at hstop
      rw [hds]
      exact .inr (hstop.imp_left fun hd => ⟨d, rfl, hd⟩)
  category := isWordCategory_wordCategory config _

theorem statementCut_of_branch {config : Config} {c : Char} {cs : List Char} {s : Step}
    (hs : Branch config .statement c cs s) {left : List Char} (hleft : Parted left (c :: cs))
    {l : Lexeme} (hl : l ∈ s.lexemes) : StatementCut config left l s.rest := by
  cases hs with
  | blanks hmode hblank =>
    obtain rfl := List.mem_singleton.1 hl
    exact ⟨fun _ => isMaximalRun_blankRun hblank hleft, by simp, by simp⟩
  | tagStart htag => cases hl
  | comment hblank hcomment =>
    obtain rfl := List.mem_singleton.1 hl
    exact ⟨by simp, fun _ => ⟨atComment_iff.1 hcomment, rfl⟩, by simp⟩
  | word hblank htag hcomment =>
    obtain rfl := List.mem_singleton.1 hl
    obtain ⟨hne, hne', _⟩ := wordCategory_ne config (word c cs).1
    exact ⟨fun h => absurd h hne, fun h => absurd h hne',
      fun _ _ => wordCut_word config hblank htag hcomment⟩

theorem statementCut_of_run (config : Config) (cs : List Char) {before after : List Lexeme}
    {l : Lexeme} (h : lexemes (run config .statement cs) = before ++ l :: after)
    (hout : ¬EndsInTag before) (hl : l.category ≠ .tagBracket) :
    StatementCut config (textOf before) l (textOf after) := by
  refine forall_lexemes_run (P := fun before l after => ¬EndsInTag before →
    l.category ≠ .tagBracket → StatementCut config (textOf before) l (textOf after)) ?_
      (behind_nil cs) before l after h hout hl
  intro before mode c cs hbehind b l a hsplit hout hl
  obtain rfl := hbehind.mode_eq_statement hsplit hout hl
  obtain ⟨rfl, rfl⟩ := statementStep_split hsplit
  have hmem : l ∈ (step config .statement c cs).lexemes := hsplit ▸ List.mem_singleton_self l
  rw [List.append_nil, List.nil_append, textOf_lexemes_run]
  exact statementCut_of_branch (branch_step config .statement c cs) hbehind.parted hmem

end Lexer

open Lexer in
/-- **Statement text is cut by maximal munch, and no tag is missed.** A token that stands outside all
tags is a maximal run of blanks, a comment up to the end of the line, or a word: a word has no blank
in it, is no comment, has no start of a tag at any of its characters, goes on up to a blank, a tag or
the end of the line, and has the category that the tables give it. The tokens partition the line, so
nothing of it is left out. -/
theorem statement_text_is_cut (config : Config) (line : String) (lineno : Option Int) :
    ∃ ts, classifyLine config line lineno = .ok ts ∧ Partitions line ts ∧
      ∀ before t after, ts = before ++ t :: after → ¬EndsInTag (before.map Token.lexeme) →
        t.category ≠ .tagBracket →
        ∃ left right, t.Within line left right ∧ StatementCut config left t.lexeme right := by
  refine ⟨_, classifyLine_eq config line lineno, partitions_tokens config line,
    fun before t after hts hout ht => ?_⟩
  obtain ⟨hlexemes, hwithin⟩ := tokens_split hts
  exact ⟨_, _, hwithin, statementCut_of_run config _ hlexemes hout ht⟩

end TagHighlight
