import TagHighlight.Proofs.Lexer.Grammar
import TagHighlight.Proofs.Lexer.Lookahead

/-!
# Text put behind a line

A step that leaves something of a text without quotes does not notice what is put behind that text
(`step_append_of_rest`). A step that leaves nothing is the last one. If it is to end in statement
text, it closes a tag, or it is a word or a run of blanks; and these end where they did if exactly
one of the characters that meet is blank (`step_append_of_seam`). So a run over the two texts is the
run over the first one and then the run over the second one (`lexemes_run_append`).
-/

namespace TagHighlight

namespace Lexer

open TagHighlight.Text (isQuote)
open TagHighlight.Unicode (isBlank)

/-! ### The last step -/

/-- Two texts can be put together: the lexemes of the first one end with a bracket, or exactly one of
the characters that meet is blank. -/
def Seam (ls : List Lexeme) (a b : List Char) : Prop :=
  (∃ l ∈ ls.getLast?, l.category = .tagBracket) ∨
    ∃ c ∈ a.getLast?, ∃ d ∈ b.head?, isBlank c ≠ isBlank d

theorem isTagNameStart_eq_false_of_isBlank {c : Char} (h : isBlank c = true) :
    isTagNameStart c = false := by
  refine Bool.eq_false_iff.2 fun hstart => ?_
  have hname := isTagNameChar_of_isTagNameStart hstart
  rw [isTagNameChar_eq_false_of_isBlank h] at hname
  cases hname

theorem ne_slash_of_isBlank {c : Char} (h : isBlank c = true) : c ≠ '/' := by
  rintro rfl
  cases h

theorem atTagStart_append_blank {c d : Char} {cs b : List Char}
    (h : atTagStart (c :: cs) = false) (hd : isBlank d = true) :
    atTagStart (c :: (cs ++ d :: b)) = false := by
  cases cs with
  | nil =>
    change (c == '<' && (d == '/' || isTagNameStart d)) = false
    rw [isTagNameStart_eq_false_of_isBlank hd, beq_false_of_ne (ne_slash_of_isBlank hd)]
    exact Bool.and_false _
  | cons e cs => exact h

theorem atComment_append_blank {c d : Char} {cs b : List Char}
    (h : atComment (c :: cs) = false) (hd : isBlank d = true) :
    atComment (c :: (cs ++ d :: b)) = false := by
  cases cs with
  | nil =>
    change (c == '/' && d == '/') = false
    rw [beq_false_of_ne (ne_slash_of_isBlank hd)]
    exact Bool.and_false _
  | cons e cs => exact h

theorem endsWord_of_word_rest {c : Char} {cs s : List Char} (hrest : (word c cs).2 = [])
    (hs : s <:+ cs) (hne : s ≠ []) : endsWord s = false := by
  have happ := splitUntil_append endsWord cs
  have hnil : (splitUntil endsWord cs).2 = [] := hrest
  rw [hnil, List.append_nil] at happ
  have hword : s <:+ (splitUntil endsWord cs).1 := happ.symm ▸ hs
  have hstop := stop_of_suffix_splitUntil hword hne
  rwa [hnil, List.append_nil] at hstop

theorem isBlank_eq_false_of_word_rest {c : Char} {cs : List Char} (hblank : isBlank c = false)
    (hrest : (word c cs).2 = []) : ∀ d ∈ c :: cs, isBlank d = false := by
  intro d hd
  rcases List.mem_cons.1 hd with rfl | hd
  · exact hblank
  · obtain ⟨before, after, rfl⟩ := List.append_of_mem hd
    have hends := endsWord_of_word_rest hrest (List.suffix_append before (d :: after))
      (List.cons_ne_nil d after)
    exact (Bool.or_eq_false_iff.1 hends).1

theorem word_append_blank {c d : Char} {cs : List Char} (hrest : (word c cs).2 = [])
    (hd : isBlank d = true) (b : List Char) : word c (cs ++ d :: b) = (c :: cs, d :: b) := by
  have hsplit : splitUntil endsWord (cs ++ d :: b) = (cs, d :: b) := by
    have hstop : endsWord (d :: b) = true := by rw [endsWord, hd, Bool.true_or]
    refine splitUntil_append_of_stop (fun s hs hne => ?_) fun _ => hstop
    have hends := endsWord_of_word_rest hrest hs hne
    obtain ⟨e, s, rfl⟩ := List.exists_cons_of_ne_nil hne
    obtain ⟨he, hstart⟩ := Bool.or_eq_false_iff.1 hends
    rw [List.cons_append, endsWord, he, atTagStart_append_blank hstart hd]
    rfl
  rw [word, hsplit]

theorem word_eq_of_rest {c : Char} {cs : List Char} (hrest : (word c cs).2 = []) :
    word c cs = (c :: cs, []) := by
  have happ := word_append c cs
  rw [hrest, List.append_nil] at happ
  exact Prod.ext happ hrest

theorem blankRun_append_nonblank {cs : List Char} (hrest : (blankRun cs).2 = []) {b : List Char}
    (hb : ∀ d ∈ b.head?, isBlank d = false) : blankRun (cs ++ b) = (cs, b) := by
  have hall : ∀ c ∈ cs, isBlank c = true := List.dropWhile_eq_nil_iff.1 hrest
  exact Prod.ext (takeWhile_append_of_head hall hb) (dropWhile_append_of_head hall hb)

/-- A step that leaves nothing, ends in statement text and is no comment ends at a seam as it did. -/
theorem step_append_of_seam {config : Config} {mode : Mode} {c : Char} {cs b : List Char}
    (hrest : (step config mode c cs).rest = []) (hmode : (step config mode c cs).mode = .statement)
    (hcomment : ∀ l ∈ (step config mode c cs).lexemes.getLast?, l.category ≠ .lineComment)
    (hseam : Seam (step config mode c cs).lexemes (c :: cs) b) :
    step config mode c (cs ++ b) = (step config mode c cs).followedBy b := by
  have hs := branch_step config mode c cs
  generalize step config mode c cs = s at hs hrest hmode hcomment hseam ⊢
  cases hs with
  | tagStart | head | named | unnamed => cases hmode
  | comment => exact absurd rfl (hcomment _ rfl)
  | close hclose =>
    have hblank : ¬isBlank c = true := by
      rcases atTagClose_cons.1 hclose with rfl | ⟨rfl, _⟩ <;> decide
    have hmore : atTagClose (c :: (cs ++ b)) = true :=
      isLocal_atTagClose.append_of_true (List.cons_ne_nil c cs) hclose b
    rw [step, attributesStep, if_neg hblank, if_pos hmore, closingBracket_append_of_close hclose]
    rfl
  | blanks _ hblank =>
    obtain rfl : mode = .statement := hmode
    obtain ⟨l, hl, hbracket⟩ | ⟨e, he, d, hd, hmeet⟩ := hseam
    · obtain rfl := Option.some.inj hl
      cases hbracket
    -- the last blank meets a character that is not blank
    have hall : ∀ e ∈ c :: cs, isBlank e = true := List.dropWhile_eq_nil_iff.1 hrest
    have hb : ∀ d ∈ b.head?, isBlank d = false := by
      intro d' hd'
      obtain rfl := Option.mem_unique hd hd'
      simpa [hall e (List.mem_of_getLast? he)] using hmeet
    have hself : blankRun (c :: cs) = (c :: cs, []) := by
      have hnone : ∀ d ∈ [].head?, isBlank d = false := by
        intro d hd
        cases hd
      have hnil := blankRun_append_nonblank hrest hnone
      rwa [List.append_nil] at hnil
    rw [step, statementStep, if_pos hblank, ← List.cons_append, blankRun_append_nonblank hrest hb,
      hself]
    rfl
  | word hblank hstart hslashes =>
    obtain ⟨l, hl, hbracket⟩ | ⟨e, he, d, hd, hmeet⟩ := hseam
    · obtain rfl := Option.some.inj hl
      exact absurd hbracket (ne_tagBracket (.inl (isStatement_wordCategory _ _)))
    -- the last character of the word meets a blank
    have he : isBlank e = false :=
      isBlank_eq_false_of_word_rest hblank hrest e (List.mem_of_getLast? he)
    have hd' : isBlank d = true := by simpa [he] using hmeet
    obtain ⟨b, rfl⟩ := List.head?_eq_some_iff.1 hd
    rw [step, statementStep, if_neg (by simp [hblank]),
      if_neg (by simp [atTagStart_append_blank hstart hd']),
      if_neg (by simp [atComment_append_blank hslashes hd']), word_append_blank hrest hd',
      word_eq_of_rest hrest]
    rfl

/-! ### Runs -/

theorem getLast?_lexemes_cons (config : Config) (mode : Mode) {s : Step} (hrest : s.rest ≠ []) :
    (lexemes (s :: run config mode s.rest)).getLast? =
      (lexemes (run config mode s.rest)).getLast? := by
  rw [lexemes_cons, List.getLast?_append_of_ne_nil]
  intro hnil
  have htext := textOf_lexemes_run config mode s.rest
  rw [hnil] at htext
  exact hrest htext.symm

/-- Where two texts can be put together, the run over both is the run over the first one and then the
run over the second one. -/
theorem lexemes_run_append {config : Config} {mode : Mode} {a b : List Char}
    (hquote : ∀ d ∈ a, isQuote d = false)
    (hlast : finalMode mode (run config mode a) = .statement)
    (hcomment : ∀ l ∈ (lexemes (run config mode a)).getLast?, l.category ≠ .lineComment)
    (hseam : a = [] ∨ Seam (lexemes (run config mode a)) a b) :
    lexemes (run config mode (a ++ b)) =
      lexemes (run config mode a) ++ lexemes (run config .statement b) := by
  fun_induction run config mode a with
  | case1 mode =>
    obtain rfl : mode = .statement := hlast
    rfl
  | case2 mode c cs ih =>
    rw [finalMode_cons] at hlast
    have hseam := hseam.resolve_left (List.cons_ne_nil c cs)
    have happ := step_append config mode c cs
    rw [List.cons_append, run]
    by_cases hrest : (step config mode c cs).rest = []
    · rw [hrest, run] at hlast hcomment hseam
      rw [lexemes_singleton] at hcomment hseam
      have hmode : (step config mode c cs).mode = .statement := hlast
      rw [step_append_of_seam hrest hmode hcomment hseam, hrest, run, lexemes_cons,
        lexemes_singleton, Step.followedBy, hrest, hmode]
      rfl
    · have hlasts := getLast?_lexemes_cons config (step config mode c cs).mode hrest
      rw [hlasts] at hcomment
      have hchar : (c :: cs).getLast? = (step config mode c cs).rest.getLast? := by
        rw [← happ, List.getLast?_append_of_ne_nil _ hrest]
      rw [Seam, hlasts, hchar] at hseam
      have hquote' : ∀ d ∈ (step config mode c cs).rest, isQuote d = false := fun d hd =>
        hquote d (happ ▸ List.mem_append_right _ hd)
      rw [step_append_of_rest hquote hrest, lexemes_cons, lexemes_cons, List.append_assoc,
        ← ih hquote' hlast hcomment (.inr hseam)]
      rfl

theorem getLast?_tokens (config : Config) (line : String) :
    (lexemes (run config .statement line.toList)).getLast? =
      (tokens config line).getLast?.map Token.lexeme := by
  rw [← List.getLast?_map, tokens, map_lexeme_place]

end Lexer

/-- **Text put behind a line does not recolor what is finished.** Let a line without quotes end in
statement text, and not in a comment. If nothing is there yet, or a tag has just been closed, or
exactly one of the characters that meet is blank, then the tokens of both texts together are those of
the line, and those of the text behind it, further on by the length of the line. -/
theorem appending_recolors_nothing {config : Config} {a b : String}
    (hquote : ∀ c ∈ a.toList, Text.isQuote c = false)
    (hlast : Lexer.finalMode .statement (Lexer.run config .statement a.toList) = .statement)
    (hcomment : ∀ t ∈ (Lexer.tokens config a).getLast?, t.category ≠ .lineComment)
    (hseam : a = "" ∨ (∃ t ∈ (Lexer.tokens config a).getLast?, t.lexeme.Closes) ∨
      ∃ c ∈ a.toList.getLast?, ∃ d ∈ b.toList.head?, Unicode.isBlank c ≠ Unicode.isBlank d)
    (lineno : Option Int) :
    ∃ ts us, classifyLine config a lineno = .ok ts ∧ classifyLine config b lineno = .ok us ∧
      classifyLine config (a ++ b) lineno = .ok (ts ++ us.map (Token.shift a.length)) := by
  have hcomment' : ∀ l ∈ (Lexer.lexemes (Lexer.run config .statement a.toList)).getLast?,
      l.category ≠ .lineComment := by
    intro l hl
    rw [Lexer.getLast?_tokens] at hl
    obtain ⟨t, ht, rfl⟩ := Option.map_eq_some_iff.1 hl
    exact hcomment t ht
  have hseam' : a.toList = [] ∨
      Lexer.Seam (Lexer.lexemes (Lexer.run config .statement a.toList)) a.toList b.toList := by
    obtain rfl | ⟨t, ht, hcloses⟩ | hmeet := hseam
    · exact .inl rfl
    · refine .inr (.inl ⟨t.lexeme, ?_, hcloses.1⟩)
      rw [Lexer.getLast?_tokens, Option.mem_def.1 ht]
      rfl
    · exact .inr (.inr hmeet)
  refine ⟨_, _, classifyLine_eq config a lineno, classifyLine_eq config b lineno, ?_⟩
  rw [classifyLine_eq, Lexer.tokens, String.toList_append,
    Lexer.lexemes_run_append hquote hlast hcomment' hseam', Lexer.place_append,
    Lexer.textOf_lexemes_run, Lexer.place_add, String.length_toList]
  rfl

/-- A blank behind `<` keeps it from opening a tag. -/
theorem appending_recolors_nothing_behind_less :
    (∀ c ∈ "<".toList, Text.isQuote c = false) ∧
      Lexer.finalMode .statement (Lexer.run .default .statement "<".toList) = .statement ∧
      (∀ t ∈ (Lexer.tokens .default "<").getLast?, t.category ≠ .lineComment) ∧
      (∃ c ∈ "<".toList.getLast?, ∃ d ∈ " b>".toList.head?,
        Unicode.isBlank c ≠ Unicode.isBlank d) ∧
      ∃ ts us, classifyLine .default "<" none = .ok ts ∧ classifyLine .default " b>" none = .ok us ∧
        classifyLine .default "< b>" none = .ok (ts ++ us.map (Token.shift 1)) := by
  have hstep : Lexer.step .default .statement '<' [] =
      ⟨[⟨Lexer.wordCategory .default ['<'], ['<']⟩], .statement, []⟩ := rfl
  have hrun : Lexer.run .default .statement "<".toList =
      [⟨[⟨Lexer.wordCategory .default ['<'], ['<']⟩], .statement, []⟩] := by
    change Lexer.run .default .statement ['<'] = _
    rw [Lexer.run, hstep, Lexer.run]
  have hquote : ∀ c ∈ "<".toList, Text.isQuote c = false := by
    change ∀ c ∈ ['<'], Text.isQuote c = false
    exact List.forall_mem_singleton.2 rfl
  have hlast : Lexer.finalMode .statement (Lexer.run .default .statement "<".toList) =
      .statement := by
    rw [hrun]
    rfl
  have hcomment : ∀ t ∈ (Lexer.tokens .default "<").getLast?, t.category ≠ .lineComment := by
    have htokens : Lexer.tokens .default "<" =
        [⟨"<", Lexer.wordCategory .default ['<'], 0⟩] := by
      rw [Lexer.tokens, hrun]
      rfl
    intro t ht
    rw [htokens] at ht
    obtain rfl := Option.some.inj ht
    exact (Lexer.wordCategory_ne .default ['<']).2.1
  have hmeet : ∃ c ∈ "<".toList.getLast?, ∃ d ∈ " b>".toList.head?,
      Unicode.isBlank c ≠ Unicode.isBlank d := ⟨'<', rfl, ' ', rfl, by decide⟩
  exact ⟨hquote, hlast, hcomment, hmeet,
    appending_recolors_nothing hquote hlast hcomment (.inr (.inr hmeet)) none⟩

end TagHighlight
