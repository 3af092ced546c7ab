import Mathlib.Data.List.TakeWhile
import TagHighlight.Lexer.Run
import TagHighlight.Proofs.Lexer.Boundary

/-!
# What a line asks of a configuration

A line asks a configuration about its words, its tag names and its quotes that never recur, and
about nothing else. `IsWord` and `IsName` are the texts that can be asked about: a word has neither
a blank nor the start of a tag in it and does not begin like a comment, and a name is a run of name
characters. Two configurations cut every line into the same tokens exactly when they give the same
answers to all of these questions (`tokens_eq_iff_sameLookups`).

From left to right every question is asked by a line made for it: a word alone, a name after `</`,
and `<a "` for the quote. From right to left the steps are equal one by one, since a step only asks
about words and names, and so are the runs (`run_congr`).
-/

namespace TagHighlight.Lexer

open TagHighlight.Text (isQuote)
open TagHighlight.Unicode (isBlank isUppercase lower)

/-! ### Words and names -/

/-- A text that statement text can hold as one word. -/
def IsWord (w : List Char) : Prop :=
  w ≠ [] ∧ (∀ rest, rest <:+ w → rest ≠ [] → endsWord rest = false) ∧ atComment w = false

/-- A text that can stand as the name of a tag. -/
def IsName (n : List Char) : Prop := n ≠ [] ∧ ∀ c ∈ n, isTagNameChar c = true

theorem atTagStart_append {s : List Char} (t : List Char) (h : atTagStart s = true) :
    atTagStart (s ++ t) = true := by
  unfold atTagStart at h
  split at h
  · exact h
  · cases h

theorem atComment_append {s : List Char} (t : List Char) (h : atComment s = true) :
    atComment (s ++ t) = true := by
  unfold atComment at h
  split at h
  · exact h
  · cases h

theorem endsWord_of_append {s t : List Char} (hs : s ≠ []) (h : endsWord (s ++ t) = false) :
    endsWord s = false := by
  obtain ⟨c, cs, rfl⟩ := List.exists_cons_of_ne_nil hs
  simp only [List.cons_append, endsWord, Bool.or_eq_false_iff] at h ⊢
  refine ⟨h.1, Bool.eq_false_iff.2 fun ht => ?_⟩
  have := atTagStart_append t ht
  rw [List.cons_append, h.2] at this
  cases this

theorem stop_of_suffix_splitUntil {stop : List Char → Bool} {cs rest : List Char}
    (hrest : rest <:+ (splitUntil stop cs).1) (hne : rest ≠ []) :
    stop (rest ++ (splitUntil stop cs).2) = false := by
  induction cs with
  | nil => exact absurd (List.suffix_nil.1 hrest) hne
  | cons c cs ih =>
    by_cases h : stop (c :: cs) = true
    · simp only [splitUntil, if_pos h] at hrest
      exact absurd (List.suffix_nil.1 hrest) hne
    · simp only [splitUntil, if_neg h] at hrest ⊢
      rcases List.suffix_cons_iff.1 hrest with rfl | hrest
      · rw [List.cons_append, splitUntil_append]
        exact Bool.eq_false_iff.2 h
      · exact ih hrest

theorem splitUntil_eq_self {stop : List Char → Bool} {cs : List Char}
    (h : ∀ rest, rest <:+ cs → rest ≠ [] → stop rest = false) : splitUntil stop cs = (cs, []) := by
  have hsplit : splitUntil stop (cs ++ []) = (cs, []) := by
    refine splitUntil_append_of_stop (fun rest hrest hne => ?_) fun hne => absurd rfl hne
    rw [List.append_nil]
    exact h rest hrest hne
  rwa [List.append_nil] at hsplit

theorem isWord_word {c : Char} {cs : List Char} (hblank : isBlank c = false)
    (htag : atTagStart (c :: cs) = false) (hcomment : atComment (c :: cs) = false) :
    IsWord (word c cs).1 := by
  have happ := word_append c cs
  refine ⟨List.cons_ne_nil _ _, fun rest hrest hne => ?_, ?_⟩
  · rcases List.suffix_cons_iff.1 hrest with rfl | hrest
    · refine endsWord_of_append (t := (word c cs).2) hne ?_
      change endsWord ((word c cs).1 ++ (word c cs).2) = false
      rw [happ, endsWord, hblank, htag]
      rfl
    · exact endsWord_of_append hne (stop_of_suffix_splitUntil hrest hne)
  · refine Bool.eq_false_iff.2 fun h => ?_
    have := atComment_append (word c cs).2 h
    rw [happ, hcomment] at this
    cases this

/-! ### Equal answers -/

structure SameEntries (config other : Config) : Prop where
  keywords : ∀ w, IsWord w →
    config.keywords.contains (String.ofList w) = other.keywords.contains (String.ofList w)
  /-- The same words are punctuation, keywords apart. -/
  punctuation : ∀ w, IsWord w → config.keywords.contains (String.ofList w) = false →
    config.punctuation.contains (String.ofList w) = other.punctuation.contains (String.ofList w)
  /-- The same names are elements, those apart that are components in any case. -/
  elements : ∀ n, IsName n → n.head?.any isUppercase = false → n.contains '.' = false →
    config.elementNames.contains (lower (String.ofList n)) =
      other.elementNames.contains (lower (String.ofList n))

/-- Two configurations give the same answer to every question that a line can ask. -/
structure SameLookups (config other : Config) : Prop extends SameEntries config other where
  policy : config.unterminatedToEol.isOn = other.unterminatedToEol.isOn

theorem wordCategory_eq_iff {config other : Config} {w : List Char} :
    wordCategory config w = wordCategory other w ↔
      config.keywords.contains (String.ofList w) = other.keywords.contains (String.ofList w) ∧
        (config.keywords.contains (String.ofList w) = false →
          config.punctuation.contains (String.ofList w) =
            other.punctuation.contains (String.ofList w)) := by
  unfold wordCategory
  cases config.keywords.contains (String.ofList w) <;>
    cases other.keywords.contains (String.ofList w) <;>
    cases config.punctuation.contains (String.ofList w) <;>
    cases other.punctuation.contains (String.ofList w) <;>
    cases w.head?.any isQuote <;> simp

theorem nameCategory_eq_iff {config other : Config} {n : List Char} :
    nameCategory config n = nameCategory other n ↔
      (n.head?.any isUppercase = false → n.contains '.' = false →
        config.elementNames.contains (lower (String.ofList n)) =
          other.elementNames.contains (lower (String.ofList n))) := by
  unfold nameCategory
  cases n.head?.any isUppercase <;> cases n.contains '.' <;>
    cases config.elementNames.contains (lower (String.ofList n)) <;>
    cases other.elementNames.contains (lower (String.ofList n)) <;> simp

theorem lexeme?_congr {category other : List Char → Category} {cs : List Char}
    (h : cs ≠ [] → category cs = other cs) : lexeme? category cs = lexeme? other cs := by
  cases cs with
  | nil => rfl
  | cons c cs => rw [lexeme?, lexeme?, h (List.cons_ne_nil _ _)]

/-- A step asks about one word or one name, and about no text that is neither. -/
theorem SameLookups.step_eq {config other : Config} (h : SameLookups config other) (mode : Mode)
    (c : Char) (cs : List Char) : step config mode c cs = step other mode c cs := by
  cases mode with
  | statement =>
    simp only [step, statementStep]
    split
    · rfl
    · split
      · rfl
      · split
        · rfl
        · rename_i hblank htag hcomment
          have hword := isWord_word (Bool.eq_false_iff.2 hblank) (Bool.eq_false_iff.2 htag)
            (Bool.eq_false_iff.2 hcomment)
          rw [wordCategory_eq_iff.2 ⟨h.keywords _ hword, h.punctuation _ hword⟩]
  | tagOpen =>
    simp only [step, tagOpenStep]
    congr 2
    refine lexeme?_congr fun hne => nameCategory_eq_iff.2 (h.elements _ ⟨hne, fun d hd => ?_⟩)
    exact List.all_eq_true.1 List.all_takeWhile d hd
  | attributes => simp only [step, h.policy]

theorem run_congr {config other : Config}
    (h : ∀ mode c cs, step config mode c cs = step other mode c cs) (mode : Mode)
    (cs : List Char) : run config mode cs = run other mode cs := by
  fun_induction run config mode cs with
  | case1 mode => rw [run]
  | case2 mode c cs ih => rw [run, ← h, ih]

theorem SameLookups.tokens_eq {config other : Config} (h : SameLookups config other)
    (line : String) : tokens config line = tokens other line := by
  rw [tokens, tokens, run_congr h.step_eq]

/-! ### Lines that ask -/

theorem tokens_word (config : Config) {w : List Char} (h : IsWord w) :
    tokens config (String.ofList w) = [⟨String.ofList w, wordCategory config w, 0⟩] := by
  obtain ⟨hne, hends, hcomment⟩ := h
  obtain ⟨c, cs, rfl⟩ := List.exists_cons_of_ne_nil hne
  have hc := hends _ (List.suffix_refl _) hne
  simp only [endsWord, Bool.or_eq_false_iff] at hc
  have hsplit : splitUntil endsWord cs = (cs, []) :=
    splitUntil_eq_self fun rest hrest => hends rest (hrest.trans (List.suffix_cons c cs))
  have hstep : step config .statement c cs =
      ⟨[⟨wordCategory config (c :: cs), c :: cs⟩], .statement, []⟩ := by
    simp only [step, statementStep, hc.1, hc.2, hcomment, word, hsplit]
    rfl
  rw [tokens, String.toList_ofList, run, hstep, run]
  rfl

theorem tokens_closing_name (config : Config) {n : List Char} (h : IsName n) :
    tokens config (String.ofList ('<' :: '/' :: n)) =
      [⟨"</", .tagBracket, 0⟩, ⟨String.ofList n, nameCategory config n, 2⟩] := by
  obtain ⟨hne, hall⟩ := h
  have htake : n.takeWhile isTagNameChar = n := List.takeWhile_eq_self_iff.2 hall
  have hdrop : n.dropWhile isTagNameChar = [] := List.dropWhile_eq_nil_iff.2 hall
  have hopen : step config .statement '<' ('/' :: n) = ⟨[], .tagOpen, '<' :: '/' :: n⟩ := rfl
  have hname : step config .tagOpen '<' ('/' :: n) =
      ⟨[⟨.tagBracket, ['<', '/']⟩, ⟨nameCategory config n, n⟩], .attributes, []⟩ := by
    simp only [step, tagOpenStep, openingBracket, htake, hdrop, lexeme?,
      List.isEmpty_eq_false_iff.2 hne]
    rfl
  rw [tokens, String.toList_ofList, run, hopen]
  simp only [run, hname]
  rfl

theorem tokens_lone_quote (config : Config) :
    (tokens config "<a \x22").getLast? =
      some ⟨"\x22", if config.unterminatedToEol.isOn then .stringLiteral else .plain, 3⟩ := by
  have hopen : step config .statement '<' ['a', ' ', '\x22'] =
      ⟨[], .tagOpen, ['<', 'a', ' ', '\x22']⟩ := rfl
  have hname : step config .tagOpen '<' ['a', ' ', '\x22'] =
      ⟨[⟨.tagBracket, ['<']⟩, ⟨nameCategory config ['a'], ['a']⟩], .attributes, [' ', '\x22']⟩ :=
    rfl
  have hblank : step config .attributes ' ' ['\x22'] =
      ⟨[⟨.whitespace, [' ']⟩], .attributes, ['\x22']⟩ := rfl
  have hquote : step config .attributes '\x22' [] =
      ⟨[⟨if config.unterminatedToEol.isOn then .stringLiteral else .plain, ['\x22']⟩],
        .attributes, []⟩ := by
    change (⟨(value _ _ _).1, .attributes, (value _ _ _).2⟩ : Step) = _
    cases config.unterminatedToEol.isOn <;> rfl
  have hline : "<a \x22".toList = ['<', 'a', ' ', '\x22'] := rfl
  rw [tokens, hline, run, hopen]
  simp only [run, hname, hblank, hquote]
  rfl

/-- **Two configurations cut every line into the same tokens exactly when they give the same answers
to all that lines can ask.** -/
theorem tokens_eq_iff_sameLookups {config other : Config} :
    (∀ line, tokens config line = tokens other line) ↔ SameLookups config other := by
  refine ⟨fun h => ?_, fun h => h.tokens_eq⟩
  have hword : ∀ w, IsWord w → wordCategory config w = wordCategory other w := by
    intro w hw
    have := h (String.ofList w)
    rw [tokens_word config hw, tokens_word other hw] at this
    simpa using this
  have hname : ∀ n, IsName n → nameCategory config n = nameCategory other n := by
    intro n hn
    have := h (String.ofList ('<' :: '/' :: n))
    rw [tokens_closing_name config hn, tokens_closing_name other hn] at this
    simpa using this
  have hquote := congrArg List.getLast? (h "<a \x22")
  rw [tokens_lone_quote, tokens_lone_quote] at hquote
  refine ⟨⟨fun w hw => (wordCategory_eq_iff.1 (hword w hw)).1,
    fun w hw => (wordCategory_eq_iff.1 (hword w hw)).2,
    fun n hn => nameCategory_eq_iff.1 (hname n hn)⟩, ?_⟩
  cases hc : config.unterminatedToEol.isOn <;> cases ho : other.unterminatedToEol.isOn <;>
    simp [hc, ho] at hquote ⊢

end TagHighlight.Lexer
