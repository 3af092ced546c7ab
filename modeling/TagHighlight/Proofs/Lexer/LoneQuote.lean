import TagHighlight.Proofs.Lexer.Delimited
import TagHighlight.Proofs.Lexer.Grammar

/-!
# Quotes that never recur

Two configurations that differ only in what becomes of a quote that never recurs cut a line into the
same lexemes up to the first such quote inside a tag. There the one takes the rest of the line, and
the other takes the quote alone and goes on behind it, still inside the tag.

`PartAt` is how two cuts of one text part in this way. A value either is cut off alike or parts
(`value_eq_or_partAt`), a step does so too (`step_eq_or_partAt`), and a run parts at most once, since
behind the quote the one that takes the rest has nothing left (`run_eq_or_partAt`). Braced texts do
not ask for the policy, so the quotes in them play no part.
-/

namespace TagHighlight

/-- The configuration with a policy for quotes that never recur. -/
def Config.withPolicy (config : Config) (policy : Json) : Config :=
  { config with unterminatedToEol := policy }

namespace Lexer

open TagHighlight.Text (isQuote)

/-! ### Parting at a quote -/

/-- A text has a quote that never recurs behind some lexemes. -/
structure LoneQuote (cs : List Char) (before : List Lexeme) (quote : Char) (after : List Char) :
    Prop where
  text : textOf before ++ quote :: after = cs
  isQuote : isQuote quote = true
  notMem : quote ∉ after

/-- Two cuts of one text part inside a tag: at a quote that never recurs the first one takes all that
is left, and the second one takes the quote alone. -/
def PartAt (cs : List Char) (taking resuming : List Lexeme × List Char) : Prop :=
  ∃ before quote after, LoneQuote cs before quote after ∧
    (∀ l ∈ before, l.category.isInner = true) ∧
    taking = (before ++ [⟨.stringLiteral, quote :: after⟩], []) ∧
    resuming = (before ++ [⟨.plain, [quote]⟩], after)

theorem LoneQuote.append {cs after : List Char} {before : List Lexeme} {quote : Char}
    (h : LoneQuote cs before quote after) (ls : List Lexeme) :
    LoneQuote (textOf ls ++ cs) (ls ++ before) quote after where
  text := by rw [textOf_append, List.append_assoc, h.text]
  isQuote := h.isQuote
  notMem := h.notMem

theorem PartAt.cons {cs : List Char} {taking resuming : List Lexeme × List Char} {l : Lexeme}
    (h : PartAt cs taking resuming) (hl : l.category.isInner = true) :
    PartAt (l.chars ++ cs) (l :: taking.1, taking.2) (l :: resuming.1, resuming.2) := by
  obtain ⟨before, quote, after, hquote, hbefore, rfl, rfl⟩ := h
  have hcons : LoneQuote (l.chars ++ cs) (l :: before) quote after := by
    simpa using hquote.append [l]
  refine ⟨l :: before, quote, after, hcons, fun m hm => ?_, rfl, rfl⟩
  rcases List.mem_cons.1 hm with rfl | hm
  · exact hl
  · exact hbefore m hm

theorem value_eq_or_partAt (c : Char) (cs : List Char) :
    value true c cs = value false c cs ∨
      PartAt (c :: cs) (value true c cs) (value false c cs) := by
  unfold value
  by_cases hquote : isQuote c = true
  · rw [if_pos hquote, if_pos hquote]
    cases hthrough : throughQuote c cs with
    | some parts => exact .inl rfl
    | none =>
      have hlone : LoneQuote (c :: cs) [] c cs :=
        ⟨rfl, hquote, notMem_of_throughQuote_eq_none hthrough⟩
      exact .inr ⟨[], c, cs, hlone, by simp, rfl, rfl⟩
  · rw [if_neg hquote, if_neg hquote]
    exact .inl rfl

theorem attributeValue_eq_or_partAt (cs : List Char) :
    attributeValue true cs = attributeValue false cs ∨
      PartAt cs (attributeValue true cs) (attributeValue false cs) := by
  cases cs with
  | nil => exact .inl rfl
  | cons c cs =>
    rw [attributeValue, attributeValue]
    by_cases hends : endsChunk (c :: cs) = true
    · rw [if_pos hends, if_pos hends]
      exact .inl rfl
    · rw [if_neg hends, if_neg hends]
      exact value_eq_or_partAt c cs

theorem assignment_eq_or_partAt (cs : List Char) :
    assignment true cs = assignment false cs ∨
      PartAt cs (assignment true cs) (assignment false cs) := by
  by_cases hsign : ∃ ds, cs = '=' :: ds
  · obtain ⟨ds, rfl⟩ := hsign
    rw [assignment, assignment]
    rcases attributeValue_eq_or_partAt ds with hsame | hpart
    · exact .inl (by rw [hsame])
    · exact .inr (hpart.cons (l := ⟨.attributeOperator, ['=']⟩) rfl)
  · have hnone := not_exists.1 hsign
    exact .inl (by rw [assignment_of_ne true hnone, assignment_of_ne false hnone])

/-! ### Steps and runs -/

/-- Under the two policies a step is the same, or it is inside a tag and parts. -/
theorem step_eq_or_partAt {config : Config} {v w : Json} (hv : v.isOn = true) (hw : w.isOn = false)
    (mode : Mode) (c : Char) (cs : List Char) :
    step (config.withPolicy v) mode c cs = step (config.withPolicy w) mode c cs ∨
      mode = .attributes ∧ ∃ taking resuming, PartAt (c :: cs) taking resuming ∧
        step (config.withPolicy v) mode c cs = ⟨taking.1, .attributes, taking.2⟩ ∧
        step (config.withPolicy w) mode c cs = ⟨resuming.1, .attributes, resuming.2⟩ := by
  cases mode with
  | statement => exact .inl rfl
  | tagOpen => exact .inl rfl
  | attributes =>
    simp only [step, Config.withPolicy, hv, hw, true_and]
    unfold attributesStep
    by_cases hblank : Unicode.isBlank c = true
    · rw [if_pos hblank, if_pos hblank]
      exact .inl rfl
    by_cases hclose : atTagClose (c :: cs) = true
    · rw [if_neg hblank, if_neg hblank, if_pos hclose, if_pos hclose]
      exact .inl rfl
    rw [if_neg hblank, if_neg hblank, if_neg hclose, if_neg hclose]
    by_cases hname : isAttributeNameChar c = true
    · rw [if_pos hname, if_pos hname]
      rcases assignment_eq_or_partAt (cs.dropWhile isAttributeNameChar) with hsame | hpart
      · exact .inl (by simp only [hsame])
      · have hcons := hpart.cons (l := ⟨.attributeName, c :: cs.takeWhile isAttributeNameChar⟩) rfl
        rw [List.cons_append, List.takeWhile_append_dropWhile] at hcons
        exact .inr ⟨_, _, hcons, rfl, rfl⟩
    · rw [if_neg hname, if_neg hname]
      rcases value_eq_or_partAt c cs with hsame | hpart
      · exact .inl (by rw [hsame])
      · exact .inr ⟨_, _, hpart, rfl, rfl⟩

theorem run_eq_or_partAt (config : Config) {v w : Json} (hv : v.isOn = true)
    (hw : w.isOn = false) (mode : Mode) (cs : List Char)
    (htag : mode = .tagOpen → atTagStart cs = true) :
    lexemes (run (config.withPolicy v) mode cs) = lexemes (run (config.withPolicy w) mode cs) ∨
      ∃ before quote after, LoneQuote cs before quote after ∧ Reads mode before .attributes ∧
        lexemes (run (config.withPolicy v) mode cs) =
          before ++ [⟨.stringLiteral, quote :: after⟩] ∧
        lexemes (run (config.withPolicy w) mode cs) =
          before ++ ⟨.plain, [quote]⟩ :: lexemes (run (config.withPolicy w) .attributes after) := by
  fun_induction run (config.withPolicy v) mode cs with
  | case1 mode => exact .inl (by rw [run])
  | case2 mode c cs ih =>
    rw [run]
    rcases step_eq_or_partAt hv hw mode c cs with
      hsame | ⟨rfl, taking, resuming, hpart, htake, hresume⟩
    · -- the runs are in step, and part later if they do
      rw [lexemes_cons, lexemes_cons, ← hsame]
      rcases ih atTagStart_rest_of_tagOpen with
        hrest | ⟨before, quote, after, hquote, hreads, htake, hresume⟩
      · exact .inl (by rw [hrest])
      · refine .inr ⟨(step (config.withPolicy v) mode c cs).lexemes ++ before, quote, after, ?_, ?_,
          ?_, ?_⟩
        · have := hquote.append (step (config.withPolicy v) mode c cs).lexemes
          rwa [step_append] at this
        · exact (branch_step _ mode c cs).reads htag hreads
        · rw [htake, List.append_assoc]
        · rw [hresume, List.append_assoc]
    · obtain ⟨before, quote, after, hquote, hbefore, rfl, rfl⟩ := hpart
      refine .inr ⟨before, quote, after, hquote, ?_, ?_, ?_⟩
      · simpa using Reads.unclosed.append_inner hbefore
      · rw [lexemes_cons, htake, run]
        exact List.append_nil _
      · rw [lexemes_cons, hresume, List.append_assoc]
        rfl

theorem run_withPolicy (config : Config) {v w : Json} (h : v.isOn = w.isOn) (mode : Mode)
    (cs : List Char) :
    run (config.withPolicy v) mode cs = run (config.withPolicy w) mode cs := by
  have hsame : SameLookups (config.withPolicy v) (config.withPolicy w) :=
    ⟨⟨fun _ _ => rfl, fun _ _ _ => rfl, fun _ _ _ _ => rfl⟩, h⟩
  exact run_congr hsame.step_eq mode cs

theorem Reads.endsInTag {ls : List Lexeme} (h : Reads .statement ls .attributes) : EndsInTag ls := by
  simpa using h.last_eq_attributes_iff.1 rfl

end Lexer

open Lexer in
/-- **Policies for quotes that never recur differ only from the first such quote on.** Either all
policies give a line the same tokens, or there are tokens that all of them give it first, up to a
quote inside a tag that does not occur again. There a policy that is on gives one token for the rest
of the line, and one that is off gives a token for the quote alone, and then the tokens that the text
behind it has inside a tag, at their columns. -/
theorem policies_part_at_lone_quote (config : Config) (line : String) (lineno : Option Int) :
    (∀ v w : Json, classifyLine (config.withPolicy v) line lineno =
      classifyLine (config.withPolicy w) line lineno) ∨
    ∃ (before : List Token) (col : Nat) (quote : Char) (after : List Char),
      line.toList.drop col = quote :: after ∧ Text.isQuote quote = true ∧ quote ∉ after ∧
      EndsInTag (before.map Token.lexeme) ∧
      ∀ policy : Json, classifyLine (config.withPolicy policy) line lineno =
        .ok (before ++
          if policy.isOn then [⟨String.ofList (quote :: after), .stringLiteral, col⟩]
          else ⟨String.ofList [quote], .plain, col⟩ ::
            (resume (config.withPolicy policy) (String.ofList after) 0 .attributes).tokens.map
              (Token.shift (col + 1))) := by
  have hparts := run_eq_or_partAt config (v := .bool true) (w := .bool false) rfl rfl
    .statement line.toList nofun
  have hpolicy (policy : Json) (toEol : Bool) (h : policy.isOn = toEol) (mode : Mode)
      (cs : List Char) :
      run (config.withPolicy policy) mode cs = run (config.withPolicy (.bool toEol)) mode cs :=
    run_withPolicy config (w := .bool toEol) h mode cs
  rcases hparts with hsame | ⟨before, quote, after, hquote, hreads, htake, hresume⟩
  · -- each policy gives what the one that is on gives
    refine .inl fun v w => ?_
    have heq (policy : Json) : lexemes (run (config.withPolicy policy) .statement line.toList) =
        lexemes (run (config.withPolicy (.bool true)) .statement line.toList) := by
      cases h : policy.isOn with
      | true => rw [hpolicy policy true h]
      | false => rw [hpolicy policy false h, hsame]
    rw [classifyLine_eq, classifyLine_eq, tokens, tokens, heq v, heq w]
  · have hdrop : line.toList.drop (textOf before).length = quote :: after := by
      rw [← hquote.text, List.drop_left]
    refine .inr ⟨place 0 before, (textOf before).length, quote, after, hdrop, hquote.isQuote,
      hquote.notMem, ?_, fun policy => ?_⟩
    · rw [map_lexeme_place]
      exact hreads.endsInTag
    · rw [classifyLine_eq, tokens]
      cases h : policy.isOn with
      | true =>
        rw [hpolicy policy true h, htake, place_append, Nat.zero_add, if_pos rfl]
        rfl
      | false =>
        rw [hpolicy policy false h, hresume, place_append, Nat.zero_add, if_neg Bool.false_ne_true,
          resume, String.toList_ofList, List.drop_zero, hpolicy policy false h, ← place_add,
          Nat.zero_add]
        rfl

end TagHighlight
