import TagHighlight.Lexer.Run
import TagHighlight.Proofs.Lexer.Cursor
import TagHighlight.Proofs.Lexer.Lookups
import TagHighlight.Proofs.Token.Tiling

/-!
# Lexing loses nothing

The tokens of a line partition it, so the check that strict mode makes of every line always passes,
and strict mode answers what the plain mode does. Lexemes that are not empty, placed one after the
other from a column on, tile their text (`tiles_place`); a run gives such lexemes, and their text is
the line.
-/

namespace TagHighlight

namespace Lexer

theorem tiles_place (col : Nat) {ls : List Lexeme} (h : Solid ls) :
    Tiles col (textOf ls) (place col ls) := by
  induction ls generalizing col with
  | nil => exact tiles_nil.2 rfl
  | cons l ls ih =>
    have hls : Solid ls := fun m hm => h m (List.mem_cons_of_mem _ hm)
    refine tiles_cons.2 ⟨fun he => ?_, rfl, textOf ls, ?_, ?_⟩
    · exact h l List.mem_cons_self (String.ofList_eq_empty_iff.1 he)
    · rw [textOf_cons, String.toList_ofList]
    · rw [String.length_ofList]
      exact ih (col + l.chars.length) hls

theorem partitions_tokens (config : Config) (line : String) :
    Partitions line (tokens config line) := by
  have h := tiles_place 0 (solid_lexemes_run config .statement line.toList)
  rwa [textOf_lexemes_run] at h

theorem tokens_strict (config : Config) (strict : Json) (line : String) :
    tokens { config with strict } line = tokens config line := by
  have h : SameLookups { config with strict } config :=
    ⟨⟨fun _ _ => rfl, fun _ _ _ => rfl, fun _ _ _ _ => rfl⟩, rfl⟩
  exact h.tokens_eq line

end Lexer

/-- A line is always classified, and a check that is made always passes. -/
theorem classifyLine_eq (config : Config) (line : String) (lineno : Option Int) :
    classifyLine config line lineno = .ok (Lexer.tokens config line) := by
  have hcheck := verifyPartition_of_partitions (Lexer.partitions_tokens config line) lineno
  simp only [classifyLine]
  split
  · rw [hcheck]
  · rfl

theorem classifyLines_eq (config : Config) (lineno : Nat) (lines : List String) :
    classifyLines config lineno lines = .ok (lines.map (Lexer.tokens config)) := by
  induction lines generalizing lineno with
  | nil => rfl
  | cons line lines ih =>
    rw [classifyLines, classifyLine_eq, ih]
    rfl

theorem classify_eq (config : Config) (text : String) :
    classify config text = .ok ((Text.lines text).map (Lexer.tokens config)) :=
  classifyLines_eq config 1 (Text.lines text)

/-- **Every line is lexed to its end without a look beyond it, its tokens partition it, and the
strict switch, whatever it is, changes no answer and refuses no text.** -/
theorem lexing_is_lossless (config : Config) :
    (∀ line : String,
      (∃ n mode, Lexer.Reached config line.toList n
        ⟨mode, line.length, Lexer.tokens config line⟩) ∧
      (∀ n k, Lexer.Reached config line.toList n k → k.pos < line.length →
        (k.next? config line.toList).isSome = true) ∧
      Partitions line (Lexer.tokens config line) ∧
      (∀ lineno, verifyPartition line (Lexer.tokens config line) lineno = .ok ()) ∧
      ∀ strict lineno, classifyLine { config with strict } line lineno =
        .ok (Lexer.tokens config line)) ∧
    ∀ (strict : Json) (text : String),
      classify { config with strict } text = .ok ((Text.lines text).map (Lexer.tokens config)) := by
  refine ⟨fun line => ⟨Lexer.exists_reached_end config line, fun n k h hk => ?_,
    Lexer.partitions_tokens config line, fun lineno => ?_, fun strict lineno => ?_⟩,
    fun strict text => ?_⟩
  · exact h.next_isSome (by rwa [String.length_toList])
  · exact verifyPartition_of_partitions (Lexer.partitions_tokens config line) lineno
  · rw [classifyLine_eq, Lexer.tokens_strict]
  · rw [classify_eq, funext (Lexer.tokens_strict config strict)]

end TagHighlight
