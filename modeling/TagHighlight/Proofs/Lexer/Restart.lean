import TagHighlight.Proofs.Lexer.Partition
import TagHighlight.Proofs.Lexer.Positions

/-!
# Lexing restarted anywhere

`readFrom?` goes through a line by positions, from any position and mode to the end. It sees the
whole line, yet it finds what the run over the text that is left finds, each column moved on by the
position (`readFrom?_eq`): one step leaves the position at what the step has left, and in tag-open
mode at the start of a tag, so that no step is missing. Hence a line can be cut at any position, and
where the lexer stands in statement text the rest is classified like a line of its own.
-/

namespace TagHighlight

namespace Lexer

/-- The stage some columns further on. -/
def Stage.shift (n : Nat) (g : Stage) : Stage :=
  ⟨g.tokens.map (Token.shift n), g.stop + n, g.mode⟩

/-- The stage of all steps from a position and a mode on. -/
def stageOf (pos : Nat) (mode : Mode) (steps : List Step) : Stage :=
  ⟨place pos (lexemes steps), pos + (textOf (lexemes steps)).length, finalMode mode steps⟩

theorem stageOf_cons (pos : Nat) (mode : Mode) (s : Step) (ss : List Step) :
    stageOf pos mode (s :: ss) =
      let rest := stageOf (s.stage pos).stop s.mode ss
      ⟨(s.stage pos).tokens ++ rest.tokens, rest.stop, rest.mode⟩ := by
  simp only [stageOf, Step.stage, placed, lexemes_cons, place_append, textOf_append, finalMode_cons,
    List.length_append, Nat.add_assoc]

theorem stageOf_eq_shift (pos : Nat) (mode : Mode) (steps : List Step) :
    stageOf pos mode steps = (stageOf 0 mode steps).shift pos := by
  have hplace := place_add 0 pos (lexemes steps)
  rw [Nat.zero_add] at hplace
  simp only [stageOf, Stage.shift, hplace, Nat.zero_add]
  rw [Nat.add_comm]

/-! ### Runs by positions -/

section
variable {config : Config} {text cs : List Char} {mode : Mode} {pos : Nat}

theorem Left.step {c : Char} (h : Left text pos (c :: cs)) (config : Config) (mode : Mode) :
    Left text ((step config mode c cs).stage pos).stop (step config mode c cs).rest := by
  rw [← step_append config mode c cs] at h
  exact h.advance

theorem weight_stageAt?_lt {g : Stage} (hpos : pos < text.length)
    (hg : stageAt? text config mode pos = some g) :
    weight g.mode (text.drop g.stop) < weight mode (text.drop pos) := by
  have h : Left text pos (text.drop pos) := ⟨Nat.le_of_lt hpos, rfl⟩
  obtain ⟨c, cs, hcs⟩ := h.exists_cons hpos
  rw [hcs] at h ⊢
  rw [h.stageAt?_eq] at hg
  split at hg
  · cases hg
  · obtain rfl := Option.some.inj hg
    rw [(h.step config mode).drop_eq]
    exact weight_step_lt config mode c cs

/-- The stage that reads a line by positions, from a position on in a mode, to its end. -/
def readFrom? (config : Config) (text : List Char) (mode : Mode) (pos : Nat) : Option Stage :=
  if _ : pos < text.length then
    match _ : stageAt? text config mode pos with
    | none => none
    | some g =>
      (readFrom? config text g.mode g.stop).map fun rest =>
        ⟨g.tokens ++ rest.tokens, rest.stop, rest.mode⟩
  else some ⟨[], pos, mode⟩
termination_by weight mode (text.drop pos)
decreasing_by exact weight_stageAt?_lt ‹_› ‹_›

theorem readFrom?_of_stageAt? {g : Stage} (hpos : pos < text.length)
    (hg : stageAt? text config mode pos = some g) :
    readFrom? config text mode pos = (readFrom? config text g.mode g.stop).map fun rest =>
      ⟨g.tokens ++ rest.tokens, rest.stop, rest.mode⟩ := by
  rw [readFrom?, dif_pos hpos]
  split
  · rename_i hnone
    rw [hg] at hnone
    cases hnone
  · rename_i g' hsome
    rw [hg] at hsome
    obtain rfl := Option.some.inj hsome
    rfl

theorem readFrom?_eq (h : Left text pos cs) (htag : mode = .tagOpen → atTagStart cs = true) :
    readFrom? config text mode pos = some (stageOf pos mode (run config mode cs)) := by
  -- what holds of the mode is kept: a step to tag-open mode stays where the tag starts
  fun_induction run config mode cs generalizing pos with
  | case1 mode =>
    have hend : ¬pos < text.length := by
      rw [h.length_eq, List.length_nil]
      omega
    rw [readFrom?, dif_neg hend]
    rfl
  | case2 mode c cs ih =>
    have hpos : pos < text.length := by
      rw [h.length_eq, List.length_cons]
      omega
    have hlook : ¬(mode = .tagOpen ∧ cs = []) := fun hm => ne_nil_of_atTagStart (htag hm.1) hm.2
    have hstage := h.stageAt?_eq config mode
    rw [if_neg hlook] at hstage
    have hrest := ih (h.step config mode) atTagStart_rest_of_tagOpen
    rw [readFrom?_of_stageAt? hpos hstage, stageOf_cons]
    show (readFrom? config text (step config mode c cs).mode _).map _ = _
    rw [hrest]
    rfl

end

/-- At a boundary in statement text the tokens to come are those of the rest of the line. -/
theorem Cursor.OnTrack.tokens_append {config : Config} {line : String} {k : Cursor}
    (h : k.OnTrack config line.toList) (hmode : k.mode = .statement) :
    Lexer.tokens config line = k.tokens ++
      (Lexer.tokens config (String.ofList (line.toList.drop k.pos))).map (Token.shift k.pos) := by
  obtain ⟨made, hrun, htext, htokens⟩ := h.split
  have hlen : (textOf (lexemes made)).length = k.pos := by
    rw [htext, List.length_take, Nat.min_eq_left h.pos_le]
  rw [Lexer.tokens, hrun, lexemes_append, place_append, ← htokens, hlen, place_add, hmode,
    Lexer.tokens, String.toList_ofList]

end Lexer

/-- **A line can be read on from any position.** By positions or on what is left, from a position
and a mode the lexer finds what it finds from the start of the text that is left there, and every
column is larger by the position. Where it stands in statement text, the rest of the line is
classified like a line of its own. -/
theorem lexing_restarts_anywhere (config : Config) (line : String) :
    (∀ pos mode, pos ≤ line.length →
      (mode = .tagOpen → Lexer.startsTag line.toList pos = true) →
      ∃ rest : Lexer.Stage,
        Lexer.readFrom? config (line.toList.drop pos) mode 0 = some rest ∧
        Lexer.readFrom? config line.toList mode pos = some (rest.shift pos) ∧
        Lexer.resume config (String.ofList (line.toList.drop pos)) 0 mode = rest ∧
        Lexer.resume config line pos mode = rest.shift pos) ∧
    ∀ n k lineno lineno', Lexer.Reached config line.toList n k → k.mode = .statement →
      ∃ rest, classifyLine config (String.ofList (line.toList.drop k.pos)) lineno = .ok rest ∧
        classifyLine config line lineno' = .ok (k.tokens ++ rest.map (Token.shift k.pos)) := by
  refine ⟨fun pos mode hpos htag => ?_, fun n k lineno lineno' hk hmode => ?_⟩
  · have h : Lexer.Left line.toList pos (line.toList.drop pos) :=
      ⟨by rwa [String.length_toList], rfl⟩
    have hcut : Lexer.Left (line.toList.drop pos) 0 (line.toList.drop pos) := ⟨Nat.zero_le _, rfl⟩
    have hstart : mode = .tagOpen → Lexer.atTagStart (line.toList.drop pos) = true := by
      rwa [← h.startsTag_eq]
    refine ⟨Lexer.stageOf 0 mode (Lexer.run config mode (line.toList.drop pos)), ?_, ?_, ?_, ?_⟩
    · exact Lexer.readFrom?_eq hcut hstart
    · rw [Lexer.readFrom?_eq h hstart, Lexer.stageOf_eq_shift]
    · rw [Lexer.resume, String.toList_ofList, List.drop_zero]
      rfl
    · exact Lexer.stageOf_eq_shift pos mode _
  · refine ⟨_, classifyLine_eq config _ lineno, ?_⟩
    rw [classifyLine_eq, hk.onTrack.tokens_append hmode]

/-- A line is read on at the start of its tag, and behind the blanks in front of it. -/
theorem lexing_restarts_at_tag :
    (∃ rest : Lexer.Stage,
      Lexer.readFrom? .default "<b".toList .tagOpen 0 = some rest ∧
      Lexer.readFrom? .default "  <b".toList .tagOpen 2 = some (rest.shift 2) ∧
      Lexer.resume .default "<b" 0 .tagOpen = rest ∧
      Lexer.resume .default "  <b" 2 .tagOpen = rest.shift 2) ∧
    ∃ rest, classifyLine .default "<b" none = .ok rest ∧
      classifyLine .default "  <b" none = .ok (⟨"  ", .whitespace, 0⟩ :: rest.map (Token.shift 2)) := by
  have hstep : Lexer.Cursor.start.next? .default "  <b".toList =
      some ⟨.statement, 2, [⟨"  ", .whitespace, 0⟩]⟩ := rfl
  have hreached : Lexer.Reached .default "  <b".toList 1 ⟨.statement, 2, [⟨"  ", .whitespace, 0⟩]⟩ :=
    .next .start hstep
  have hdrop : "  <b".toList.drop 2 = "<b".toList := rfl
  have htag := (lexing_restarts_anywhere .default "  <b").1 2 .tagOpen (by decide) fun _ => by decide
  have hrest := (lexing_restarts_anywhere .default "  <b").2 1 _ none none hreached rfl
  rw [hdrop, String.ofList_toList] at htag hrest
  exact ⟨htag, hrest⟩

end TagHighlight
