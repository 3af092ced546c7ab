import TagHighlight.Lexer.Run

/-!
# The lexer as a cursor in a line

Steps are given what is left of a line. Seen from outside, the lexer is a cursor: a mode, a
position, and the tokens behind it. A step looks at the character at its position, and at the start of a tag
also at the one behind that, without asking whether they are there; all other characters are looked
at only after such a test. `Cursor.next?` has no answer when one of them is missing.

The cursors that are reached from the start of a line satisfy `Cursor.OnTrack`: what has been read
and what will be read are together the run over the whole line, and in tag-open mode a tag starts at
the position. So a step is missing only at the end (`Reached.next_isSome`), and since the weight
falls with every step the end is reached, with the tokens of the line (`exists_reached_end`).
-/

namespace TagHighlight.Lexer

/-! ### Runs and places -/

theorem lexemes_cons (s : Step) (ss : List Step) :
    lexemes (s :: ss) = s.lexemes ++ lexemes ss := rfl

theorem lexemes_singleton (s : Step) : lexemes [s] = s.lexemes := List.append_nil _

theorem lexemes_append (ss ts : List Step) : lexemes (ss ++ ts) = lexemes ss ++ lexemes ts :=
  List.flatMap_append

theorem finalMode_cons (mode : Mode) (s : Step) (ss : List Step) :
    finalMode mode (s :: ss) = finalMode s.mode ss := by
  cases ss <;> simp [finalMode, List.getLast?_cons]

theorem textOf_lexemes_run (config : Config) (mode : Mode) (cs : List Char) :
    textOf (lexemes (run config mode cs)) = cs := by
  fun_induction run config mode cs with
  | case1 mode => rfl
  | case2 mode c cs ih => rw [lexemes_cons, textOf_append, ih, step_append]

theorem solid_lexemes_run (config : Config) (mode : Mode) (cs : List Char) :
    Solid (lexemes (run config mode cs)) := by
  fun_induction run config mode cs with
  | case1 mode => exact solid_nil
  | case2 mode c cs ih =>
    intro l hl
    rcases List.mem_append.1 hl with hl | hl
    · exact solid_step config mode c cs l hl
    · exact ih l hl

theorem place_append (col : Nat) (ls ms : List Lexeme) :
    place col (ls ++ ms) = place col ls ++ place (col + (textOf ls).length) ms := by
  induction ls generalizing col with
  | nil => rfl
  | cons l ls ih =>
    rw [List.cons_append, place, place, ih, textOf_cons, List.length_append, Nat.add_assoc]
    rfl

theorem place_add (col n : Nat) (ls : List Lexeme) :
    place (col + n) ls = (place col ls).map (Token.shift n) := by
  induction ls generalizing col with
  | nil => rfl
  | cons l ls ih =>
    rw [place, place, List.map_cons, ← ih, Nat.add_right_comm]
    rfl

/-- Tag-open mode is entered only where a tag starts, and nothing is read on the way. -/
theorem step_to_tagOpen {config : Config} {mode : Mode} {c : Char} {cs : List Char}
    (h : (step config mode c cs).mode = .tagOpen) :
    atTagStart (c :: cs) = true ∧ (step config mode c cs).rest = c :: cs := by
  cases mode with
  | statement =>
    simp only [step, statementStep] at h ⊢
    split at h
    · cases h
    · split at h
      · rename_i hblank htag
        rw [if_neg hblank, if_pos htag]
        exact ⟨htag, rfl⟩
      · split at h <;> cases h
  | tagOpen => cases h
  | attributes =>
    simp only [step, attributesStep] at h
    split at h
    · cases h
    · split at h
      · cases h
      · split at h <;> cases h

theorem atTagStart_rest_of_tagOpen {config : Config} {mode : Mode} {c : Char} {cs : List Char}
    (h : (step config mode c cs).mode = .tagOpen) :
    atTagStart (step config mode c cs).rest = true := by
  obtain ⟨hstart, hrest⟩ := step_to_tagOpen h
  rwa [hrest]

theorem ne_nil_of_atTagStart {c : Char} {cs : List Char} (h : atTagStart (c :: cs) = true) :
    cs ≠ [] := by
  rintro rfl
  cases h

/-! ### Cursors -/

/-- A lexer on its way through a line. -/
structure Cursor where
  mode : Mode
  /-- The number of characters that have been read. -/
  pos : Nat
  tokens : List Token

namespace Cursor

def start : Cursor := ⟨.statement, 0, []⟩

def after (k : Cursor) (s : Step) : Cursor :=
  ⟨s.mode, k.pos + (textOf s.lexemes).length, k.tokens ++ place k.pos s.lexemes⟩

/-- The next step, if the characters that it looks at without a test are there. -/
def next? (config : Config) (line : List Char) (k : Cursor) : Option Cursor :=
  match line.drop k.pos with
  | [] => none
  | c :: cs =>
    if k.mode = .tagOpen ∧ cs = [] then none else some (k.after (step config k.mode c cs))

theorem next?_eq_some {config : Config} {line : List Char} {k k' : Cursor}
    (h : k.next? config line = some k') :
    ∃ c cs, line.drop k.pos = c :: cs ∧ k' = k.after (step config k.mode c cs) := by
  unfold next? at h
  split at h
  · cases h
  · rename_i c cs hdrop
    split at h
    · cases h
    · exact ⟨c, cs, hdrop, (Option.some.inj h).symm⟩

theorem drop_after (config : Config) {line cs : List Char} {k : Cursor} {c : Char}
    (h : line.drop k.pos = c :: cs) :
    line.drop (k.after (step config k.mode c cs)).pos = (step config k.mode c cs).rest := by
  change line.drop (k.pos + _) = _
  rw [← List.drop_drop, h, ← step_append config k.mode c cs, List.drop_left]

/-- What holds of a cursor that came from the start of a line. -/
structure OnTrack (config : Config) (line : List Char) (k : Cursor) : Prop where
  pos_le : k.pos ≤ line.length
  /-- The steps that have been made and those to come are the run over the line. -/
  split : ∃ made, run config .statement line = made ++ run config k.mode (line.drop k.pos) ∧
    textOf (lexemes made) = line.take k.pos ∧ k.tokens = place 0 (lexemes made)
  /-- In tag-open mode a tag starts here. -/
  at_tag : k.mode = .tagOpen → atTagStart (line.drop k.pos) = true

theorem onTrack_start (config : Config) (line : List Char) : start.OnTrack config line where
  pos_le := Nat.zero_le _
  split := ⟨[], rfl, rfl, rfl⟩
  at_tag h := by cases h

theorem OnTrack.next {config : Config} {line : List Char} {k k' : Cursor}
    (h : k.OnTrack config line) (hk : k.next? config line = some k') : k'.OnTrack config line := by
  obtain ⟨c, cs, hdrop, rfl⟩ := next?_eq_some hk
  obtain ⟨made, hrun, htext, htokens⟩ := h.split
  have hafter := drop_after config hdrop
  have happ := step_append config k.mode c cs
  have hlen : k.pos + (c :: cs).length = line.length := by
    rw [← hdrop, List.length_drop]
    have := h.pos_le
    omega
  have hmade : textOf (lexemes made) ++ textOf (step config k.mode c cs).lexemes =
      line.take (k.after (step config k.mode c cs)).pos := by
    have htake : (c :: cs).take (textOf (step config k.mode c cs).lexemes).length =
        textOf (step config k.mode c cs).lexemes := by
      conv => lhs; arg 2; rw [← happ]
      rw [List.take_left]
    change _ = line.take (k.pos + _)
    rw [List.take_add, htext, hdrop, htake]
  have hpos : (textOf (lexemes made)).length = k.pos := by
    rw [htext, List.length_take, Nat.min_eq_left h.pos_le]
  refine ⟨?_, ⟨made ++ [step config k.mode c cs], ?_, ?_, ?_⟩, fun hmode => ?_⟩
  · have := congrArg List.length happ
    rw [List.length_append] at this
    change k.pos + (textOf (step config k.mode c cs).lexemes).length ≤ line.length
    omega
  · rw [hrun, hdrop, hafter, run, List.append_assoc]
    rfl
  · rw [lexemes_append, textOf_append, lexemes_singleton, hmade]
  · rw [lexemes_append, place_append, lexemes_singleton, hpos, Nat.zero_add, ← htokens]
    rfl
  · obtain ⟨htag, hrest⟩ := step_to_tagOpen hmode
    rw [hafter, hrest]
    exact htag

theorem OnTrack.next_isSome {config : Config} {line : List Char} {k : Cursor}
    (h : k.OnTrack config line) (hk : k.pos < line.length) :
    (k.next? config line).isSome = true := by
  have hne : line.drop k.pos ≠ [] := fun hnil => Nat.not_le_of_lt hk (List.drop_eq_nil_iff.1 hnil)
  obtain ⟨c, cs, hdrop⟩ := List.exists_cons_of_ne_nil hne
  have hlook : ¬(k.mode = .tagOpen ∧ cs = []) := by
    rintro ⟨hmode, hcs⟩
    have htag := h.at_tag hmode
    rw [hdrop] at htag
    exact ne_nil_of_atTagStart htag hcs
  rw [next?, hdrop]
  simp only [if_neg hlook, Option.isSome_some]

theorem OnTrack.tokens_eq {config : Config} {line : String} {k : Cursor}
    (h : k.OnTrack config line.toList) (hk : k.pos = line.length) :
    k.tokens = Lexer.tokens config line := by
  obtain ⟨made, hrun, _, htokens⟩ := h.split
  rw [hk, ← String.length_toList, List.drop_length, run, List.append_nil] at hrun
  rw [Lexer.tokens, hrun, htokens]

end Cursor

/-! ### Reached cursors -/

/-- The cursors that are reached from the start of a line, with the number of steps. -/
inductive Reached (config : Config) (line : List Char) : Nat → Cursor → Prop
  | start : Reached config line 0 Cursor.start
  | next {n : Nat} {k k' : Cursor} (h : Reached config line n k)
      (hk : k.next? config line = some k') : Reached config line (n + 1) k'

namespace Reached

variable {config : Config} {n : Nat} {k : Cursor}

theorem onTrack {line : List Char} (h : Reached config line n k) : k.OnTrack config line := by
  induction h with
  | start => exact Cursor.onTrack_start config line
  | next _ hk ih => exact ih.next hk

theorem next_isSome {line : List Char} (h : Reached config line n k) (hk : k.pos < line.length) :
    (k.next? config line).isSome = true :=
  h.onTrack.next_isSome hk

theorem exists_end {line : List Char} (h : Reached config line n k) :
    ∃ m last, Reached config line m last ∧ last.pos = line.length := by
  -- the weight of what is left falls with every step
  induction hw : weight k.mode (line.drop k.pos) using Nat.strongRecOn generalizing n k with
  | ind w ih =>
    by_cases hend : k.pos < line.length
    · obtain ⟨k', hk⟩ := Option.isSome_iff_exists.1 (h.next_isSome hend)
      refine ih _ ?_ (h.next hk) rfl
      obtain ⟨c, cs, hdrop, rfl⟩ := Cursor.next?_eq_some hk
      rw [Cursor.drop_after config hdrop, ← hw, hdrop]
      exact weight_step_lt config k.mode c cs
    · exact ⟨n, k, h, Nat.le_antisymm h.onTrack.pos_le (Nat.le_of_not_lt hend)⟩

end Reached

theorem exists_reached_end (config : Config) (line : String) :
    ∃ n mode, Reached config line.toList n ⟨mode, line.length, tokens config line⟩ := by
  have hstart : Reached config line.toList 0 Cursor.start := .start
  obtain ⟨n, last, hlast, hpos⟩ := hstart.exists_end
  rw [String.length_toList] at hpos
  have htokens := hlast.onTrack.tokens_eq hpos
  obtain ⟨mode, pos, ts⟩ := last
  exact ⟨n, mode, hpos ▸ htokens ▸ hlast⟩

end TagHighlight.Lexer
