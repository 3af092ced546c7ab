import TagHighlight.Proofs.Lexer.Positions

/-!
# Steps stay in the line, and there are no more of them than characters

One step takes nothing: the one from statement text to the start of a tag. The step behind it takes
the bracket and, since a tag starts there, at least one more character (`two_le_length_tagOpenStep`).
So a step can be paid by the characters it takes if tag-open mode counts as one character that is
still owed (`length_rest_step`), and a run of `n` steps takes `n` characters (`length_run_add_owed`).

For a cursor that came from the start of a line this bounds the steps behind it together with those
to come (`Reached.length_run`). The step of a cursor is the step by positions
(`Cursor.OnTrack.next?_eq`), which reads the line only where it has a character.
-/

namespace TagHighlight

namespace Lexer

/-! ### What a step takes -/

theorem length_step (config : Config) (mode : Mode) (c : Char) (cs : List Char) :
    (textOf (step config mode c cs).lexemes).length + (step config mode c cs).rest.length =
      cs.length + 1 := by
  have happ := congrArg List.length (step_append config mode c cs)
  rwa [List.length_append, List.length_cons] at happ

theorem length_textOf_pos {ls : List Lexeme} (hsolid : Solid ls) (hls : ls ≠ []) :
    0 < (textOf ls).length := by
  obtain ⟨l, ls, rfl⟩ := List.exists_cons_of_ne_nil hls
  have hl := List.length_pos_iff.2 (hsolid l List.mem_cons_self)
  rw [textOf_cons, List.length_append]
  omega

theorem exists_of_atTagStart {cs : List Char} (h : atTagStart cs = true) :
    ∃ d ds, cs = '<' :: d :: ds ∧ (d = '/' ∨ isTagNameStart d = true) := by
  match cs, h with
  | [], h => cases h
  | [_], h => cases h
  | c :: d :: ds, h =>
    simp only [atTagStart, Bool.and_eq_true, Bool.or_eq_true, beq_iff_eq] at h
    obtain ⟨rfl, hd⟩ := h
    exact ⟨d, ds, rfl, hd⟩

theorem two_le_length_tagOpenStep (config : Config) {c : Char} {cs : List Char}
    (h : atTagStart (c :: cs) = true) :
    2 ≤ (textOf (tagOpenStep config c cs).lexemes).length := by
  obtain ⟨d, ds, hcs, hd⟩ := exists_of_atTagStart h
  obtain ⟨rfl, rfl⟩ := List.cons.inj hcs
  simp only [tagOpenStep, textOf_cons, textOf_lexeme?, List.length_append]
  by_cases hslash : d = '/'
  · subst hslash
    show 2 ≤ 2 + _
    omega
  · have hname := isTagNameChar_of_isTagNameStart (hd.resolve_left hslash)
    rw [openingBracket_of_ne hslash, List.takeWhile_cons_of_pos hname]
    simp only [List.length_cons]
    omega

/-- The characters that are still owed for the steps that have been made. -/
def owed (mode : Mode) : Nat := if mode = .tagOpen then 1 else 0

theorem length_rest_step (config : Config) {mode : Mode} {c : Char} {cs : List Char}
    (htag : mode = .tagOpen → atTagStart (c :: cs) = true) :
    (step config mode c cs).rest.length + 1 + owed mode ≤
      cs.length + 1 + owed (step config mode c cs).mode := by
  have hlength := length_step config mode c cs
  by_cases hmode : mode = .tagOpen
  · -- the character that is owed is the second one of the start of the tag
    subst hmode
    have htwo := two_le_length_tagOpenStep config (htag rfl)
    have howed : owed .tagOpen = 1 := rfl
    change 2 ≤ (textOf (step config .tagOpen c cs).lexemes).length at htwo
    omega
  · have howed : owed mode = 0 := if_neg hmode
    by_cases hls : (step config mode c cs).lexemes = []
    · obtain ⟨_, hnext⟩ := lexemes_step_eq_nil hls
      have hnextOwed : owed (step config mode c cs).mode = 1 := by rw [hnext]; rfl
      omega
    · have hpos := length_textOf_pos (solid_step config mode c cs) hls
      omega

/-! ### Runs -/

theorem length_run_add_owed (config : Config) {mode : Mode} {cs : List Char}
    (htag : mode = .tagOpen → atTagStart cs = true) :
    (run config mode cs).length + owed mode ≤ cs.length := by
  -- at the end of the text no tag starts, so nothing is owed there
  fun_induction run config mode cs with
  | case1 mode =>
    have hmode : mode ≠ .tagOpen := fun hmode => Bool.false_ne_true (htag hmode)
    rw [owed, if_neg hmode]
    exact Nat.le_refl 0
  | case2 mode c cs ih =>
    have hrest := length_rest_step config htag
    have hrun := ih atTagStart_rest_of_tagOpen
    rw [List.length_cons, List.length_cons]
    omega

theorem length_stages (col : Nat) (steps : List Step) :
    (stages col steps).length = steps.length := by
  induction steps generalizing col with
  | nil => rfl
  | cons s ss ih => rw [stages, List.length_cons, List.length_cons, ih]

theorem flatMap_place (col : Nat) (ls : List Lexeme) :
    (place col ls).flatMap (fun t => t.text.toList) = textOf ls := by
  induction ls generalizing col with
  | nil => rfl
  | cons l ls ih => rw [place, List.flatMap_cons, ih, textOf_cons, String.toList_ofList]

/-! ### Cursors -/

namespace Cursor

variable {config : Config} {line : List Char} {k k' : Cursor}

theorem OnTrack.next?_eq (h : k.OnTrack config line) :
    k.next? config line = (stageAt? line config k.mode k.pos).map fun g =>
      ⟨g.mode, g.stop, k.tokens ++ g.tokens⟩ := by
  have hleft : Left line k.pos (line.drop k.pos) := ⟨h.pos_le, rfl⟩
  unfold next?
  split
  · rename_i hdrop
    have hnone : (line)[k.pos]? = none := by rw [← List.head?_drop, hdrop]; rfl
    unfold stageAt?
    rw [hnone]
    rfl
  · rename_i c cs hdrop
    rw [hdrop] at hleft
    rw [hleft.stageAt?_eq]
    split
    · rfl
    · rfl

theorem OnTrack.flatMap_tokens (h : k.OnTrack config line) :
    k.tokens.flatMap (fun t => t.text.toList) = line.take k.pos := by
  obtain ⟨made, _, htext, htokens⟩ := h.split
  rw [htokens, flatMap_place, htext]

theorem OnTrack.exists_tag_start (h : k.OnTrack config line) (hmode : k.mode = .tagOpen) :
    ∃ d, (line)[k.pos]? = some '<' ∧ (line)[k.pos + 1]? = some d ∧
      (d = '/' ∨ isTagNameStart d = true) := by
  obtain ⟨d, ds, hdrop, hd⟩ := exists_of_atTagStart (h.at_tag hmode)
  have hnext : line.drop (k.pos + 1) = d :: ds := by rw [← List.drop_drop, hdrop]; rfl
  refine ⟨d, ?_, ?_, hd⟩
  · rw [← List.head?_drop, hdrop]
    rfl
  · rw [← List.head?_drop, hnext]
    rfl

/-- A step goes forward, or it is the switch to the start of a tag, behind which the next step takes
two characters. -/
inductive Advances (config : Config) (line : List Char) (k k' : Cursor) : Prop
  | forward (h : k.pos < k'.pos)
  | switch (hfrom : k.mode = .statement) (hto : k'.mode = .tagOpen) (hpos : k'.pos = k.pos)
      (htokens : k'.tokens = k.tokens)
      (hnext : ∃ k'', k'.next? config line = some k'' ∧ k.pos + 2 ≤ k''.pos)

theorem OnTrack.two_le_next (h : k.OnTrack config line) (hmode : k.mode = .tagOpen) :
    ∃ k', k.next? config line = some k' ∧ k.pos + 2 ≤ k'.pos := by
  obtain ⟨d, _, hsecond, _⟩ := h.exists_tag_start hmode
  obtain ⟨hlt, _⟩ := List.getElem?_eq_some_iff.1 hsecond
  obtain ⟨k', hk⟩ := Option.isSome_iff_exists.1 (h.next_isSome (by omega))
  refine ⟨k', hk, ?_⟩
  obtain ⟨c, cs, hdrop, rfl⟩ := next?_eq_some hk
  have htag := h.at_tag hmode
  rw [hdrop] at htag
  have htwo := two_le_length_tagOpenStep config htag
  rw [hmode]
  show k.pos + 2 ≤ k.pos + _
  exact Nat.add_le_add_left htwo _

theorem OnTrack.advances (h : k.OnTrack config line) (hk : k.next? config line = some k') :
    Advances config line k k' := by
  have h' := h.next hk
  obtain ⟨c, cs, hdrop, rfl⟩ := next?_eq_some hk
  by_cases hls : (step config k.mode c cs).lexemes = []
  · obtain ⟨hmode, hnext⟩ := lexemes_step_eq_nil hls
    have hpos : (k.after (step config k.mode c cs)).pos = k.pos := by
      rw [after, hls]
      rfl
    refine .switch hmode hnext hpos ?_ (hpos ▸ h'.two_le_next hnext)
    rw [after, hls]
    exact List.append_nil k.tokens
  · have hpos := length_textOf_pos (solid_step config k.mode c cs) hls
    apply Advances.forward
    show k.pos < k.pos + _
    omega

end Cursor

namespace Reached

variable {config : Config} {line : List Char} {n : Nat} {k : Cursor}

/-- The steps behind a cursor and those to come are the steps of the line. -/
theorem length_run (h : Reached config line n k) :
    (run config .statement line).length = n + (run config k.mode (line.drop k.pos)).length := by
  induction h with
  | start => rw [Nat.zero_add]; rfl
  | next _ hk ih =>
    obtain ⟨c, cs, hdrop, rfl⟩ := Cursor.next?_eq_some hk
    rw [ih, hdrop, Cursor.drop_after config hdrop, run, List.length_cons]
    show _ = _ + 1 + (run config (step config _ c cs).mode _).length
    omega

theorem le_length (h : Reached config line n k) : n ≤ line.length := by
  have hrun : (run config .statement line).length + owed .statement ≤ line.length :=
    length_run_add_owed config nofun
  have hsteps := h.length_run
  omega

end Reached

end Lexer

/-- **Every step of the lexer stays in the line and makes headway.** Wherever the lexer comes to, its
tokens are the text behind it, at the start of a tag the two characters that the next step looks at
are there, and a step that does not go forward is the switch to such a start. So there are no more
steps than characters. -/
theorem steps_make_headway (config : Config) (line : String) :
    (∀ n k, Lexer.Reached config line.toList n k →
      k.pos ≤ line.length ∧
      String.join (k.tokens.map Token.text) = String.ofList (line.toList.take k.pos) ∧
      (k.mode = .tagOpen → ∃ d, line.toList[k.pos]? = some '<' ∧
        line.toList[k.pos + 1]? = some d ∧ (d = '/' ∨ Lexer.isTagNameStart d = true)) ∧
      k.next? config line.toList = (Lexer.stageAt? line.toList config k.mode k.pos).map
        (fun g => ⟨g.mode, g.stop, k.tokens ++ g.tokens⟩) ∧
      (k.pos < line.length → ∃ k', k.next? config line.toList = some k' ∧
        k.Advances config line.toList k') ∧
      n ≤ line.length ∧
      (k.pos = line.length → n = (Lexer.trace config line).length)) ∧
    (Lexer.trace config line).length ≤ line.length := by
  have htrace : (Lexer.trace config line).length =
      (Lexer.run config .statement line.toList).length := Lexer.length_stages 0 _
  have hbound : (Lexer.run config .statement line.toList).length + Lexer.owed .statement ≤
      line.toList.length := Lexer.length_run_add_owed config nofun
  rw [String.length_toList] at hbound
  refine ⟨fun n k h => ?_, by omega⟩
  have hpos := h.onTrack.pos_le
  have hle := h.le_length
  rw [String.length_toList] at hpos hle
  refine ⟨hpos, ?_, h.onTrack.exists_tag_start, h.onTrack.next?_eq, fun hlt => ?_, hle, fun hend => ?_⟩
  · rw [← String.toList_inj, String.toList_join, List.flatMap_map, String.toList_ofList]
    exact h.onTrack.flatMap_tokens
  · rw [← String.length_toList] at hlt
    obtain ⟨k', hk⟩ := Option.isSome_iff_exists.1 (h.next_isSome hlt)
    exact ⟨k', hk, h.onTrack.advances hk⟩
  · have hrun := h.length_run
    rw [hend, ← String.length_toList, List.drop_length, Lexer.run, List.length_nil] at hrun
    omega

/-- In front of a tag the first step takes nothing; the characters that the second one looks at are
there, and it goes forward. -/
theorem steps_make_headway_at_tag :
    let k : Lexer.Cursor := ⟨.tagOpen, 0, []⟩
    Lexer.Reached .default "<b".toList 1 k ∧ 0 < "<b".length ∧
      (∃ d, "<b".toList[0]? = some '<' ∧ "<b".toList[0 + 1]? = some d ∧
        (d = '/' ∨ Lexer.isTagNameStart d = true)) ∧
      ∃ k', k.next? .default "<b".toList = some k' ∧ k.Advances .default "<b".toList k' := by
  intro k
  have hk : Lexer.Reached .default "<b".toList 1 k := .next .start rfl
  obtain ⟨_, _, htag, _, hnext, _⟩ := (steps_make_headway .default "<b").1 1 k hk
  exact ⟨hk, by decide, htag rfl, hnext (by decide)⟩

end TagHighlight
