import Mathlib.Data.List.Forall2
import TagHighlight.Proofs.Lexer.Partition

/-!
# Lines stand alone

Cutting a text at its line feeds and joining lines by line feeds undo each other, and every list of
texts that can be lines at all (`AreLines`) is the lines of one text. A carriage return, a form feed
or a line separator is a character like any other.

The stretches between line feeds are defined along the text. The same stretches are found by a search
that looks for the next line feed from a position on, takes what stands before it, and goes on behind
it (`stretchesFrom`). The two agree on what is left of the text at any position
(`stretchesFrom_eq`), by induction on the search with the position free.

Since a text is classified line by line, two texts with a line feed between them are classified like
each of them alone.
-/

namespace TagHighlight

namespace Text

/-! ### Stretches -/

theorem splitFeeds_eq_splitOn (cs : List Char) : splitFeeds cs = cs.splitOn '\n' := by
  induction cs with
  | nil => rfl
  | cons c cs ih =>
    rw [splitFeeds, List.splitOn_cons_eq_if_modifyHead, ih]
    by_cases hc : c = '\n'
    · rw [if_pos hc, if_pos (beq_iff_eq.2 hc)]
    · rw [if_neg hc, if_neg (mt beq_iff_eq.1 hc)]
      cases hcs : cs.splitOn '\n' with
      | nil => exact absurd hcs (List.splitOn_ne_nil _ _)
      | cons line lines => rfl

theorem feed_notMem_of_mem_splitFeeds {cs line : List Char} (h : line ∈ splitFeeds cs) :
    '\n' ∉ line := by
  induction cs generalizing line with
  | nil =>
    rw [List.mem_singleton.1 h]
    exact List.not_mem_nil
  | cons c cs ih =>
    rw [splitFeeds] at h
    split at h
    · rcases List.mem_cons.1 h with rfl | h
      · exact List.not_mem_nil
      · exact ih h
    · rename_i hc
      split at h
      · rw [List.mem_singleton.1 h, List.mem_singleton]
        exact Ne.symm hc
      · rename_i first others hcs
        rw [hcs] at ih
        rcases List.mem_cons.1 h with rfl | h
        · rw [List.mem_cons, not_or]
          exact ⟨Ne.symm hc, ih List.mem_cons_self⟩
        · exact ih (List.mem_cons_of_mem first h)

theorem length_splitFeeds (cs : List Char) : (splitFeeds cs).length = cs.count '\n' + 1 := by
  induction cs with
  | nil => rfl
  | cons c cs ih =>
    rw [splitFeeds, List.count_cons]
    split
    · rename_i hc
      rw [if_pos (beq_iff_eq.2 hc), List.length_cons, ih]
    · rename_i hc
      rw [if_neg (mt beq_iff_eq.1 hc), Nat.add_zero, ← ih]
      split
      · rename_i hcs
        rw [hcs] at ih
        cases ih
      · rename_i line lines hcs
        rw [hcs, List.length_cons, List.length_cons]

/-! ### Searching for line feeds -/

/-- The place of the first line feed from a position on, if there is one. -/
def feedFrom? (cs : List Char) (pos : Nat) : Option Nat :=
  ((cs.drop pos).idxOf? '\n').map (pos + ·)

theorem drop_of_feedFrom? {cs : List Char} {pos stop : Nat} (h : feedFrom? cs pos = some stop) :
    pos ≤ stop ∧ stop < cs.length ∧ '\n' ∉ (cs.take stop).drop pos ∧
      cs.drop pos = (cs.take stop).drop pos ++ '\n' :: cs.drop (stop + 1) := by
  obtain ⟨i, hi, rfl⟩ := Option.map_eq_some_iff.1 h
  obtain ⟨hlt, hfeed, hbefore⟩ := List.idxOf?_eq_some_iff.1 hi
  rw [List.length_drop] at hlt
  have hstretch : (cs.take (pos + i)).drop pos = (cs.drop pos).take i := by
    rw [List.drop_take, Nat.add_sub_cancel_left]
  have hrest : (cs.drop pos).drop i = '\n' :: cs.drop (pos + i + 1) := by
    rw [List.drop_eq_getElem_cons (by rwa [List.length_drop]), hfeed, List.drop_drop, Nat.add_assoc]
  refine ⟨Nat.le_add_right pos i, by omega, ?_, ?_⟩
  · rw [hstretch, List.mem_take_iff_getElem]
    rintro ⟨j, hj, hget⟩
    exact hbefore j (by omega) hget
  · rw [hstretch, ← hrest, List.take_append_drop]

theorem feed_notMem_of_feedFrom? {cs : List Char} {pos : Nat} (h : feedFrom? cs pos = none) :
    '\n' ∉ cs.drop pos :=
  List.idxOf?_eq_none_iff.1 (Option.map_eq_none_iff.1 h)

/-- The stretches from a position on, each found by a search for the next line feed. -/
def stretchesFrom (cs : List Char) (pos : Nat) : List (List Char) :=
  match h : feedFrom? cs pos with
  | none => [cs.drop pos]
  | some stop => (cs.take stop).drop pos :: stretchesFrom cs (stop + 1)
termination_by cs.length - pos
decreasing_by
  have hstop := drop_of_feedFrom? h
  omega

theorem stretchesFrom_eq (cs : List Char) (pos : Nat) :
    stretchesFrom cs pos = splitFeeds (cs.drop pos) := by
  fun_induction stretchesFrom cs pos with
  | case1 pos hnone =>
    rw [splitFeeds_eq_splitOn, List.splitOn_eq_singleton (feed_notMem_of_feedFrom? hnone)]
  | case2 pos stop hstop ih =>
    obtain ⟨-, -, hnotMem, hdrop⟩ := drop_of_feedFrom? hstop
    rw [ih, splitFeeds_eq_splitOn, splitFeeds_eq_splitOn, hdrop,
      List.splitOn_append_cons_self_of_not_mem hnotMem]

/-! ### Lines -/

/-- Texts that can be the lines of a text: there is one at least, and none holds a line feed. -/
structure AreLines (ls : List String) : Prop where
  ne_nil : ls ≠ []
  feed_notMem : ∀ line ∈ ls, '\n' ∉ line.toList

theorem areLines_lines (text : String) : AreLines (lines text) where
  ne_nil := by
    rw [lines, splitFeeds_eq_splitOn, ne_eq, List.map_eq_nil_iff]
    exact List.splitOn_ne_nil _ _
  feed_notMem line hline := by
    obtain ⟨cs, hcs, rfl⟩ := List.mem_map.1 hline
    rw [String.toList_ofList]
    exact feed_notMem_of_mem_splitFeeds hcs

theorem joinLines_lines (text : String) : joinLines (lines text) = text := by
  have hlists : String.toList ∘ String.ofList = id := funext fun _ => String.toList_ofList
  rw [joinLines, lines, ← String.toList_inj, String.toList_intercalate, List.map_map, hlists,
    List.map_id, splitFeeds_eq_splitOn]
  exact List.intercalate_splitOn '\n'

example : lines "a\r\n\n\u2028" = ["a\r", "", "\u2028"] := by decide

theorem lines_joinLines {ls : List String} (h : AreLines ls) : lines (joinLines ls) = ls := by
  have hsplit : (['\n'].intercalate (ls.map String.toList)).splitOn '\n' = ls.map String.toList := by
    refine List.splitOn_intercalate '\n' (fun cs hcs => ?_) (by simpa using h.ne_nil)
    obtain ⟨line, hline, rfl⟩ := List.mem_map.1 hcs
    exact h.feed_notMem line hline
  have htexts : String.ofList ∘ String.toList = id := funext fun _ => String.ofList_toList
  rw [lines, joinLines, String.toList_intercalate, splitFeeds_eq_splitOn]
  change ((['\n'].intercalate (ls.map String.toList)).splitOn '\n').map String.ofList = ls
  rw [hsplit, List.map_map, htexts, List.map_id]

theorem lines_of_feed_notMem {line : String} (h : '\n' ∉ line.toList) : lines line = [line] := by
  rw [lines, splitFeeds_eq_splitOn, List.splitOn_eq_singleton h, List.map_singleton,
    String.ofList_toList]

theorem length_lines (text : String) : (lines text).length = text.toList.count '\n' + 1 := by
  rw [lines, List.length_map, length_splitFeeds]

theorem lines_append_feed (a b : String) : lines (a ++ "\n" ++ b) = lines a ++ lines b := by
  have htext : (a ++ "\n" ++ b).toList = a.toList ++ '\n' :: b.toList := by
    rw [String.toList_append, String.toList_append, List.append_assoc]
    rfl
  rw [lines, lines, lines, htext, splitFeeds_eq_splitOn, List.splitOn_append_cons_self,
    List.map_append, ← splitFeeds_eq_splitOn, ← splitFeeds_eq_splitOn]

/-- The lines are what the search finds from the start of the text. -/
theorem lines_eq_stretches (text : String) :
    lines text = (stretchesFrom text.toList 0).map String.ofList := by
  rw [lines, stretchesFrom_eq, List.drop_zero]

end Text

/-! ### Classified lines -/

theorem classify_append_feed (config : Config) (a b : String) :
    ∃ as bs, classify config a = .ok as ∧ classify config b = .ok bs ∧
      classify config (a ++ "\n" ++ b) = .ok (as ++ bs) := by
  refine ⟨_, _, classify_eq config a, classify_eq config b, ?_⟩
  rw [classify_eq, Text.lines_append_feed, List.map_append]

theorem mem_line_of_mem_token {config : Config} {line : String} {t : Token} {c : Char}
    (ht : t ∈ Lexer.tokens config line) (hc : c ∈ t.text.toList) : c ∈ line.toList := by
  rw [← (Lexer.partitions_tokens config line).text_eq]
  exact List.mem_flatMap.2 ⟨t, ht, hc⟩

/-- **Lines stand alone.** Cutting and joining undo each other, so a text has one line more than it has
line feeds; two texts with a line feed between them are classified one after the other, each line
like it is alone; and no token holds a line feed. -/
theorem lines_stand_alone :
    ((∀ text, Text.joinLines (Text.lines text) = text ∧ Text.AreLines (Text.lines text)) ∧
      (∀ ls, Text.AreLines ls → Text.lines (Text.joinLines ls) = ls) ∧
      (∀ text, (Text.lines text).length = text.toList.count '\n' + 1) ∧
      ∀ text, Text.lines text = (Text.stretchesFrom text.toList 0).map String.ofList) ∧
    ∀ config : Config,
      (∀ a b, ∃ as bs, classify config a = .ok as ∧ classify config b = .ok bs ∧
        classify config (a ++ "\n" ++ b) = .ok (as ++ bs)) ∧
      ∀ text, ∃ ls, classify config text = .ok ls ∧
        List.Forall₂ (fun line ts => (∀ lineno, classifyLine config line lineno = .ok ts) ∧
          ∀ t ∈ ts, '\n' ∉ t.text.toList) (Text.lines text) ls := by
  refine ⟨⟨fun text => ⟨Text.joinLines_lines text, Text.areLines_lines text⟩,
    fun ls => Text.lines_joinLines, Text.length_lines, Text.lines_eq_stretches⟩,
    fun config => ⟨classify_append_feed config, fun text => ⟨_, classify_eq config text, ?_⟩⟩⟩
  rw [List.forall₂_map_right_iff, List.forall₂_same]
  intro line hline
  refine ⟨classifyLine_eq config line, fun t ht hfeed => ?_⟩
  exact (Text.areLines_lines text).feed_notMem line hline (mem_line_of_mem_token ht hfeed)

end TagHighlight
