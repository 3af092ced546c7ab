import Mathlib.Data.List.Basic
import TagHighlight.Proofs.Report
import TagHighlight.Proofs.Token.Tiling

/-!
# The first defect of a partition

The check walks along the line and stops at the first thing that is wrong. What it has passed by then
is a prefix of the tokens that partitions the front of the line, and no longer prefix does that
(`prefix_of_partitionsFront`): a token that is empty, misplaced or other than the line at its place
tiles nothing of the line behind the ones before it (`Defect.IsOf.not_tiles`). So the column that is
told is the length of the longest prefix of the tokens that is in order, and the defect is one of the
token behind that prefix, or of the end of the tokens.

It is told as a broken partition when all integers of the message can be written. Columns of tokens
and the number of the line are given from outside and can be of any size; a column of too many digits
is told as another failure.
-/

namespace TagHighlight

/-- What is wrong with the next token, or with there being none, at the column where the stretch `rest`
of a line begins. -/
inductive Defect.IsOf (col : Nat) (rest : List Char) : Option Token → Defect → Prop
  | emptyToken {t : Token} (hempty : t.text = "") : IsOf col rest (some t) (.emptyToken t.category)
  | misplaced {t : Token} (hne : t.text ≠ "") (hcol : t.col ≠ col) :
    IsOf col rest (some t) (.misplaced t.category t.col col)
  | mismatch {t : Token} (hne : t.text ≠ "") (hcol : t.col = col) (hrest : ¬t.text.toList <+: rest) :
    IsOf col rest (some t) (.mismatch t.category t.text)
  | uncovered (hrest : rest ≠ []) : IsOf col rest none (.uncovered col (col + rest.length))

/-- The tokens partition the front of the line that is as long as they are. -/
def PartitionsFront (line : String) (ts : List Token) : Prop :=
  Tiles 0 (line.toList.take (textLength ts)) ts

theorem Tiles.length_eq {col : Nat} {rest : List Char} {ts : List Token} (h : Tiles col rest ts) :
    rest.length = textLength ts := by
  induction ts generalizing col rest with
  | nil => rw [tiles_nil.1 h, List.length_nil, textLength]
  | cons t ts ih =>
    obtain ⟨_, _, after, rfl, hts⟩ := tiles_cons.1 h
    rw [List.length_append, ih hts, textLength, String.length_toList]

theorem tiles_append {col : Nat} {rest : List Char} {ts us : List Token} :
    Tiles col rest (ts ++ us) ↔
      ∃ text behind, rest = text ++ behind ∧ Tiles col text ts ∧
        Tiles (col + textLength ts) behind us := by
  induction ts generalizing col rest with
  | nil =>
    constructor
    · intro h
      exact ⟨[], rest, rfl, tiles_nil.2 rfl, h⟩
    · rintro ⟨text, behind, rfl, hnil, hus⟩
      rw [tiles_nil.1 hnil]
      exact hus
  | cons t ts ih =>
    rw [List.cons_append, tiles_cons, textLength, ← Nat.add_assoc]
    constructor
    · rintro ⟨hne, hcol, after, rfl, h⟩
      obtain ⟨text, behind, rfl, hts, hus⟩ := ih.1 h
      exact ⟨t.text.toList ++ text, behind, by rw [List.append_assoc],
        tiles_cons.2 ⟨hne, hcol, text, rfl, hts⟩, hus⟩
    · rintro ⟨text, behind, rfl, h, hus⟩
      obtain ⟨hne, hcol, after, rfl, hts⟩ := tiles_cons.1 h
      exact ⟨hne, hcol, after ++ behind, List.append_assoc .., ih.2 ⟨after, behind, rfl, hts, hus⟩⟩

/-- The check stops behind tokens that tile what it has passed, at what is wrong there. -/
theorem of_firstDefect_eq_some {col stop : Nat} {rest : List Char} {ts : List Token} {d : Defect}
    (h : firstDefect col rest ts = some (d, stop)) :
    ∃ before after text behind, ts = before ++ after ∧ rest = text ++ behind ∧
      Tiles col text before ∧ stop = col + textLength before ∧ d.IsOf stop behind after.head? := by
  induction ts generalizing col rest with
  | nil =>
    rw [firstDefect] at h
    split at h
    · cases h
    · rename_i hrest
      cases h
      exact ⟨[], [], [], rest, rfl, rfl, tiles_nil.2 rfl, rfl,
        .uncovered fun hnil => hrest (List.isEmpty_iff.2 hnil)⟩
  | cons t ts ih =>
    have hstop (e : Defect) (hd : e.IsOf col rest (some t)) :
        ∃ before after text behind, t :: ts = before ++ after ∧ rest = text ++ behind ∧
          Tiles col text before ∧ col = col + textLength before ∧ e.IsOf col behind after.head? :=
      ⟨[], t :: ts, [], rest, rfl, rfl, tiles_nil.2 rfl, rfl, hd⟩
    rw [firstDefect] at h
    split at h
    · rename_i hempty
      cases h
      exact hstop _ (.emptyToken (String.toList_eq_nil_iff.1 (List.isEmpty_iff.1 hempty)))
    rename_i hempty
    have hne : t.text ≠ "" := by
      rwa [List.isEmpty_iff, String.toList_eq_nil_iff] at hempty
    split at h
    · rename_i hcol
      cases h
      exact hstop _ (.misplaced hne hcol)
    rename_i hcol
    rw [ne_eq, Classical.not_not] at hcol
    split at h
    · -- the token is in order, and the check goes on behind it
      rename_i hpre
      obtain ⟨others, rfl⟩ := List.isPrefixOf_iff_prefix.1 hpre
      rw [List.drop_left] at h
      obtain ⟨before, after, text, behind, rfl, rfl, hbefore, rfl, hd⟩ := ih h
      refine ⟨t :: before, after, t.text.toList ++ text, behind, rfl, (List.append_assoc ..).symm,
        tiles_cons.2 ⟨hne, hcol, text, rfl, ?_⟩, ?_, hd⟩
      · rwa [String.length_toList] at hbefore
      · rw [textLength, String.length_toList, Nat.add_assoc]
    · rename_i hpre
      cases h
      exact hstop _ (.mismatch hne hcol fun hp => hpre (List.isPrefixOf_iff_prefix.2 hp))

theorem Defect.IsOf.not_tiles {col : Nat} {rest front : List Char} {t : Token} {ts : List Token}
    {d : Defect} (h : d.IsOf col rest (some t)) (hfront : front <+: rest) :
    ¬Tiles col front (t :: ts) := by
  intro htiles
  obtain ⟨hne, hcol, after, rfl, _⟩ := tiles_cons.1 htiles
  cases h with
  | emptyToken hempty => exact hne hempty
  | misplaced _ hmisplaced => exact hmisplaced hcol
  | mismatch _ _ hrest => exact hrest ((List.prefix_append _ _).trans hfront)

/-- Behind tokens that partition the front of a line, a defect ends the longest prefix that does. -/
theorem prefix_of_partitionsFront {line : String} {before after front : List Token} {d : Defect}
    {text behind : List Char} (hline : line.toList = text ++ behind) (hbefore : Tiles 0 text before)
    (hd : d.IsOf (textLength before) behind after.head?) (hbegins : front <+: before ++ after)
    (hfront : PartitionsFront line front) : front <+: before := by
  rcases List.prefix_or_prefix_of_prefix hbegins (List.prefix_append before after) with h | h
  · exact h
  obtain ⟨more, rfl⟩ := h
  cases more with
  | nil => exact (List.append_nil before).symm ▸ List.prefix_refl before
  | cons t more =>
    obtain ⟨others, rfl⟩ : ∃ others, after = t :: others := by
      obtain ⟨others, hothers⟩ := (List.prefix_append_right_inj before).1 hbegins
      exact ⟨_, hothers.symm⟩
    obtain ⟨text', behind', htake, htext', hmore⟩ := tiles_append.1 hfront
    rw [Nat.zero_add] at hmore
    have htext : text' = text := htext'.text_eq.symm.trans hbefore.text_eq
    have hbehind : behind' <+: behind := by
      have hfits : text' ++ behind' <+: text ++ behind := by
        rw [← htake, ← hline]
        exact List.take_prefix _ _
      rw [htext] at hfits
      exact (List.prefix_append_right_inj text).1 hfits
    exact absurd hmore (hd.not_tiles hbehind)

/-! ### What is told of a defect -/

/-- The integers that the message shows. -/
def PartitionError.shown (e : PartitionError) : List Int :=
  e.defect.shown ++ match e.lineno with
    | none => []
    | some line => [line, e.col]

theorem PartitionError.exists_message_iff {e : PartitionError} :
    (∃ text, e.message = .ok text) ↔ ∀ n ∈ e.shown, IsWritable n := by
  obtain ⟨defect, lineno, col⟩ := e
  rw [shown, List.forall_mem_append]
  have hdefect : (∃ text, defect.message = .ok text) ↔ ∀ n ∈ defect.shown, IsWritable n :=
    exists_showing_iff
  rw [← hdefect, message]
  cases defect.message with
  | error e => exact iff_of_false (by rintro ⟨text, h⟩; cases h) (by simp)
  | ok detail =>
    rw [and_iff_right ⟨detail, rfl⟩]
    cases lineno with
    | none => exact iff_of_true ⟨detail, rfl⟩ fun n hn => absurd hn List.not_mem_nil
    | some line =>
      dsimp only [bind, Except.bind, located]
      exact exists_showing_iff

theorem PartitionError.kind_raised_iff {e : PartitionError} :
    e.raised.kind = .partition ↔ ∀ n ∈ e.shown, IsWritable n := by
  rw [← exists_message_iff, ← exists_map_ofString_iff]
  exact Raised.kind_of_eq_iff (by decide)

theorem PartitionsFront.textLength_le {line : String} {ts : List Token}
    (h : PartitionsFront line ts) : textLength ts ≤ line.length := by
  have hlength := Tiles.length_eq h
  rw [List.length_take] at hlength
  rw [← String.length_toList]
  omega

theorem Defect.IsOf.shown_cases {line : String} {col : Nat} {t? : Option Token} {d : Defect}
    (h : d.IsOf col (line.toList.drop col) t?) (hcol : col ≤ line.length) {n : Int}
    (hn : n ∈ d.shown) : (∃ t ∈ t?, n = t.col) ∨ ∃ m : Nat, n = m ∧ m ≤ line.length := by
  cases h with
  | emptyToken | mismatch => cases hn
  | @misplaced t =>
    rcases List.mem_pair.1 hn with rfl | rfl
    · exact .inl ⟨t, rfl, rfl⟩
    · exact .inr ⟨col, rfl, hcol⟩
  | uncovered =>
    rcases List.mem_pair.1 hn with rfl | rfl
    · exact .inr ⟨col, rfl, hcol⟩
    · refine .inr ⟨_, rfl, ?_⟩
      rw [List.length_drop, String.length_toList]
      omega

theorem PartitionError.kind_of_writable {line : String} {before : List Token} {t? : Option Token}
    {d : Defect} {lineno : Option Int} (hfront : PartitionsFront line before)
    (hd : d.IsOf (textLength before) (line.toList.drop (textLength before)) t?)
    (hlength : line.length < 10 ^ digitLimit) (hlineno : ∀ n ∈ lineno, IsWritable n)
    (hcols : ∀ t ∈ t?, IsWritable t.col) :
    (PartitionError.mk d lineno (textLength before)).raised.kind = .partition := by
  have hcol := hfront.textLength_le
  have hsmall {m : Nat} (hm : m ≤ line.length) : IsWritable m :=
    isWritable_iff.2 (Nat.lt_of_le_of_lt hm hlength)
  rw [kind_raised_iff, shown, List.forall_mem_append]
  refine ⟨fun n hn => ?_, fun n hn => ?_⟩
  · rcases hd.shown_cases hcol hn with ⟨t, ht, rfl⟩ | ⟨m, rfl, hm⟩
    · exact hcols t ht
    · exact hsmall hm
  · cases lineno with
    | none => cases hn
    | some no =>
      rcases List.mem_pair.1 hn with rfl | rfl
      · exact hlineno n rfl
      · exact hsmall hcol

/-! ### The check -/

theorem exists_first_defect {line : String} {ts : List Token} (lineno : Option Int)
    (h : ¬Partitions line ts) : ∃ before after, ∃ defect : Defect, ts = before ++ after ∧
      verifyPartition line ts lineno = .error ⟨defect, lineno, textLength before⟩ ∧
      PartitionsFront line before ∧
      (∀ front, front <+: ts → PartitionsFront line front → front <+: before) ∧
      defect.IsOf (textLength before) (line.toList.drop (textLength before)) after.head? := by
  cases hcheck : firstDefect 0 line.toList ts with
  | none => exact absurd (firstDefect_eq_none_iff.1 hcheck) h
  | some found =>
    obtain ⟨defect, stop⟩ := found
    obtain ⟨before, after, text, behind, rfl, hline, hbefore, rfl, hdefect⟩ :=
      of_firstDefect_eq_some hcheck
    rw [Nat.zero_add] at hcheck hdefect
    have htake : line.toList.take (textLength before) = text := by
      rw [hline, ← hbefore.length_eq, List.take_left]
    have hdrop : line.toList.drop (textLength before) = behind := by
      rw [hline, ← hbefore.length_eq, List.drop_left]
    refine ⟨before, after, defect, rfl, by rw [verifyPartition, hcheck], ?_,
      fun front hbegins hfront => prefix_of_partitionsFront hline hbefore hdefect hbegins hfront, ?_⟩
    · rwa [PartitionsFront, htake]
    · rwa [hdrop]

/-- **The check passes exactly the partitions, and else it stops at the first defect.** It tells the
column where the longest prefix of the tokens that is in order ends, and what is wrong with the token
behind it, or that the line goes on when all tokens are in order. It tells so as a broken partition
exactly when all integers that are to be shown can be written, and that is so when those that are given
can. -/
theorem check_stops_at_first_defect (line : String) (ts : List Token) (lineno : Option Int) :
    (verifyPartition line ts lineno = .ok () ↔ Partitions line ts) ∧
      (¬Partitions line ts → ∃ before after, ∃ defect : Defect, ts = before ++ after ∧
        verifyPartition line ts lineno = .error ⟨defect, lineno, textLength before⟩ ∧
        PartitionsFront line before ∧
        (∀ front, front <+: ts → PartitionsFront line front → front <+: before) ∧
        defect.IsOf (textLength before) (line.toList.drop (textLength before)) after.head?) ∧
      ∀ e : PartitionError, verifyPartition line ts lineno = .error e →
        (e.raised.kind = .partition ↔ ∀ n ∈ e.shown, IsWritable n) ∧
        (e.raised.kind = .partition ∨ e.raised.kind = .wrongValue) ∧
        (line.length < 10 ^ digitLimit → (∀ n ∈ lineno, IsWritable n) →
          (∀ t ∈ ts, IsWritable t.col) → e.raised.kind = .partition) := by
  by_cases h : Partitions line ts
  · have hok := verifyPartition_of_partitions h lineno
    refine ⟨iff_of_true hok h, fun hnot => absurd h hnot, fun e he => ?_⟩
    rw [hok] at he
    cases he
  · obtain ⟨before, after, defect, rfl, herror, hfront, hlongest, hdefect⟩ :=
      exists_first_defect lineno h
    have hfails : verifyPartition line (before ++ after) lineno ≠ .ok () := by
      intro hok
      rw [herror] at hok
      cases hok
    refine ⟨iff_of_false hfails h,
      fun _ => ⟨before, after, defect, rfl, herror, hfront, hlongest, hdefect⟩,
      fun e he => ⟨PartitionError.kind_raised_iff, Raised.kind_of_eq_or _ _, ?_⟩⟩
    obtain rfl := Except.error.inj (herror.symm.trans he)
    intro hlength hlineno hcols
    refine PartitionError.kind_of_writable hfront hdefect hlength hlineno fun t ht => ?_
    exact hcols t (List.mem_append_right before (List.mem_of_mem_head? ht))

/-- A token whose column is an integer of 4301 digits is no partition, but it is not told as one that
is broken. -/
theorem oversized_column_is_passed_on :
    let t : Token := ⟨"x", .plain, 10 ^ digitLimit⟩
    ¬Partitions "x" [t] ∧
      ∃ e : PartitionError, verifyPartition "x" [t] none = .error e ∧
        e.raised.kind = .wrongValue := by
  intro t
  have hcol : t.col ≠ (0 : Nat) := Int.ne_of_gt (Int.pow_pos (by decide))
  have hfirst : firstDefect 0 "x".toList [t] = some (.misplaced .plain t.col 0, 0) := by
    rw [firstDefect, if_neg (by decide), if_pos hcol]
  refine ⟨fun h => hcol (tiles_cons.1 h).2.1, ⟨_, none, 0⟩, by rw [verifyPartition, hfirst], ?_⟩
  refine (Raised.kind_of_eq_or _ _).resolve_left fun hpartition => not_isWritable_pow ?_
  exact PartitionError.kind_raised_iff.1 hpartition _ List.mem_cons_self

end TagHighlight
