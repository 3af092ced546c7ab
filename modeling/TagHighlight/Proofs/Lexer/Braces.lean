import Mathlib.Data.List.Basic
import TagHighlight.Proofs.Lexer.Positions

/-!
# Where a braced text ends

`marked` tells for each character of a text whether a quoted text covers it: from left to right, a
quote that is not covered itself covers all through the next one of its kind, and one that does not
recur covers nothing. A braced text ends behind the first brace that is not covered and with which as
many braces have been closed as opened, or else with the line.

The search keeps a depth, `BracesEnd depth ms n` says the same by counting: when `depth` braces are
open in front of the marked characters `ms`, they are closed behind `n` of them, or never. What one
character does to the depth is the only thing that a step of the search has to be asked
(`BracesEnd.cons`).
-/

namespace TagHighlight

namespace Lexer

open TagHighlight.Text (isQuote)

/-! ### Covered characters -/

/-- Each character with whether a quoted text covers it. -/
def marked : List Char → List (Char × Bool)
  | [] => []
  | c :: cs =>
    if isQuote c ∧ c ∈ cs then
      ((c :: cs).take (cs.idxOf c + 2)).map (·, true) ++ marked (cs.drop (cs.idxOf c + 1))
    else (c, false) :: marked cs
termination_by cs => cs.length

theorem map_fst_marked (cs : List Char) : (marked cs).map Prod.fst = cs := by
  fun_induction marked cs with
  | case1 => rfl
  | case2 c cs h ih =>
    rw [List.map_append, ih, List.map_map, show Prod.fst ∘ (fun c : Char => (c, true)) = id from rfl,
      List.map_id]
    exact List.take_append_drop (cs.idxOf c + 2) (c :: cs)
  | case3 c cs h ih => rw [List.map_cons, ih]

theorem length_marked (cs : List Char) : (marked cs).length = cs.length := by
  rw [← List.length_map (f := Prod.fst), map_fst_marked]

theorem marked_other {c : Char} {cs : List Char} (h : ¬(isQuote c = true ∧ c ∈ cs)) :
    marked (c :: cs) = (c, false) :: marked cs := by
  rw [marked, if_neg h]

theorem marked_quoted {quote : Char} {inside : List Char} (hquote : isQuote quote = true)
    (h : quote ∉ inside) (rest : List Char) :
    marked (quote :: (inside ++ quote :: rest)) =
      (quote :: (inside ++ [quote])).map (·, true) ++ marked rest := by
  have hidx : (inside ++ quote :: rest).idxOf quote = inside.length := by
    rw [List.idxOf_append_of_notMem h, List.idxOf_cons_self, Nat.add_zero]
  have hsplit : inside ++ quote :: rest = (inside ++ [quote]) ++ rest := by simp
  have hlen : inside.length + 1 = (inside ++ [quote]).length := by simp
  rw [marked, if_pos ⟨hquote, by simp⟩, hidx, List.take_succ_cons, hsplit, hlen, List.take_left,
    List.drop_left]

/-- The braces that are opened, covered ones apart. -/
def opened (ms : List (Char × Bool)) : Nat := ms.count ('\x7b', false)

/-- The braces that are closed, covered ones apart. -/
def closed (ms : List (Char × Bool)) : Nat := ms.count ('\x7d', false)

theorem opened_cons (m : Char × Bool) (ms : List (Char × Bool)) :
    opened (m :: ms) = opened [m] + opened ms := by
  simp [opened, List.count_cons, Nat.add_comm]

theorem closed_cons (m : Char × Bool) (ms : List (Char × Bool)) :
    closed (m :: ms) = closed [m] + closed ms := by
  simp [closed, List.count_cons, Nat.add_comm]

/-! ### The end by counting -/

/-- With so many braces open in front of them, the marked characters close the last of them with the
`n`-th character, or `n` is their number and some stay open. Before that some are open throughout. -/
structure BracesEnd (depth : Nat) (ms : List (Char × Bool)) (n : Nat) : Prop where
  before : ∀ k, 0 < k → k < n → closed (ms.take k) < depth + opened (ms.take k)
  stop : (∃ i, n = i + 1 ∧ ms[i]? = some ('\x7d', false) ∧
      closed (ms.take n) = depth + opened (ms.take n)) ∨
    (n = ms.length ∧ closed ms < depth + opened ms)

namespace BracesEnd

variable {depth depth' n : Nat} {ms : List (Char × Bool)}

theorem nil (h : 0 < depth) : BracesEnd depth [] 0 where
  before k hk hlt := by omega
  stop := .inr ⟨rfl, by simpa [opened, closed] using h⟩

theorem last (ms : List (Char × Bool)) : BracesEnd 1 (('\x7d', false) :: ms) 1 where
  before k hk hlt := by omega
  stop := .inl ⟨0, rfl, rfl, by simp [opened, closed]⟩

theorem cons {m : Char × Bool} (h : BracesEnd depth' ms n) (hpos : 0 < depth')
    (hm : depth + opened [m] = depth' + closed [m]) : BracesEnd depth (m :: ms) (n + 1) where
  before k hk hlt := by
    obtain ⟨k, rfl⟩ := Nat.exists_eq_succ_of_ne_zero (Nat.pos_iff_ne_zero.1 hk)
    rw [List.take_succ_cons, opened_cons, closed_cons]
    by_cases hzero : k = 0
    · subst hzero
      simp only [List.take_zero, opened, closed, List.count_nil] at hm ⊢
      omega
    · have hbefore := h.before k (by omega) (by omega)
      omega
  stop := by
    rw [List.take_succ_cons, opened_cons, closed_cons, opened_cons m ms, closed_cons m ms]
    rcases h.stop with ⟨i, hi, hget, hcount⟩ | ⟨hlen, hcount⟩
    · exact .inl ⟨n, rfl, by rw [hi]; exact hget, by omega⟩
    · exact .inr ⟨by simp [hlen], by omega⟩

theorem covered (h : BracesEnd depth ms n) (hpos : 0 < depth) (cs : List Char) :
    BracesEnd depth (cs.map (·, true) ++ ms) (cs.length + n) := by
  induction cs with
  | nil => simpa using h
  | cons c cs ih =>
    have hnone : opened [(c, true)] = 0 ∧ closed [(c, true)] = 0 := by simp [opened, closed]
    rw [List.length_cons, Nat.add_right_comm]
    apply ih.cons hpos
    show depth + opened [(c, true)] = depth + closed [(c, true)]
    omega

end BracesEnd

/-! ### The search -/

theorem throughBrace_other {c : Char} {cs : List Char} (hopen : c ≠ '\x7b') (hclose : c ≠ '\x7d')
    (h : ¬(isQuote c = true ∧ c ∈ cs)) (depth : Int) :
    throughBrace depth none (c :: cs) = consFirst c (throughBrace depth none cs) := by
  rw [throughBrace, if_neg hopen, if_neg hclose, if_neg (by simpa using h)]

theorem bracesEnd_throughBrace {depth : Nat} (hpos : 0 < depth) (cs : List Char) :
    BracesEnd depth (marked cs) (throughBrace depth none cs).1.length := by
  -- by the length of the text, since a quoted text is taken at one go
  induction hlen : cs.length using Nat.strongRecOn generalizing depth cs with
  | _ len ih =>
  cases cs with
  | nil =>
    rw [marked]
    exact .nil hpos
  | cons c cs =>
    rw [List.length_cons] at hlen
    have hnext {depth : Nat} (hpos : 0 < depth) :
        BracesEnd depth (marked cs) (throughBrace depth none cs).1.length :=
      ih cs.length (by omega) hpos cs rfl
    by_cases hquoted : isQuote c = true ∧ c ∈ cs
    · obtain ⟨hquote, hmem⟩ := hquoted
      obtain ⟨inside, rest, rfl, hinside⟩ := List.eq_append_cons_of_mem hmem
      have hrest := ih rest.length (by simp at hlen; omega) hpos rest rfl
      have hcovered := hrest.covered hpos (c :: (inside ++ [c]))
      rw [throughBrace_quoted hquote hinside, marked_quoted hquote hinside]
      convert hcovered using 1
      simp
      omega
    rw [marked_other hquoted]
    by_cases hopen : c = '\x7b'
    · subst hopen
      have hmore : (depth : Int) + 1 = ((depth + 1 : Nat) : Int) := by omega
      rw [throughBrace, if_pos rfl, hmore]
      exact (hnext (Nat.succ_pos depth)).cons (Nat.succ_pos depth) rfl
    by_cases hclose : c = '\x7d'
    · subst hclose
      rw [throughBrace, if_neg hopen, if_pos rfl]
      by_cases hone : depth = 1
      · subst hone
        exact .last (marked cs)
      · have hless : (depth : Int) - 1 = ((depth - 1 : Nat) : Int) := by omega
        rw [if_neg (by omega), hless]
        apply (hnext (by omega)).cons (by omega)
        show depth + 0 = depth - 1 + 1
        omega
    · have hcounts : opened [(c, false)] = 0 ∧ closed [(c, false)] = 0 := by
        simp [opened, closed, hopen, hclose]
      rw [throughBrace_other hopen hclose hquoted]
      apply (hnext hpos).cons hpos
      omega

theorem bracesEnd_braced (cs : List Char) :
    BracesEnd 0 (marked ('\x7b' :: cs)) (braced ('\x7b' :: cs)).1.length := by
  rw [marked_other (by simp [isQuote, Text.apostrophe, Text.doubleQuote]), braced, throughBrace,
    if_pos rfl]
  apply (bracesEnd_throughBrace Nat.one_pos cs).cons Nat.one_pos
  rfl

/-- The character at a place closes the last of the braces that are open there. -/
def ClosesBraces (cs : List Char) (i : Nat) : Prop :=
  (marked cs)[i]? = some ('\x7d', false) ∧
    opened ((marked cs).take (i + 1)) = closed ((marked cs).take (i + 1))

theorem BracesEnd.first {cs : List Char} {n : Nat} (h : BracesEnd 0 (marked cs) n) :
    (∃ i, n = i + 1 ∧ ClosesBraces cs i ∧ ∀ j < i, ¬ClosesBraces cs j) ∨
      (n = cs.length ∧ ∀ i, ¬ClosesBraces cs i) := by
  rcases h.stop with ⟨i, rfl, hget, hcount⟩ | ⟨hlen, hcount⟩
  · left
    refine ⟨i, rfl, ⟨hget, by omega⟩, ?_⟩
    rintro j hj ⟨-, heq⟩
    have hbefore := h.before (j + 1) (by omega) (by omega)
    omega
  · right
    refine ⟨by rw [hlen, length_marked], ?_⟩
    rintro i ⟨hget, heq⟩
    obtain ⟨hi, -⟩ := List.getElem?_eq_some_iff.1 hget
    by_cases hlast : i + 1 = n
    · rw [hlast, hlen, List.take_length] at heq
      omega
    · have hbefore := h.before (i + 1) (by omega) (by omega)
      omega

end Lexer

open Lexer

/-- **A braced text ends with its brace.** From a brace on, the search by positions and the cut of
what is left end at one position of the line, behind the brace. That is one past the first brace that
no quoted text covers and with which as many uncovered braces have been closed as opened, and the end
of the line if there is none; before it, more have been opened than closed throughout. -/
theorem braced_text_ends_with_its_brace {line : String} {start : Nat}
    (h : line.toList[start]? = some '\x7b') :
    let rest := line.toList.drop start
    let stop := start + (braced rest).1.length
    braceEnd line.toList 0 start = stop ∧ start < stop ∧ stop ≤ line.length ∧
    ((∃ i, stop = start + i + 1 ∧ ClosesBraces rest i ∧ ∀ j < i, ¬ClosesBraces rest j) ∨
      (stop = line.length ∧ ∀ i, ¬ClosesBraces rest i)) ∧
    ∀ n, 0 < n → start + n < stop →
      closed ((marked rest).take n) < opened ((marked rest).take n) := by
  intro rest stop
  obtain ⟨hstart, hbrace⟩ := List.getElem?_eq_some_iff.1 h
  have hleft : Left line.toList start rest := ⟨by omega, rfl⟩
  have hrest : rest = '\x7b' :: line.toList.drop (start + 1) := by
    rw [← hbrace]
    exact List.drop_eq_getElem_cons hstart
  have hend : BracesEnd 0 (marked rest) (braced rest).1.length := by
    rw [hrest]
    exact bracesEnd_braced _
  have hlen : line.length = start + rest.length := by
    rw [← String.length_toList, hleft.length_eq]
  have hpos : 0 < (braced rest).1.length := by
    rw [hrest]
    exact List.length_pos_iff.2 (throughBrace_ne_nil 0 none _ _)
  have hle : (braced rest).1.length ≤ rest.length := by
    have happ := congrArg List.length (throughBrace_append 0 none rest)
    rw [List.length_append] at happ
    show (throughBrace 0 none rest).1.length ≤ rest.length
    omega
  refine ⟨hleft.braceEnd_eq 0, by omega, by omega, ?_, ?_⟩
  · rcases hend.first with ⟨i, hi, hfirst⟩ | ⟨hall, hnone⟩
    · exact .inl ⟨i, by omega, hfirst⟩
    · exact .inr ⟨by omega, hnone⟩
  · intro n hn hlt
    have hbefore := hend.before n hn (by omega)
    omega

/-- A quote within a quoted text of the other kind, braces within braces, and a quote that does not
recur because its partner is covered. -/
theorem braced_text_ends_behind_quotes :
    let line := "=\x7b\x22'\x7d\x22 \x7bx\x7d ' \x7d>"
    let rest := line.toList.drop 1
    line.toList[1]? = some '\x7b' ∧ braceEnd line.toList 0 1 = 14 ∧
      ∀ n, 0 < n → 1 + n < 14 → closed ((marked rest).take n) < opened ((marked rest).take n) := by
  intro line rest
  have hbrace : line.toList[1]? = some '\x7b' := by decide
  have hstop : 1 + (braced rest).1.length = 14 := by decide
  obtain ⟨hend, -, -, -, hbefore⟩ := braced_text_ends_with_its_brace hbrace
  exact ⟨hbrace, hend.trans hstop, fun n hn hlt => hbefore n hn (hstop.symm ▸ hlt)⟩

end TagHighlight
