import TagHighlight.Proofs.Lexer.Boundary

/-!
# Quoted and braced texts as they are written

`Closes depth cs` says what a text is that closes `depth` open braces with its last character and not
earlier: every quote outside quoted texts is paired with the next one of its kind, and braces between
paired quotes do not count. Such a text is cut off exactly, whatever follows it
(`throughBrace_append_of_closes`); the quotes in what follows play no part, since each quote of the
text has found its partner before.
-/

namespace TagHighlight.Lexer

open TagHighlight.Text (isQuote)

/-! ### Quoted texts -/

theorem throughQuote_append_cons {quote : Char} {inside : List Char} (h : quote ∉ inside)
    (rest : List Char) :
    throughQuote quote (inside ++ quote :: rest) = some (inside ++ [quote], rest) := by
  induction inside with
  | nil => simp [throughQuote]
  | cons c inside ih =>
    have hc : c ≠ quote := fun he => h (he ▸ List.mem_cons_self)
    have hin := ih fun hm => h (List.mem_cons_of_mem c hm)
    rw [List.cons_append, throughQuote, if_neg hc, hin]
    rfl

theorem throughQuote_eq_none {quote : Char} {cs : List Char} (h : quote ∉ cs) :
    throughQuote quote cs = none := by
  induction cs with
  | nil => rfl
  | cons c cs ih =>
    have hc : c ≠ quote := fun he => h (he ▸ List.mem_cons_self)
    rw [throughQuote, if_neg hc, ih fun hm => h (List.mem_cons_of_mem c hm)]
    rfl

theorem notMem_of_throughQuote_eq_none {quote : Char} {cs : List Char}
    (h : throughQuote quote cs = none) : quote ∉ cs := by
  intro hmem
  obtain ⟨inside, rest, rfl, hinside⟩ := List.eq_append_cons_of_mem hmem
  rw [throughQuote_append_cons hinside] at h
  cases h

theorem throughQuote_eq_some {quote : Char} {cs inside rest : List Char}
    (h : throughQuote quote cs = some (inside, rest)) :
    ∃ w, quote ∉ w ∧ inside = w ++ [quote] := by
  by_cases hmem : quote ∈ cs
  · obtain ⟨w, after, rfl, hw⟩ := List.eq_append_cons_of_mem hmem
    rw [throughQuote_append_cons hw] at h
    cases h
    exact ⟨w, hw, rfl⟩
  · rw [throughQuote_eq_none hmem] at h
    cases h

/-! ### Braced texts -/

/-- Inside a quoted text the depth stands still up to its closing quote. -/
theorem throughBrace_within {quote : Char} {inside : List Char} (h : quote ∉ inside) (depth : Int)
    (rest : List Char) :
    throughBrace depth (some quote) (inside ++ quote :: rest) =
      (inside ++ quote :: (throughBrace depth none rest).1, (throughBrace depth none rest).2) := by
  induction inside with
  | nil => simp [throughBrace, consFirst]
  | cons c inside ih =>
    have hc : c ≠ quote := fun he => h (he ▸ List.mem_cons_self)
    have hin := ih fun hm => h (List.mem_cons_of_mem c hm)
    simp only [List.cons_append, throughBrace, if_neg hc, hin, consFirst]

theorem throughBrace_quoted {quote : Char} {inside : List Char} (hquote : isQuote quote = true)
    (h : quote ∉ inside) (depth : Int) (rest : List Char) :
    throughBrace depth none (quote :: (inside ++ quote :: rest)) =
      (quote :: (inside ++ quote :: (throughBrace depth none rest).1),
        (throughBrace depth none rest).2) := by
  obtain ⟨hopen, hclose⟩ := ne_brace_of_isQuote hquote
  simp only [throughBrace, if_neg hopen, if_neg hclose, hquote, Bool.true_and]
  rw [if_pos (by simp), throughBrace_within h]
  rfl

/-- A text that closes a number of open braces with its last character, and not earlier. -/
inductive Closes : Nat → List Char → Prop
  | last : Closes 1 ['\x7d']
  | opening {depth : Nat} {cs : List Char} (h : Closes (depth + 1) cs) :
      Closes depth ('\x7b' :: cs)
  /-- A brace is closed, and others stay open. -/
  | closing {depth : Nat} {cs : List Char} (h : Closes (depth + 1) cs) :
      Closes (depth + 2) ('\x7d' :: cs)
  /-- A quote is paired with the next one of its kind. -/
  | quoted {depth : Nat} {quote : Char} {inside cs : List Char} (hquote : isQuote quote = true)
      (hinside : quote ∉ inside) (h : Closes depth cs) :
      Closes depth (quote :: (inside ++ quote :: cs))
  | other {depth : Nat} {c : Char} {cs : List Char} (hopen : c ≠ '\x7b') (hclose : c ≠ '\x7d')
      (hquote : isQuote c = false) (h : Closes depth cs) : Closes depth (c :: cs)

theorem throughBrace_append_of_closes {depth : Nat} {cs : List Char} (h : Closes depth cs)
    (rest : List Char) : throughBrace depth none (cs ++ rest) = (cs, rest) := by
  induction h with
  | last => simp [throughBrace]
  | @opening depth cs h ih =>
    have hmore : (depth : Int) + 1 = ((depth + 1 : Nat) : Int) := by omega
    simp only [List.cons_append, throughBrace, if_true, hmore, ih]
    rfl
  | @closing depth cs h ih =>
    have hdepth : ((depth + 2 : Nat) : Int) ≠ 1 := by omega
    have hless : ((depth + 2 : Nat) : Int) - 1 = ((depth + 1 : Nat) : Int) := by omega
    simp only [List.cons_append, throughBrace, if_neg hdepth, hless, ih]
    rfl
  | quoted hquote hinside h ih =>
    rw [List.cons_append, List.append_assoc, List.cons_append, throughBrace_quoted hquote hinside, ih]
  | other hopen hclose hquote h ih =>
    simp only [List.cons_append, throughBrace, if_neg hopen, if_neg hclose, hquote, Bool.false_and,
      Bool.false_eq_true, if_false, ih]
    rfl

end TagHighlight.Lexer
