import TagHighlight.Text.Quoted

/-!
# Quoted and braced text

Inside a tag a quoted text ends at the next quote of its kind; there are no escapes. A braced text
ends at the brace that closes its first one. Braces inside quoted texts do not count there, and a
quote that never recurs is an ordinary character. A braced text whose brace is never closed reaches
the end of the line.
-/

namespace TagHighlight.Lexer

open TagHighlight.Text (isQuote)

/-- The text through the next `quote`, and what follows it, if the quote recurs. -/
def throughQuote (quote : Char) : List Char → Option (List Char × List Char)
  | [] => none
  | c :: cs =>
    if c = quote then some ([c], cs)
    else (throughQuote quote cs).map fun (inside, rest) => (c :: inside, rest)

def consFirst (c : Char) (parts : List Char × List Char) : List Char × List Char :=
  (c :: parts.1, parts.2)

/-- The text through the brace that brings the depth to zero, and what follows it; `within` is the
quote whose text is being read. -/
def throughBrace (depth : Int) (within : Option Char) : List Char → List Char × List Char
  | [] => ([], [])
  | c :: cs =>
    match within with
    | some quote =>
      consFirst c (throughBrace depth (if c = quote then none else some quote) cs)
    | none =>
      if c = '\x7b' then consFirst c (throughBrace (depth + 1) none cs)
      else if c = '\x7d' then
        if depth = 1 then ([c], cs) else consFirst c (throughBrace (depth - 1) none cs)
      else if isQuote c && cs.contains c then consFirst c (throughBrace depth (some c) cs)
      else consFirst c (throughBrace depth none cs)

def braced (cs : List Char) : List Char × List Char := throughBrace 0 none cs

/-- The end of the quoted text that begins with `quote`, counted from the quote, if it ends. -/
def quotedLength? (quote : Char) (cs : List Char) : Option Nat :=
  (throughQuote quote cs).map fun parts => parts.1.length + 1

theorem throughQuote_append {quote : Char} {cs inside rest : List Char}
    (h : throughQuote quote cs = some (inside, rest)) : inside ++ rest = cs := by
  induction cs generalizing inside with
  | nil => simp [throughQuote] at h
  | cons c cs ih =>
    unfold throughQuote at h
    split at h
    · simp only [Option.some.injEq, Prod.mk.injEq] at h
      obtain ⟨rfl, rfl⟩ := h
      rfl
    · obtain ⟨⟨i, r⟩, hi, he⟩ := Option.map_eq_some_iff.1 h
      simp only [Prod.mk.injEq] at he
      obtain ⟨rfl, rfl⟩ := he
      rw [List.cons_append, ih hi]

theorem throughBrace_append (depth : Int) (within : Option Char) (cs : List Char) :
    (throughBrace depth within cs).1 ++ (throughBrace depth within cs).2 = cs := by
  fun_induction throughBrace depth within cs <;> simp_all [consFirst]

end TagHighlight.Lexer
