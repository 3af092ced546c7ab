import TagHighlight.Json.Numeral
import TagHighlight.Json.QuotedText

/-!
# Symbols of a JSON text

A JSON text is a sequence of symbols (brackets, commas, colons, texts, and the values that are no
texts) with blanks between them. The sequence ends at the first place where no symbol starts, and it
holds what is wrong there: whether that counts, and as what, is decided when the symbols are read in
order, since an earlier symbol can already be out of place.
-/

namespace TagHighlight.Json

inductive Symbol
  | openBracket
  | closeBracket
  | openBrace
  | closeBrace
  | comma
  | colon
  /-- A text: a value, or the name of a member. -/
  | text (s : LooseText)
  /-- A number or a constant. -/
  | scalar (v : Json)
  | badText (f : Fault)
  /-- An integer of more digits than the limit. -/
  | oversized (digits : Nat)
  /-- No symbol starts here. -/
  | junk

/-- A symbol together with the text from its first character on. -/
structure Placed where
  symbol : Symbol
  here : List Char

/-- The character may stand between symbols. -/
def isSpace (c : Char) : Bool := c == ' ' || c == '\t' || c == '\n' || c == '\r'

def constants : List (List Char × Json) :=
  [("null".toList, null), ("true".toList, bool true), ("false".toList, bool false),
    ("NaN".toList, real .nan), ("Infinity".toList, real (.infinite false)),
    ("-Infinity".toList, real (.infinite true))]

/-- The constant whose name starts the text, and what follows the name. -/
def constant? (cs : List Char) : Option (Json × List Char) :=
  constants.findSome? fun (name, v) =>
    if name.isPrefixOf cs then some (v, cs.drop name.length) else none

def Numeral.symbol (n : Numeral) : Symbol :=
  if n.isInteger ∧ digitLimit < n.whole.length then .oversized n.whole.length
  else .scalar n.value

/-- The number at the start of a text, with its sign. -/
def signedNumeral? : List Char → Option (Numeral × List Char)
  | '-' :: rest => numeral? true rest
  | cs => numeral? false cs

/-- The symbol that a text other than the empty one starts with, and what follows it. After a symbol
that ends the reading nothing follows. -/
def symbolOf (c : Char) (cs : List Char) : Symbol × List Char :=
  match c with
  | '[' => (.openBracket, cs)
  | ']' => (.closeBracket, cs)
  | '\x7b' => (.openBrace, cs)
  | '\x7d' => (.closeBrace, cs)
  | ',' => (.comma, cs)
  | ':' => (.colon, cs)
  | '\x22' =>
    match inside (c :: cs) cs with
    | .ok (text, rest) => (.text ⟨text⟩, rest)
    | .error f => (.badText f, [])
  | _ =>
    match constant? (c :: cs) with
    | some (v, rest) => (.scalar v, rest)
    | none =>
      match signedNumeral? (c :: cs) with
      | some (n, rest) => (n.symbol, rest)
      | none => (.junk, [])

theorem length_of_constant? {c : Char} {cs rest : List Char} {v : Json}
    (h : constant? (c :: cs) = some (v, rest)) : rest.length ≤ cs.length := by
  obtain ⟨⟨name, w⟩, hmem, hname⟩ := List.exists_of_findSome?_eq_some h
  have hpos : 0 < name.length := by
    simp only [constants, List.mem_cons, Prod.mk.injEq, List.not_mem_nil, or_false] at hmem
    rcases hmem with h | h | h | h | h | h <;> rw [h.1] <;> decide
  simp only at hname
  split at hname
  · simp only [Option.some.injEq, Prod.mk.injEq] at hname
    obtain ⟨_, rfl⟩ := hname
    rw [List.length_drop, List.length_cons]
    omega
  · simp at hname

theorem length_of_signedNumeral? {c : Char} {cs rest : List Char} {n : Numeral}
    (h : signedNumeral? (c :: cs) = some (n, rest)) : rest.length ≤ cs.length := by
  unfold signedNumeral? at h
  split at h
  · rename_i heq
    simp only [List.cons.injEq] at heq
    obtain ⟨_, rfl⟩ := heq
    exact Nat.le_of_lt (length_of_numeral? h)
  · exact Nat.le_of_lt_succ (length_of_numeral? h)

theorem length_symbolOf_le (c : Char) (cs : List Char) :
    (symbolOf c cs).2.length ≤ cs.length := by
  unfold symbolOf
  split
  iterate 6 exact Nat.le_refl _
  · split
    · rename_i h
      exact length_of_inside h
    · exact Nat.zero_le _
  · split
    · rename_i h
      exact length_of_constant? h
    · split
      · rename_i h
        exact length_of_signedNumeral? h
      · exact Nat.zero_le _

def symbols (cs : List Char) : List Placed :=
  match _h : cs.dropWhile isSpace with
  | [] => []
  | c :: rest => ⟨(symbolOf c rest).1, c :: rest⟩ :: symbols (symbolOf c rest).2
termination_by cs.length
decreasing_by
  have hle := length_dropWhile_le isSpace cs
  rw [_h, List.length_cons] at hle
  exact Nat.lt_of_le_of_lt (length_symbolOf_le c rest) hle

end TagHighlight.Json
