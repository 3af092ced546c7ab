import Mathlib.Data.List.Basic
import TagHighlight.Proofs.Lexer.Delimited
import TagHighlight.Proofs.Lexer.Partition

/-!
# Tags as they are written

A `Tag` is a complete tag: its name, its attributes with their values, and how it closes. What makes
it well formed is part of the type, so every `Tag` can be written (`Tag.chars`), and has the lexemes
that it stands for (`Tag.lexemes`). The lexer cuts the written tag into just these, whatever the tag
holds and whatever follows it (`run_tag`).

Each piece of a tag is followed by a text at which a chunk ends: by a blank, or by the bracket that
closes the tag. That is all that the pieces need to know of each other, so `endsChunk` of what
follows is the one condition of the lemmas on pieces.
-/

namespace TagHighlight.Lexer

open TagHighlight.Text (isQuote)
open TagHighlight.Unicode (isBlank)

/-! ### Tags -/

/-- A text that can be a value without quotes and braces. -/
structure IsBare (cs : List Char) : Prop where
  ne_nil : cs ≠ []
  isBlank_eq_false : ∀ c ∈ cs, isBlank c = false
  notMem : '>' ∉ cs
  first : ∀ c ∈ cs.head?, isQuote c = false ∧ c ≠ '\x7b'
  -- a slash at its end could belong to the closing bracket
  last : cs.getLast? ≠ some '/'

inductive Value where
  /-- A text between two quotes of one kind, which does not hold that quote. -/
  | quoted (quote : Char) (inside : List Char) (hquote : isQuote quote = true)
      (hinside : quote ∉ inside)
  /-- A brace and a text that closes it. -/
  | braced (inside : List Char) (hinside : Closes 1 inside)
  /-- A text without quotes and braces around it. -/
  | bare (cs : List Char) (hcs : IsBare cs)

namespace Value

def chars : Value → List Char
  | quoted quote inside _ _ => quote :: (inside ++ [quote])
  | braced inside _ => '\x7b' :: inside
  | bare cs _ => cs

def category : Value → Category
  | quoted .. => .stringLiteral
  | _ => .plain

/-- The sign and the value behind the name of an attribute. -/
def assigned : Option Value → List Char
  | none => []
  | some v => '=' :: v.chars

def assignedLexemes : Option Value → List Lexeme
  | none => []
  | some v => [⟨.attributeOperator, ['=']⟩, ⟨v.category, v.chars⟩]

end Value

/-- An attribute of a tag, with the blanks before it. -/
structure Attribute where
  blanks : List Char
  blanks_ne_nil : blanks ≠ []
  isBlank_of_mem : ∀ c ∈ blanks, isBlank c = true
  name : List Char
  name_ne_nil : name ≠ []
  isNameChar_of_mem : ∀ c ∈ name, isAttributeNameChar c = true
  value : Option Value

namespace Attribute

def chars (a : Attribute) : List Char := a.blanks ++ (a.name ++ Value.assigned a.value)

def lexemes (a : Attribute) : List Lexeme :=
  ⟨.whitespace, a.blanks⟩ :: ⟨.attributeName, a.name⟩ :: Value.assignedLexemes a.value

end Attribute

/-- A complete tag that opens an element. -/
structure Tag where
  first : Char
  isStart : isTagNameStart first = true
  others : List Char
  isNameChar_of_mem : ∀ c ∈ others, isTagNameChar c = true
  attributes : List Attribute
  /-- The blanks before the closing bracket, if there are any. -/
  blanks : List Char
  isBlank_of_mem : ∀ c ∈ blanks, isBlank c = true
  /-- The closing bracket begins with a slash. -/
  selfClosing : Bool

namespace Tag

def name (t : Tag) : List Char := t.first :: t.others

def closing (t : Tag) : List Char := if t.selfClosing then ['/', '>'] else ['>']

def chars (t : Tag) : List Char :=
  '<' :: (t.name ++ (t.attributes.flatMap Attribute.chars ++ (t.blanks ++ t.closing)))

def lexemes (config : Config) (t : Tag) : List Lexeme :=
  ⟨.tagBracket, ['<']⟩ :: ⟨nameCategory config t.name, t.name⟩ ::
    (t.attributes.flatMap Attribute.lexemes ++
      (lexeme? (fun _ => .whitespace) t.blanks ++ [⟨.tagBracket, t.closing⟩]))

end Tag

/-! ### Values -/

section
variable {rest : List Char} (hrest : endsChunk rest = true)
include hrest

theorem chunkTail_of_endsChunk : chunkTail rest = ([], rest) := by
  cases rest with
  | nil => rfl
  | cons c cs => rw [chunkTail, if_pos hrest]

theorem attributeValue_quoted (toEol : Bool) {quote : Char} {inside : List Char}
    (hquote : isQuote quote = true) (hinside : quote ∉ inside) :
    attributeValue toEol (quote :: (inside ++ [quote]) ++ rest) =
      ([⟨.stringLiteral, quote :: (inside ++ [quote])⟩], rest) := by
  have hends : endsChunk (quote :: (inside ++ quote :: rest)) = false := by
    rcases eq_of_isQuote hquote with rfl | rfl
    · exact endsChunk_eq_false rfl (by decide) fun h => absurd h (by decide)
    · exact endsChunk_eq_false rfl (by decide) fun h => absurd h (by decide)
  have htext : quote :: (inside ++ [quote]) ++ rest = quote :: (inside ++ quote :: rest) := by simp
  rw [htext, attributeValue, if_neg (by simp [hends]), value, if_pos hquote,
    throughQuote_append_cons hinside]
  simp [chunkTail_of_endsChunk hrest]

theorem attributeValue_braced (toEol : Bool) {inside : List Char} (hinside : Closes 1 inside) :
    attributeValue toEol ('\x7b' :: inside ++ rest) = ([⟨.plain, '\x7b' :: inside⟩], rest) := by
  have hends : endsChunk ('\x7b' :: (inside ++ rest)) = false :=
    endsChunk_eq_false rfl (by decide) fun h => absurd h (by decide)
  have hbraced : braced ('\x7b' :: (inside ++ rest)) = ('\x7b' :: inside, rest) :=
    throughBrace_append_of_closes (.opening hinside) rest
  rw [List.cons_append, attributeValue, if_neg (by simp [hends]), value, if_neg (by decide),
    if_pos rfl, hbraced]
  simp [chunkTail_of_endsChunk hrest]

omit hrest in
theorem IsBare.endsChunk_eq_false {cs s : List Char} (h : IsBare cs) (hs : s <:+ cs) (hne : s ≠ []) :
    endsChunk (s ++ rest) = false := by
  obtain ⟨c, s, rfl⟩ := List.exists_cons_of_ne_nil hne
  have hmem : c ∈ cs := hs.mem List.mem_cons_self
  refine Lexer.endsChunk_eq_false (h.isBlank_eq_false c hmem) (fun he => h.notMem (he ▸ hmem)) ?_
  rintro rfl
  cases s with
  | nil =>
    -- the slash would be the last character of the text
    obtain ⟨before, rfl⟩ := hs
    exact absurd (by simp) h.last
  | cons d s =>
    intro hd
    have hclose : d = '>' := by simpa using hd
    exact h.notMem (hclose ▸ hs.mem (List.mem_cons_of_mem _ List.mem_cons_self))

theorem attributeValue_bare (toEol : Bool) {cs : List Char} (h : IsBare cs) :
    attributeValue toEol (cs ++ rest) = ([⟨.plain, cs⟩], rest) := by
  have hends (s : List Char) (hs : s <:+ cs) (hne : s ≠ []) : endsChunk (s ++ rest) = false :=
    h.endsChunk_eq_false hs hne
  obtain ⟨c, cs, rfl⟩ := List.exists_cons_of_ne_nil h.ne_nil
  obtain ⟨hquote, hbrace⟩ := h.first c rfl
  have hsplit : splitUntil endsChunk (cs ++ rest) = (cs, rest) :=
    splitUntil_append_of_stop (fun s hs => hends s (hs.trans (List.suffix_cons c cs))) fun _ => hrest
  have hfirst := hends _ (List.suffix_refl _) (List.cons_ne_nil _ _)
  rw [List.cons_append] at hfirst ⊢
  rw [attributeValue, if_neg (by simp [hfirst]), value, if_neg (by simp [hquote]), if_neg hbrace,
    chunk, hsplit]

theorem attributeValue_written (toEol : Bool) (v : Value) :
    attributeValue toEol (v.chars ++ rest) = ([⟨v.category, v.chars⟩], rest) := by
  cases v with
  | quoted quote inside hquote hinside => exact attributeValue_quoted hrest toEol hquote hinside
  | braced inside hinside => exact attributeValue_braced hrest toEol hinside
  | bare cs hcs => exact attributeValue_bare hrest toEol hcs

theorem assignment_written (toEol : Bool) (v : Option Value) :
    assignment toEol (Value.assigned v ++ rest) = (Value.assignedLexemes v, rest) := by
  cases v with
  | none =>
    -- what follows ends a chunk, so it does not begin with the sign
    unfold assignment
    split
    · rename_i cs heq
      have hcs : rest = '=' :: cs := heq
      rw [hcs] at hrest
      exact absurd rfl (isAttributeNameChar_eq_false_of_endsChunk hrest).2
    · rfl
  | some v =>
    simp only [Value.assigned, List.cons_append, assignment, attributeValue_written hrest]
    rfl

end

/-! ### Attributes -/

theorem lexemes_run_cons (config : Config) (mode : Mode) (c : Char) (cs : List Char) :
    lexemes (run config mode (c :: cs)) = (step config mode c cs).lexemes ++
      lexemes (run config (step config mode c cs).mode (step config mode c cs).rest) := by
  rw [run, lexemes_cons]

theorem run_blanks (config : Config) {blanks rest : List Char} (hne : blanks ≠ [])
    (hall : ∀ c ∈ blanks, isBlank c = true) (hrest : ∀ c ∈ rest.head?, isBlank c = false) :
    lexemes (run config .attributes (blanks ++ rest)) =
      ⟨.whitespace, blanks⟩ :: lexemes (run config .attributes rest) := by
  have hrun : blankRun (blanks ++ rest) = (blanks, rest) :=
    Prod.ext (takeWhile_append_of_head hall hrest) (dropWhile_append_of_head hall hrest)
  obtain ⟨c, cs, rfl⟩ := List.exists_cons_of_ne_nil hne
  have hstep : step config .attributes c (cs ++ rest) =
      ⟨[⟨.whitespace, c :: cs⟩], .attributes, rest⟩ := by
    rw [step, attributesStep, if_pos (hall c List.mem_cons_self), ← List.cons_append, hrun]
  rw [List.cons_append, lexemes_run_cons, hstep]
  rfl

theorem run_named (config : Config) {name rest : List Char} (v : Option Value) (hne : name ≠ [])
    (hall : ∀ c ∈ name, isAttributeNameChar c = true) (hrest : endsChunk rest = true) :
    lexemes (run config .attributes (name ++ (Value.assigned v ++ rest))) =
      ⟨.attributeName, name⟩ :: (Value.assignedLexemes v ++ lexemes (run config .attributes rest)) := by
  have hstop : ∀ c ∈ (Value.assigned v ++ rest).head?, isAttributeNameChar c = false := by
    intro c hc
    cases v with
    | none =>
      cases rest with
      | nil => cases hc
      | cons d ds =>
        obtain rfl : d = c := by simpa [Value.assigned] using hc
        exact (isAttributeNameChar_eq_false_of_endsChunk hrest).1
    | some v =>
      obtain rfl : '=' = c := by simpa [Value.assigned] using hc
      decide
  obtain ⟨c, cs, rfl⟩ := List.exists_cons_of_ne_nil hne
  have hc := hall c List.mem_cons_self
  have hcs : ∀ d ∈ cs, isAttributeNameChar d = true := fun d hd => hall d (List.mem_cons_of_mem c hd)
  -- neither `>` nor the slash of a closing bracket can stand in a name
  have hclose : atTagClose (c :: (cs ++ (Value.assigned v ++ rest))) = false := by
    refine Bool.eq_false_iff.2 fun h => ?_
    rcases atTagClose_cons.1 h with rfl | ⟨rfl, _⟩ <;> revert hc <;> decide
  have hstep : step config .attributes c (cs ++ (Value.assigned v ++ rest)) =
      ⟨⟨.attributeName, c :: cs⟩ :: Value.assignedLexemes v, .attributes, rest⟩ := by
    rw [step, attributesStep, if_neg (by simp [isBlank_eq_false_of_isAttributeNameChar hc]),
      if_neg (by simp [hclose]), if_pos hc]
    simp only [takeWhile_append_of_head hcs hstop, dropWhile_append_of_head hcs hstop,
      assignment_written hrest]
  rw [List.cons_append, lexemes_run_cons, hstep]
  rfl

theorem run_attribute (config : Config) (a : Attribute) {rest : List Char}
    (hrest : endsChunk rest = true) :
    lexemes (run config .attributes (a.chars ++ rest)) =
      a.lexemes ++ lexemes (run config .attributes rest) := by
  have hhead : ∀ c ∈ (a.name ++ (Value.assigned a.value ++ rest)).head?, isBlank c = false := by
    intro c hc
    rw [List.head?_append_of_ne_nil _ a.name_ne_nil] at hc
    exact isBlank_eq_false_of_isAttributeNameChar
      (a.isNameChar_of_mem c (List.mem_of_mem_head? hc))
  rw [Attribute.chars, List.append_assoc, List.append_assoc,
    run_blanks config a.blanks_ne_nil a.isBlank_of_mem hhead,
    run_named config a.value a.name_ne_nil a.isNameChar_of_mem hrest]
  rfl

theorem endsChunk_blanks {blanks rest : List Char} (hall : ∀ c ∈ blanks, isBlank c = true)
    (hrest : endsChunk rest = true) : endsChunk (blanks ++ rest) = true := by
  cases blanks with
  | nil => exact hrest
  | cons c cs => exact endsChunk_cons.2 (.inl (hall c List.mem_cons_self))

theorem endsChunk_attributes (as : List Attribute) {rest : List Char}
    (hrest : endsChunk rest = true) :
    endsChunk (as.flatMap Attribute.chars ++ rest) = true := by
  cases as with
  | nil => exact hrest
  | cons a as =>
    obtain ⟨c, cs, hblanks⟩ := List.exists_cons_of_ne_nil a.blanks_ne_nil
    have hc : isBlank c = true := a.isBlank_of_mem c (hblanks ▸ List.mem_cons_self)
    simp [Attribute.chars, hblanks, endsChunk_cons, hc]

theorem run_attributes (config : Config) (as : List Attribute) {rest : List Char}
    (hrest : endsChunk rest = true) :
    lexemes (run config .attributes (as.flatMap Attribute.chars ++ rest)) =
      as.flatMap Attribute.lexemes ++ lexemes (run config .attributes rest) := by
  induction as with
  | nil => rfl
  | cons a as ih =>
    rw [List.flatMap_cons, List.append_assoc,
      run_attribute config a (endsChunk_attributes as hrest), ih, List.flatMap_cons,
      List.append_assoc]

/-! ### Complete tags -/

theorem endsChunk_closing (t : Tag) (r : List Char) : endsChunk (t.closing ++ r) = true := by
  unfold Tag.closing
  split
  · exact endsChunk_cons.2 (.inr (.inr ⟨rfl, rfl⟩))
  · exact endsChunk_cons.2 (.inr (.inl rfl))

theorem run_closing (config : Config) (t : Tag) (r : List Char) :
    lexemes (run config .attributes (t.closing ++ r)) =
      ⟨.tagBracket, t.closing⟩ :: lexemes (run config .statement r) := by
  have hstep : ∀ c cs, t.closing ++ r = c :: cs →
      step config .attributes c cs = ⟨[⟨.tagBracket, t.closing⟩], .statement, r⟩ := by
    unfold Tag.closing
    split
    · rintro c cs ⟨⟩
      rfl
    · rintro c cs ⟨⟩
      rfl
  cases h : t.closing ++ r with
  | nil =>
    unfold Tag.closing at h
    split at h <;> cases h
  | cons c cs =>
    rw [lexemes_run_cons, hstep c cs h]
    rfl

theorem run_end (config : Config) (t : Tag) (r : List Char) :
    lexemes (run config .attributes (t.blanks ++ (t.closing ++ r))) =
      lexeme? (fun _ => .whitespace) t.blanks ++
        ⟨.tagBracket, t.closing⟩ :: lexemes (run config .statement r) := by
  by_cases hne : t.blanks = []
  · rw [hne, List.nil_append, run_closing]
    rfl
  · have hhead : ∀ c ∈ (t.closing ++ r).head?, isBlank c = false := by
      unfold Tag.closing
      split <;> rintro c ⟨⟩ <;> rfl
    rw [run_blanks config hne t.isBlank_of_mem hhead, run_closing, lexeme?,
      if_neg (by simpa using hne)]
    rfl

theorem Tag.isNameChar_of_mem_name (t : Tag) : ∀ c ∈ t.name, isTagNameChar c = true := by
  intro c hc
  rcases List.mem_cons.1 hc with rfl | hc
  · exact isTagNameChar_of_isTagNameStart t.isStart
  · exact t.isNameChar_of_mem c hc

theorem run_head (config : Config) (t : Tag) {inside : List Char}
    (hinside : endsChunk inside = true) :
    lexemes (run config .statement ('<' :: (t.name ++ inside))) =
      ⟨.tagBracket, ['<']⟩ :: ⟨nameCategory config t.name, t.name⟩ ::
        lexemes (run config .attributes inside) := by
  have hstop : ∀ c ∈ inside.head?, isTagNameChar c = false := by
    intro c hc
    obtain ⟨cs, rfl⟩ := List.head?_eq_some_iff.1 hc
    exact isTagNameChar_eq_false_of_endsChunk hinside
  have hslash : t.first ≠ '/' := by
    intro h
    have hstart := t.isStart
    rw [h] at hstart
    revert hstart
    decide
  -- two steps: one to the start of the tag, which takes nothing, and one through its head
  have hopen : step config .statement '<' (t.name ++ inside) =
      ⟨[], .tagOpen, '<' :: (t.name ++ inside)⟩ := by
    have htag : atTagStart ('<' :: (t.name ++ inside)) = true := by
      simp [Tag.name, atTagStart, t.isStart]
    rw [step, statementStep, if_neg (by decide), if_pos htag]
  have hbracket : openingBracket '<' (t.name ++ inside) = (['<'], t.name ++ inside) :=
    openingBracket_of_ne hslash
  have hhead : step config .tagOpen '<' (t.name ++ inside) =
      ⟨[⟨.tagBracket, ['<']⟩, ⟨nameCategory config t.name, t.name⟩], .attributes, inside⟩ := by
    rw [step, tagOpenStep, hbracket]
    simp only [takeWhile_append_of_head t.isNameChar_of_mem_name hstop,
      dropWhile_append_of_head t.isNameChar_of_mem_name hstop]
    rfl
  rw [lexemes_run_cons, hopen, List.nil_append, lexemes_run_cons, hhead]
  rfl

theorem run_tag (config : Config) (t : Tag) (r : List Char) :
    lexemes (run config .statement (t.chars ++ r)) =
      t.lexemes config ++ lexemes (run config .statement r) := by
  have hend : endsChunk (t.blanks ++ (t.closing ++ r)) = true :=
    endsChunk_blanks t.isBlank_of_mem (endsChunk_closing t r)
  have hchars : t.chars ++ r = '<' :: (t.name ++
      (t.attributes.flatMap Attribute.chars ++ (t.blanks ++ (t.closing ++ r)))) := by
    simp [Tag.chars]
  rw [hchars, run_head config t (endsChunk_attributes t.attributes hend),
    run_attributes config t.attributes hend, run_end]
  simp [Tag.lexemes]

theorem textOf_assignedLexemes (v : Option Value) :
    textOf (Value.assignedLexemes v) = Value.assigned v := by
  cases v <;> simp [Value.assignedLexemes, Value.assigned]

theorem textOf_attributes (as : List Attribute) :
    textOf (as.flatMap Attribute.lexemes) = as.flatMap Attribute.chars := by
  induction as with
  | nil => rfl
  | cons a as ih =>
    rw [List.flatMap_cons, textOf_append, ih, List.flatMap_cons, Attribute.lexemes, textOf_cons,
      textOf_cons, textOf_assignedLexemes]
    rfl

theorem textOf_tag (config : Config) (t : Tag) : textOf (t.lexemes config) = t.chars := by
  simp [Tag.lexemes, Tag.chars, textOf_append, textOf_attributes, textOf_lexeme?]

end TagHighlight.Lexer

namespace TagHighlight

open Lexer

/-- **A complete tag at the start of a line is recognised exactly, whatever follows it**: first come
the tokens that the tag stands for, and then those of what follows, as on a line of its own. -/
theorem classifyLine_tag_append (config : Config) (t : Tag) (r : String) (lineno : Option Int) :
    ∃ after, classifyLine config r lineno = .ok after ∧
      classifyLine config (String.ofList t.chars ++ r) lineno =
        .ok (place 0 (t.lexemes config) ++ after.map (Token.shift t.chars.length)) := by
  refine ⟨_, classifyLine_eq config r lineno, ?_⟩
  have hline : (String.ofList t.chars ++ r).toList = t.chars ++ r.toList := by simp
  rw [classifyLine_eq, tokens, hline, run_tag, place_append, textOf_tag, place_add]
  rfl

/-- A closing bracket inside a quoted value is a part of the value. -/
theorem classifyLine_tag_of_quoted_bracket :
    let config : Config := .make (.ofWords []) (.ofWords []) (.ofWords []) (.bool true) (.bool false)
    ∃ after, classifyLine config "c" none = .ok after ∧
      classifyLine config "<a b=\x22/>\x22\t/>c" none =
        .ok ([⟨"<", .tagBracket, 0⟩, ⟨"a", .componentName, 1⟩, ⟨" ", .whitespace, 2⟩,
          ⟨"b", .attributeName, 3⟩, ⟨"=", .attributeOperator, 4⟩, ⟨"\x22/>\x22", .stringLiteral, 5⟩,
          ⟨"\t", .whitespace, 9⟩, ⟨"/>", .tagBracket, 10⟩] ++ after.map (Token.shift 12)) := by
  intro config
  let quoted : Value := .quoted '\x22' ['/', '>'] rfl (by decide)
  let named : Attribute := ⟨[' '], by simp, List.forall_mem_singleton.2 rfl, ['b'], by simp,
    List.forall_mem_singleton.2 rfl, some quoted⟩
  let t : Tag := ⟨'a', rfl, [], by simp, [named], ['\t'], List.forall_mem_singleton.2 rfl, true⟩
  exact classifyLine_tag_append config t "c" none

end TagHighlight
