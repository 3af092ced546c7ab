import Mathlib.Data.List.Chain
import TagHighlight.Lexer.Run
import TagHighlight.Proofs.Lexer.Branches
import TagHighlight.Proofs.Lexer.Partition

/-!
# The grammar of a line

The lexemes of a line are statement text and tags. `Reads mode ls last` says that `ls` can be read
from a mode on and that the line then ends in the mode `last`: a tag is its head, which is a bracket
with its name, then lexemes that stand inside tags, and then a closing bracket or the end of the
line. From this the brackets alternate (`Reads.alternate`), and the last mode tells whether the last
bracket has opened a tag (`Reads.last_eq_attributes_iff`).

What two neighbours can be is `MayFollow`. A step leaves a text that cannot go on with what the step
has just ended, so the whole line is a chain of neighbours (`isChain_lexemes_run`).
-/

namespace TagHighlight

def Category.isStatement : Category → Bool
  | whitespace | keyword | punctuation | stringLiteral | plain | lineComment => true
  | _ => false

def Category.isName : Category → Bool
  | componentName | elementName => true
  | _ => false

/-- The category can stand inside a tag, behind its name. -/
def Category.isInner : Category → Bool
  | whitespace | attributeName | attributeOperator | stringLiteral | plain => true
  | _ => false

/-- A token without its column. -/
def Token.lexeme (t : Token) : Lexer.Lexeme := ⟨t.category, t.text.toList⟩

namespace Lexer

open TagHighlight.Unicode (isBlank)

theorem map_lexeme_place (col : Nat) (ls : List Lexeme) : (place col ls).map Token.lexeme = ls := by
  induction ls generalizing col with
  | nil => rfl
  | cons l ls ih => simp [place, ih, Token.lexeme]

/-! ### Lines as statement text and tags -/

def Lexeme.Opens (l : Lexeme) : Prop :=
  l.category = .tagBracket ∧ (l.chars = ['<'] ∨ l.chars = ['<', '/'])

def Lexeme.Closes (l : Lexeme) : Prop :=
  l.category = .tagBracket ∧ (l.chars = ['>'] ∨ l.chars = ['/', '>'])

/-- The head of a tag: `<` always has a name behind it, and `</` can have one. -/
inductive IsHead : List Lexeme → Prop
  | opening {name : Lexeme} (hname : name.category.isName = true) :
      IsHead [⟨.tagBracket, ['<']⟩, name]
  | nameless : IsHead [⟨.tagBracket, ['<', '/']⟩]
  | closing {name : Lexeme} (hname : name.category.isName = true) :
      IsHead [⟨.tagBracket, ['<', '/']⟩, name]

/-- The lexemes can be read from a mode on, and the line ends in the mode `last` after them. -/
inductive Reads : Mode → List Lexeme → Mode → Prop
  | done : Reads .statement [] .statement
  | word {l : Lexeme} {ls : List Lexeme} {last : Mode} (hl : l.category.isStatement = true)
      (h : Reads .statement ls last) : Reads .statement (l :: ls) last
  | tag {ls : List Lexeme} {last : Mode} (h : Reads .tagOpen ls last) : Reads .statement ls last
  | head {hs ls : List Lexeme} {last : Mode} (hhead : IsHead hs) (h : Reads .attributes ls last) :
      Reads .tagOpen (hs ++ ls) last
  | inner {l : Lexeme} {ls : List Lexeme} {last : Mode} (hl : l.category.isInner = true)
      (h : Reads .attributes ls last) : Reads .attributes (l :: ls) last
  | close {l : Lexeme} {ls : List Lexeme} {last : Mode} (hl : l.Closes)
      (h : Reads .statement ls last) : Reads .attributes (l :: ls) last
  /-- The line ends inside a tag. -/
  | unclosed : Reads .attributes [] .attributes

/-! ### Brackets -/

def brackets (ls : List Lexeme) : List Lexeme := ls.filter fun l => l.category = .tagBracket

/-- Brackets that open and brackets that close a tag in turn, the first one as it is said. -/
def Alternate : (opens : Bool) → List Lexeme → Prop
  | _, [] => True
  | true, b :: bs => b.Opens ∧ Alternate false bs
  | false, b :: bs => b.Closes ∧ Alternate true bs

/-- The last bracket has opened a tag, and no other one has closed it. -/
def EndsInTag (ls : List Lexeme) : Prop := ∃ b ∈ (brackets ls).getLast?, b.Opens

theorem brackets_cons_of_ne {l : Lexeme} (ls : List Lexeme) (h : l.category ≠ .tagBracket) :
    brackets (l :: ls) = brackets ls := by
  simp [brackets, h]

theorem brackets_cons_of_eq {l : Lexeme} (ls : List Lexeme) (h : l.category = .tagBracket) :
    brackets (l :: ls) = l :: brackets ls := by
  simp [brackets, h]

theorem ne_tagBracket {c : Category}
    (h : c.isStatement = true ∨ c.isInner = true ∨ c.isName = true) : c ≠ .tagBracket := by
  rintro rfl
  rcases h with h | h | h <;> cases h

theorem IsHead.brackets_append {hs : List Lexeme} (h : IsHead hs) (ls : List Lexeme) :
    ∃ b, brackets (hs ++ ls) = b :: brackets ls ∧ b.Opens := by
  cases h with
  | opening hname =>
    refine ⟨⟨.tagBracket, ['<']⟩, ?_, rfl, .inl rfl⟩
    rw [List.cons_append, brackets_cons_of_eq _ rfl, List.cons_append,
      brackets_cons_of_ne _ (ne_tagBracket (.inr (.inr hname))), List.nil_append]
  | nameless => exact ⟨⟨.tagBracket, ['<', '/']⟩, brackets_cons_of_eq _ rfl, rfl, .inr rfl⟩
  | closing hname =>
    refine ⟨⟨.tagBracket, ['<', '/']⟩, ?_, rfl, .inr rfl⟩
    rw [List.cons_append, brackets_cons_of_eq _ rfl, List.cons_append,
      brackets_cons_of_ne _ (ne_tagBracket (.inr (.inr hname))), List.nil_append]

theorem Lexeme.Closes.not_opens {l : Lexeme} (h : l.Closes) : ¬l.Opens := by
  obtain ⟨_, h | h⟩ := h
  · rintro ⟨_, ho | ho⟩ <;> simp [h] at ho
  · rintro ⟨_, ho | ho⟩ <;> simp [h] at ho

namespace Reads

variable {mode last : Mode} {ls : List Lexeme}

theorem alternate (h : Reads mode ls last) : Alternate (mode ≠ .attributes) (brackets ls) := by
  induction h with
  | done => trivial
  | word hl h ih => rwa [brackets_cons_of_ne _ (ne_tagBracket (.inl hl))]
  | tag h ih => exact ih
  | head hhead h ih =>
    obtain ⟨b, hb, hopens⟩ := hhead.brackets_append _
    rw [hb]
    exact ⟨hopens, ih⟩
  | inner hl h ih => rwa [brackets_cons_of_ne _ (ne_tagBracket (.inr (.inl hl)))]
  | close hl h ih =>
    rw [brackets_cons_of_eq _ hl.1]
    exact ⟨hl, ih⟩
  | unclosed => trivial

theorem last_ne_tagOpen (h : Reads mode ls last) : last ≠ .tagOpen := by
  induction h with
  | done => decide
  | unclosed => decide
  | _ => assumption

/-- A line ends inside a tag when its last bracket has opened one; without a bracket it ends where
it has begun. -/
theorem last_eq_attributes_iff (h : Reads mode ls last) :
    last = .attributes ↔ EndsInTag ls ∨ mode = .attributes ∧ brackets ls = [] := by
  unfold EndsInTag
  induction h with
  | done => simp [brackets]
  | word hl h ih => simpa [brackets_cons_of_ne _ (ne_tagBracket (.inl hl))] using ih
  | tag h ih => simpa using ih
  | @head hs ls last hhead h ih =>
    obtain ⟨b, hb, hopens⟩ := hhead.brackets_append ls
    rw [hb, ih]
    cases hls : brackets ls with
    | nil => simp [hopens]
    | cons a as => simp [List.getLast?_cons]
  | inner hl h ih => rwa [brackets_cons_of_ne _ (ne_tagBracket (.inr (.inl hl)))]
  | @close l ls last hl h ih =>
    rw [brackets_cons_of_eq _ hl.1, ih]
    cases hls : brackets ls with
    | nil => simp [hl.not_opens]
    | cons a as => simp [List.getLast?_cons]
  | unclosed => simp [brackets]

theorem append_inner {ms : List Lexeme} (hms : ∀ l ∈ ms, l.category.isInner = true)
    (h : Reads .attributes ls last) : Reads .attributes (ms ++ ls) last := by
  induction ms with
  | nil => exact h
  | cons l ms ih =>
    exact .inner (hms l List.mem_cons_self) (ih fun m hm => hms m (List.mem_cons_of_mem l hm))

end Reads

/-! ### A run can be read -/

theorem wordCategory_cases (config : Config) (cs : List Char) :
    wordCategory config cs = .keyword ∨ wordCategory config cs = .punctuation ∨
      wordCategory config cs = .stringLiteral ∨ wordCategory config cs = .plain := by
  unfold wordCategory
  split
  · simp
  · split
    · simp
    · split <;> simp

theorem nameCategory_cases (config : Config) (cs : List Char) :
    nameCategory config cs = .componentName ∨ nameCategory config cs = .elementName := by
  unfold nameCategory
  split
  · simp
  · split <;> simp

theorem isStatement_wordCategory (config : Config) (cs : List Char) :
    (wordCategory config cs).isStatement = true := by
  rcases wordCategory_cases config cs with h | h | h | h <;> rw [h] <;> rfl

theorem wordCategory_ne (config : Config) (cs : List Char) :
    wordCategory config cs ≠ .whitespace ∧ wordCategory config cs ≠ .lineComment ∧
      wordCategory config cs ≠ .attributeOperator := by
  rcases wordCategory_cases config cs with h | h | h | h <;> simp [h]

theorem isName_nameCategory (config : Config) (cs : List Char) :
    (nameCategory config cs).isName = true := by
  rcases nameCategory_cases config cs with h | h <;> rw [h] <;> rfl

theorem nameCategory_ne (config : Config) (cs : List Char) :
    nameCategory config cs ≠ .whitespace ∧ nameCategory config cs ≠ .lineComment ∧
      nameCategory config cs ≠ .attributeOperator := by
  rcases nameCategory_cases config cs with h | h <;> simp [h]

theorem IsValue.isInner {l : Lexeme} (h : IsValue l) : l.category.isInner = true := by
  rcases h with h | h <;> rw [h] <;> rfl

theorem isHead_tagOpenStep (config : Config) {c : Char} {cs : List Char}
    (h : atTagStart (c :: cs) = true) : IsHead (tagOpenStep config c cs).lexemes := by
  cases cs with
  | nil => cases h
  | cons d cs =>
    simp only [atTagStart, Bool.and_eq_true, beq_iff_eq, Bool.or_eq_true] at h
    obtain ⟨rfl, hd⟩ := h
    by_cases hslash : d = '/'
    · subst hslash
      simp only [tagOpenStep, openingBracket, lexeme?]
      split
      · exact .nameless
      · exact .closing (isName_nameCategory _ _)
    · -- a character that begins a name also belongs to it, so the name is not empty
      have hname := isTagNameChar_of_isTagNameStart (hd.resolve_left hslash)
      simp only [tagOpenStep, openingBracket_of_ne hslash, List.takeWhile_cons_of_pos hname]
      exact .opening (isName_nameCategory _ _)

theorem closes_closingBracket {c : Char} {cs : List Char} (h : atTagClose (c :: cs) = true) :
    Lexeme.Closes ⟨.tagBracket, (closingBracket c cs).1⟩ := by
  refine ⟨rfl, ?_⟩
  rcases atTagClose_cons.1 h with rfl | ⟨rfl, hcs⟩
  · exact .inl rfl
  · obtain ⟨ds, rfl⟩ := List.head?_eq_some_iff.1 hcs
    exact .inr rfl

theorem Branch.reads {config : Config} {mode last : Mode} {c : Char} {cs : List Char} {s : Step}
    {ls : List Lexeme} (hs : Branch config mode c cs s)
    (hmode : mode = .tagOpen → atTagStart (c :: cs) = true) (h : Reads s.mode ls last) :
    Reads mode (s.lexemes ++ ls) last := by
  cases hs with
  | blanks hne hblank =>
    cases mode with
    | statement => exact .word rfl h
    | tagOpen => exact absurd rfl hne
    | attributes => exact .inner rfl h
  | tagStart htag => exact .tag h
  | comment hblank hcomment => exact .word rfl h
  | word hblank htag hcomment => exact .word (isStatement_wordCategory _ _) h
  | head => exact .head (isHead_tagOpenStep config (hmode rfl)) h
  | close hclose => exact .close (closes_closingBracket hclose) h
  | named hname =>
    refine .inner rfl ?_
    rcases assignment_cases config.unterminatedToEol.isOn (cs.dropWhile isAttributeNameChar) with
      hnone | ⟨ms, hsome, hms⟩
    · rw [hnone]
      exact h
    · rw [hsome]
      exact .inner rfl (h.append_inner fun l hl => (hms l hl).isInner)
  | unnamed hends hname => exact h.append_inner fun l hl => (isValue_value _ _ _ l hl).isInner

/-- A run can be read from its mode on, if a tag starts where it begins in the head of a tag. -/
theorem reads_run (config : Config) (mode : Mode) (cs : List Char)
    (hmode : mode = .tagOpen → atTagStart cs = true) :
    Reads mode (lexemes (run config mode cs)) (finalMode mode (run config mode cs)) := by
  fun_induction run config mode cs with
  | case1 mode =>
    cases mode with
    | statement => exact .done
    | tagOpen => cases hmode rfl
    | attributes => exact .unclosed
  | case2 mode c cs ih =>
    rw [lexemes_cons, finalMode_cons]
    exact (branch_step config mode c cs).reads hmode (ih atTagStart_rest_of_tagOpen)

/-! ### Neighbours -/

/-- What can stand behind a lexeme: nothing behind a comment, no blanks behind blanks, and the sign
of an attribute only behind the name of one. -/
def MayFollow (l m : Lexeme) : Prop :=
  l.category ≠ .lineComment ∧ (l.category = .whitespace → m.category ≠ .whitespace) ∧
    (m.category = .attributeOperator → l.category = .attributeName ∧ m.chars = ['='])

theorem mayFollow_of_ne {l m : Lexeme} (hblank : l.category ≠ .whitespace)
    (hcomment : l.category ≠ .lineComment) (hm : m.category ≠ .attributeOperator) :
    MayFollow l m :=
  ⟨hcomment, fun h => absurd h hblank, fun h => absurd h hm⟩

theorem IsValue.mayFollow {l m : Lexeme} (hl : IsValue l) (hm : IsValue m) : MayFollow l m := by
  apply mayFollow_of_ne
  · rcases hl with h | h <;> simp [h]
  · rcases hl with h | h <;> simp [h]
  · rcases hm with h | h <;> simp [h]

theorem isChain_of_isValue {ls : List Lexeme} (h : ∀ l ∈ ls, IsValue l) : ls.IsChain MayFollow := by
  induction ls with
  | nil => exact .nil
  | cons l ls ih =>
    refine List.isChain_cons.2 ⟨fun m hm => ?_, ih fun m hm => h m (List.mem_cons_of_mem l hm)⟩
    have hmem : m ∈ ls := List.mem_of_mem_head? hm
    exact (h l List.mem_cons_self).mayFollow (h m (List.mem_cons_of_mem l hmem))

theorem Branch.isChain {config : Config} {mode : Mode} {c : Char} {cs : List Char} {s : Step}
    (hs : Branch config mode c cs s) : s.lexemes.IsChain MayFollow := by
  cases hs with
  | blanks => exact .singleton _
  | tagStart => exact .nil
  | comment => exact .singleton _
  | word => exact .singleton _
  | head =>
    simp only [tagOpenStep, lexeme?]
    split
    · exact .singleton _
    · exact .cons_cons (mayFollow_of_ne (by simp) (by simp) (nameCategory_ne _ _).2.2) (.singleton _)
  | close => exact .singleton _
  | named hname =>
    rcases assignment_cases config.unterminatedToEol.isOn (cs.dropWhile isAttributeNameChar) with
      hnone | ⟨ms, hsome, hms⟩
    · rw [hnone]
      exact .singleton _
    · rw [hsome]
      refine .cons_cons ⟨by simp, by simp, fun _ => ⟨rfl, rfl⟩⟩ ?_
      refine List.isChain_cons.2 ⟨fun m hm => mayFollow_of_ne (by simp) (by simp) ?_,
        isChain_of_isValue hms⟩
      rcases hms m (List.mem_of_mem_head? hm) with h | h <;> simp [h]
  | unnamed => exact isChain_of_isValue (isValue_value _ _ _)

theorem Branch.complete {config : Config} {mode : Mode} {c : Char} {cs : List Char} {s : Step}
    (hs : Branch config mode c cs s) : ∀ l ∈ s.lexemes,
      (l.category = .whitespace → ∀ d ∈ s.rest.head?, isBlank d = false) ∧
        (l.category = .lineComment → s.rest = []) := by
  intro l hl
  cases hs with
  | blanks hmode hblank =>
    rw [List.mem_singleton.1 hl]
    exact ⟨fun _ => head?_dropWhile_eq_false (c :: cs), by simp⟩
  | tagStart => cases hl
  | comment =>
    rw [List.mem_singleton.1 hl]
    simp
  | word =>
    rw [List.mem_singleton.1 hl]
    simp [wordCategory_ne]
  | head =>
    simp only [tagOpenStep, lexeme?, List.mem_cons] at hl
    rcases hl with rfl | hl
    · simp
    · split at hl
      · cases hl
      · rw [List.mem_singleton.1 hl]
        simp [nameCategory_ne]
  | close =>
    rw [List.mem_singleton.1 hl]
    simp
  | named hname =>
    rcases List.mem_cons.1 hl with rfl | hl
    · simp
    rcases assignment_cases config.unterminatedToEol.isOn (cs.dropWhile isAttributeNameChar) with
      hnone | ⟨ms, hsome, hms⟩
    · rw [hnone] at hl
      cases hl
    · rw [hsome] at hl
      rcases List.mem_cons.1 hl with rfl | hl
      · simp
      · rcases hms l hl with h | h <;> simp [h]
  | unnamed =>
    rcases isValue_value _ _ _ l hl with h | h <;> simp [h]

theorem first_lexeme_run (config : Config) (mode : Mode) (cs : List Char) :
    ∀ l ∈ (lexemes (run config mode cs)).head?, l.category ≠ .attributeOperator ∧
      (l.category = .whitespace → ∃ c ∈ cs.head?, isBlank c = true) := by
  fun_induction run config mode cs with
  | case1 mode => simp [lexemes]
  | case2 mode c cs ih =>
    rw [lexemes_cons]
    have hs := branch_step config mode c cs
    generalize step config mode c cs = s at hs ih
    intro l hl
    cases hs with
    | blanks hmode hblank =>
      obtain rfl : _ = l := by simpa using hl
      exact ⟨by simp, fun _ => ⟨c, rfl, hblank⟩⟩
    | tagStart => exact ih l hl
    | comment =>
      obtain rfl : _ = l := by simpa using hl
      simp
    | word =>
      obtain rfl : _ = l := by simpa using hl
      simp [wordCategory_ne]
    | head =>
      obtain rfl : _ = l := by simpa [tagOpenStep] using hl
      simp
    | close =>
      obtain rfl : _ = l := by simpa using hl
      simp
    | named =>
      obtain rfl : _ = l := by simpa using hl
      simp
    | unnamed =>
      have hne := value_ne_nil config.unterminatedToEol.isOn c cs
      rw [List.head?_append_of_ne_nil _ hne] at hl
      rcases isValue_value _ _ _ l (List.mem_of_mem_head? hl) with h | h <;> simp [h]

theorem isChain_lexemes_run (config : Config) (mode : Mode) (cs : List Char) :
    (lexemes (run config mode cs)).IsChain MayFollow := by
  fun_induction run config mode cs with
  | case1 mode => exact .nil
  | case2 mode c cs ih =>
    have hs := branch_step config mode c cs
    rw [lexemes_cons]
    -- the last lexeme of the step and the first one of the rest are neighbours too
    refine List.isChain_append.2 ⟨hs.isChain, ih, fun l hl m hm => ?_⟩
    obtain ⟨hblank, hcomment⟩ := hs.complete l (List.mem_of_mem_getLast? hl)
    obtain ⟨hoperator, hfirst⟩ := first_lexeme_run config _ _ m hm
    refine ⟨fun h => ?_, fun h hm => ?_, fun h => absurd h hoperator⟩
    · rw [hcomment h, run] at hm
      cases hm
    · obtain ⟨d, hd, hd'⟩ := hfirst hm
      rw [hblank h d hd] at hd'
      cases hd'

/-! ### The grammar -/

/-- What is true of the lexemes of every line and of the mode at its end. -/
structure Grammatical (ls : List Lexeme) (last : Mode) : Prop where
  reads : Reads .statement ls last
  alternate : Alternate true (brackets ls)
  /-- The sign of an attribute stands directly behind its name. -/
  operator : ∀ (before : List Lexeme) (l : Lexeme) (after : List Lexeme),
    ls = before ++ l :: after → l.category = .attributeOperator →
      l.chars = ['='] ∧ ∃ earlier name, before = earlier ++ [name] ∧ name.category = .attributeName
  /-- Blanks that stand together are one lexeme. -/
  blanks : ∀ (before : List Lexeme) (l m : Lexeme) (after : List Lexeme),
    ls = before ++ l :: m :: after → l.category = .whitespace → m.category ≠ .whitespace
  comment : ∀ (before : List Lexeme) (l : Lexeme) (after : List Lexeme),
    ls = before ++ l :: after → l.category = .lineComment → after = []
  /-- The line ends inside a tag exactly when the last tag is not closed. -/
  unclosed : last = .attributes ↔ EndsInTag ls
  closed : last = .statement ↔ ¬EndsInTag ls

theorem Reads.grammatical {ls : List Lexeme} {last : Mode} (h : Reads .statement ls last)
    (hchain : ls.IsChain MayFollow) (hfirst : ∀ l ∈ ls.head?, l.category ≠ .attributeOperator) :
    Grammatical ls last := by
  have hlast : last = .attributes ↔ EndsInTag ls := by
    simpa using h.last_eq_attributes_iff
  refine ⟨h, h.alternate, ?_, ?_, ?_, hlast, ?_⟩
  · rintro before l after rfl hl
    rcases List.eq_nil_or_concat before with rfl | ⟨earlier, name, rfl⟩
    · exact absurd hl (hfirst l rfl)
    · rw [List.concat_eq_append, List.append_assoc] at hchain
      obtain ⟨hname, hchars⟩ := (List.isChain_append_cons_cons.1 hchain).2.1.2.2 hl
      exact ⟨hchars, earlier, name, List.concat_eq_append, hname⟩
  · rintro before l m after rfl hl
    exact (List.isChain_append_cons_cons.1 hchain).2.1.2.1 hl
  · rintro before l after rfl hl
    cases after with
    | nil => rfl
    | cons m after => exact absurd hl (List.isChain_append_cons_cons.1 hchain).2.1.1
  · rw [← hlast]
    have hne := h.last_ne_tagOpen
    cases last <;> simp at hne ⊢

end Lexer

/-- **The tokens of every line are statement text and tags**, in the order and with the neighbours
that the grammar allows, and the mode in which the lexer ends tells whether a tag is left open. -/
theorem classifyLine_grammatical (config : Config) (line : String) (lineno : Option Int) :
    ∃ ts, classifyLine config line lineno = .ok ts ∧
      Lexer.Grammatical (ts.map Token.lexeme)
        (Lexer.finalMode .statement (Lexer.run config .statement line.toList)) := by
  refine ⟨_, classifyLine_eq config line lineno, ?_⟩
  rw [Lexer.tokens, Lexer.map_lexeme_place]
  have hreads := Lexer.reads_run config .statement line.toList (by simp)
  refine hreads.grammatical (Lexer.isChain_lexemes_run _ _ _) fun l hl => ?_
  exact (Lexer.first_lexeme_run _ _ _ l hl).1

end TagHighlight
