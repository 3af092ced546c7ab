import Mathlib.Data.List.Forall2
import TagHighlight.Proofs.Lexer.Recoloring

/-!
# Renaming the characters of a line

The lexer sees whether a character is blank, a letter or alphanumeric, and it knows thirteen
characters by name. A map of characters that keeps all this (`KeepsClasses`) can be applied to a line
without any boundary being moved: a step on the renamed line cuts off the renamed lexemes and leaves
the renamed rest, and goes on in the same mode. Only two things are looked up in tables, so only they
can get another category: a word outside all tags, and the name of a tag.

Inside a tag nothing is looked up, so the step on the renamed text is the renamed step
(`attributesStep_map`). The other two modes give `Renamed` lexemes, which tells where categories may
differ; a run puts them together.
-/

namespace TagHighlight

namespace Lexer

open TagHighlight.Text (apostrophe doubleQuote isQuote)
open TagHighlight.Unicode (isBlank isLetter isAlphanumeric)

/-- The characters that the lexer knows by name. -/
def marks : List Char :=
  ['<', '>', '/', '=', apostrophe, doubleQuote, '\x7b', '\x7d', '_', '-', ':', '$', '.']

/-- A map of characters that the lexer cannot notice, the tables apart. -/
structure KeepsClasses (f : Char → Char) : Prop where
  isBlank_eq : ∀ c, isBlank (f c) = isBlank c
  isLetter_eq : ∀ c, isLetter (f c) = isLetter c
  isAlphanumeric_eq : ∀ c, isAlphanumeric (f c) = isAlphanumeric c
  mark_eq : ∀ c ∈ marks, f c = c
  notMem_marks : ∀ c, c ∉ marks → f c ∉ marks

theorem keepsClasses_of_alike {a b : Char} (ha : a ∉ marks) (hb : b ∉ marks)
    (hblank : isBlank b = isBlank a) (hletter : isLetter b = isLetter a)
    (hnumber : isAlphanumeric b = isAlphanumeric a) :
    KeepsClasses fun c => if c = a then b else c := by
  constructor
  · intro c
    by_cases hc : c = a <;> simp [hc, hblank]
  · intro c
    by_cases hc : c = a <;> simp [hc, hletter]
  · intro c
    by_cases hc : c = a <;> simp [hc, hnumber]
  · intro c hmem
    have hne : c ≠ a := by
      rintro rfl
      exact ha hmem
    exact if_neg hne
  · intro c hmem
    by_cases hc : c = a
    · rwa [if_pos hc]
    · rwa [if_neg hc]

/-! ### Renamed parts -/

def Lexeme.rename (f : Char → Char) (l : Lexeme) : Lexeme := ⟨l.category, l.chars.map f⟩

def renameParts (f : Char → Char) (parts : List Lexeme × List Char) : List Lexeme × List Char :=
  (parts.1.map (Lexeme.rename f), parts.2.map f)

def Step.rename (f : Char → Char) (s : Step) : Step :=
  ⟨s.lexemes.map (Lexeme.rename f), s.mode, s.rest.map f⟩

theorem map_takeWhile {f : Char → Char} {p : Char → Bool} (hp : ∀ c, p (f c) = p c)
    (cs : List Char) :
    (cs.map f).takeWhile p = (cs.takeWhile p).map f ∧
      (cs.map f).dropWhile p = (cs.dropWhile p).map f := by
  have hcomp : p ∘ f = p := funext hp
  rw [List.takeWhile_map, List.dropWhile_map, hcomp]
  exact ⟨rfl, rfl⟩

theorem map_splitUntil {f : Char → Char} {stop : List Char → Bool}
    (hstop : ∀ cs : List Char, stop (cs.map f) = stop cs) (cs : List Char) :
    splitUntil stop (cs.map f) = ((splitUntil stop cs).1.map f, (splitUntil stop cs).2.map f) := by
  induction cs with
  | nil => rfl
  | cons c cs ih =>
    have hc := hstop (c :: cs)
    rw [List.map_cons] at hc
    rw [List.map_cons, splitUntil, splitUntil, hc, ih]
    by_cases h : stop (c :: cs) = true
    · rw [if_pos h, if_pos h]
      rfl
    · rw [if_neg h, if_neg h]
      rfl

namespace KeepsClasses

variable {f : Char → Char} (h : KeepsClasses f)
include h

theorem eq_mark_iff {m : Char} (hm : m ∈ marks) (c : Char) : f c = m ↔ c = m := by
  constructor
  · intro hc
    by_cases hmem : c ∈ marks
    · rw [← h.mark_eq c hmem, hc]
    · exact absurd (hc ▸ hm) (h.notMem_marks c hmem)
  · rintro rfl
    exact h.mark_eq c hm

theorem beq_mark {m : Char} (hm : m ∈ marks) (c : Char) : (f c == m) = (c == m) := by
  rw [Bool.eq_iff_iff, beq_iff_eq, beq_iff_eq, h.eq_mark_iff hm]

theorem mem_map_mark {m : Char} (hm : m ∈ marks) (cs : List Char) : m ∈ cs.map f ↔ m ∈ cs := by
  simp only [List.mem_map, h.eq_mark_iff hm, exists_eq_right]

theorem map_eq_self_of_isQuote {c : Char} (hc : isQuote c = true) : c ∈ marks ∧ f c = c := by
  have hmem : c ∈ marks := by rcases eq_of_isQuote hc with rfl | rfl <;> decide
  exact ⟨hmem, h.mark_eq c hmem⟩

/-! ### Tests -/

theorem isQuote_eq (c : Char) : isQuote (f c) = isQuote c := by
  simp (disch := decide) only [isQuote, h.beq_mark]

theorem isTagNameStart_eq (c : Char) : isTagNameStart (f c) = isTagNameStart c := by
  simp (disch := decide) only [isTagNameStart, h.isLetter_eq, h.beq_mark]

theorem isTagNameChar_eq (c : Char) : isTagNameChar (f c) = isTagNameChar c := by
  simp (disch := decide) only [isTagNameChar, h.isAlphanumeric_eq, h.beq_mark]

theorem isAttributeNameChar_eq (c : Char) : isAttributeNameChar (f c) = isAttributeNameChar c := by
  simp (disch := decide) only [isAttributeNameChar, h.isAlphanumeric_eq, h.beq_mark]

theorem head?_map_eq_mark {m : Char} (hm : m ∈ marks) (cs : List Char) :
    (cs.map f).head? = some m ↔ cs.head? = some m := by
  cases cs with
  | nil => simp
  | cons c cs => simp [h.eq_mark_iff hm]

theorem atTagStart_map (cs : List Char) : atTagStart (cs.map f) = atTagStart cs := by
  match cs with
  | [] => rfl
  | [c] => rfl
  | c :: d :: cs =>
    simp (disch := decide) only [List.map_cons, atTagStart, h.isTagNameStart_eq, h.beq_mark]

theorem atTagClose_map (cs : List Char) : atTagClose (cs.map f) = atTagClose cs := by
  cases cs with
  | nil => rfl
  | cons c cs =>
    rw [List.map_cons, Bool.eq_iff_iff, atTagClose_cons, atTagClose_cons,
      h.eq_mark_iff (by decide), h.eq_mark_iff (by decide), h.head?_map_eq_mark (by decide)]

theorem atComment_map (cs : List Char) : atComment (cs.map f) = atComment cs := by
  match cs with
  | [] => rfl
  | [c] => rfl
  | c :: d :: cs => simp (disch := decide) only [List.map_cons, atComment, h.beq_mark]

theorem endsWord_map (cs : List Char) : endsWord (cs.map f) = endsWord cs := by
  cases cs with
  | nil => rfl
  | cons c cs =>
    have htag := h.atTagStart_map (c :: cs)
    rw [List.map_cons] at htag
    rw [List.map_cons, endsWord, endsWord, h.isBlank_eq, htag]

theorem endsChunk_map (cs : List Char) : endsChunk (cs.map f) = endsChunk cs := by
  cases cs with
  | nil => rfl
  | cons c cs =>
    have hclose := h.atTagClose_map (c :: cs)
    rw [List.map_cons] at hclose
    rw [List.map_cons, endsChunk, endsChunk, h.isBlank_eq, hclose]

/-! ### Cuts -/

theorem word_map (c : Char) (cs : List Char) :
    word (f c) (cs.map f) = ((word c cs).1.map f, (word c cs).2.map f) := by
  rw [word, word, map_splitUntil h.endsWord_map]
  rfl

theorem chunk_map (c : Char) (cs : List Char) :
    chunk (f c) (cs.map f) = ((chunk c cs).1.map f, (chunk c cs).2.map f) := by
  rw [chunk, chunk, map_splitUntil h.endsChunk_map]
  rfl

theorem blankRun_map (cs : List Char) :
    blankRun (cs.map f) = ((blankRun cs).1.map f, (blankRun cs).2.map f) := by
  obtain ⟨htake, hdrop⟩ := map_takeWhile h.isBlank_eq cs
  rw [blankRun, htake, hdrop]
  rfl

theorem openingBracket_map (c : Char) (cs : List Char) :
    openingBracket (f c) (cs.map f) =
      ((openingBracket c cs).1.map f, (openingBracket c cs).2.map f) := by
  cases cs with
  | nil => rfl
  | cons d cs =>
    rw [List.map_cons]
    by_cases hd : d = '/'
    · have hslash : f '/' = '/' := h.mark_eq '/' (by decide)
      rw [hd, hslash]
      show ([f c, '/'], cs.map f) = ([f c, f '/'], cs.map f)
      rw [hslash]
    · have hfd : f d ≠ '/' := fun he => hd ((h.eq_mark_iff (by decide) d).1 he)
      rw [openingBracket_of_ne hd, openingBracket_of_ne hfd]
      rfl

theorem closingBracket_map (c : Char) (cs : List Char) :
    closingBracket (f c) (cs.map f) =
      ((closingBracket c cs).1.map f, (closingBracket c cs).2.map f) := by
  simp only [closingBracket, h.eq_mark_iff (show '>' ∈ marks by decide)]
  by_cases hc : c = '>'
  · rw [if_pos hc, if_pos hc]
    rfl
  · rw [if_neg hc, if_neg hc, ← List.map_take, ← List.map_drop]
    rfl

theorem throughQuote_map {quote : Char} (hquote : quote ∈ marks) (cs : List Char) :
    throughQuote quote (cs.map f) =
      (throughQuote quote cs).map fun parts => (parts.1.map f, parts.2.map f) := by
  induction cs with
  | nil => rfl
  | cons c cs ih =>
    simp only [List.map_cons, throughQuote, ih, h.eq_mark_iff hquote]
    by_cases hc : c = quote
    · rw [if_pos hc, if_pos hc]
      rfl
    · rw [if_neg hc, if_neg hc, Option.map_map, Option.map_map]
      rfl

theorem throughBrace_map (cs : List Char) (depth : Int) (within : Option Char)
    (hwithin : ∀ quote ∈ within, quote ∈ marks) :
    throughBrace depth within (cs.map f) =
      ((throughBrace depth within cs).1.map f, (throughBrace depth within cs).2.map f) := by
  have hfirst (c : Char) (parts : List Char × List Char) :
      consFirst (f c) (parts.1.map f, parts.2.map f) =
        ((consFirst c parts).1.map f, (consFirst c parts).2.map f) := rfl
  have hnone : ∀ quote ∈ (none : Option Char), quote ∈ marks := by simp
  induction cs generalizing depth within with
  | nil => cases within <;> rfl
  | cons c cs ih =>
    cases within with
    | some quote =>
      have hquote := hwithin quote rfl
      have hnext : ∀ q ∈ (if c = quote then none else some quote), q ∈ marks := by
        intro q hq
        by_cases hc : c = quote
        · rw [if_pos hc] at hq
          cases hq
        · rw [if_neg hc] at hq
          exact hwithin q hq
      simp only [List.map_cons, throughBrace, h.eq_mark_iff hquote, ih _ _ hnext, hfirst]
    | none =>
      simp (disch := decide) only [List.map_cons, throughBrace, h.eq_mark_iff, h.isQuote_eq]
      by_cases hopen : c = '\x7b'
      · rw [if_pos hopen, if_pos hopen, ih _ _ hnone, hfirst]
      by_cases hclose : c = '\x7d'
      · rw [if_neg hopen, if_neg hopen, if_pos hclose, if_pos hclose]
        by_cases hone : depth = 1
        · rw [if_pos hone, if_pos hone]
          rfl
        · rw [if_neg hone, if_neg hone, ih _ _ hnone, hfirst]
      rw [if_neg hopen, if_neg hopen, if_neg hclose, if_neg hclose]
      by_cases hquote : isQuote c = true
      · obtain ⟨hmem, hself⟩ := h.map_eq_self_of_isQuote hquote
        have hcontains : (cs.map f).contains c = cs.contains c := by
          rw [Bool.eq_iff_iff, List.contains_iff_mem, List.contains_iff_mem, h.mem_map_mark hmem]
        have hcovered : ∀ q ∈ some c, q ∈ marks := by
          rintro q ⟨⟩
          exact hmem
        rw [hself, hcontains, ih _ _ hcovered, ih _ _ hnone]
        have hfirst' := hfirst c
        rw [hself] at hfirst'
        by_cases hrecurs : (isQuote c && cs.contains c) = true
        · rw [if_pos hrecurs, if_pos hrecurs, hfirst']
        · rw [if_neg hrecurs, if_neg hrecurs, hfirst']
      · rw [Bool.eq_false_iff.2 hquote, Bool.false_and, Bool.false_and, if_neg Bool.false_ne_true,
          if_neg Bool.false_ne_true, ih _ _ hnone, hfirst]

/-! ### Inside a tag -/

theorem chunkTail_map (cs : List Char) :
    chunkTail (cs.map f) = renameParts f (chunkTail cs) := by
  cases cs with
  | nil => rfl
  | cons c cs =>
    have hends := h.endsChunk_map (c :: cs)
    rw [List.map_cons] at hends
    rw [List.map_cons, chunkTail, chunkTail, hends, h.chunk_map]
    by_cases hc : endsChunk (c :: cs) = true
    · rw [if_pos hc, if_pos hc]
      rfl
    · rw [if_neg hc, if_neg hc]
      rfl

theorem value_map (toEol : Bool) (c : Char) (cs : List Char) :
    value toEol (f c) (cs.map f) = renameParts f (value toEol c cs) := by
  unfold value
  rw [h.isQuote_eq]
  by_cases hquote : isQuote c = true
  · obtain ⟨hmem, hself⟩ := h.map_eq_self_of_isQuote hquote
    rw [if_pos hquote, if_pos hquote, hself, h.throughQuote_map hmem]
    cases throughQuote c cs with
    | some parts =>
      simp only [Option.map_some, h.chunkTail_map]
      simp [renameParts, Lexeme.rename, hself]
    | none =>
      cases toEol <;> simp [renameParts, Lexeme.rename, hself]
  rw [if_neg hquote, if_neg hquote]
  simp only [h.eq_mark_iff (show '\x7b' ∈ marks by decide)]
  by_cases hopen : c = '\x7b'
  · have hbraced := h.throughBrace_map (c :: cs) 0 none (by simp)
    rw [if_pos hopen, if_pos hopen, braced, ← List.map_cons, hbraced]
    simp only [h.chunkTail_map]
    rfl
  · rw [if_neg hopen, if_neg hopen, h.chunk_map]
    rfl

theorem attributeValue_map (toEol : Bool) (cs : List Char) :
    attributeValue toEol (cs.map f) = renameParts f (attributeValue toEol cs) := by
  cases cs with
  | nil => rfl
  | cons c cs =>
    have hends := h.endsChunk_map (c :: cs)
    rw [List.map_cons] at hends
    rw [List.map_cons, attributeValue, attributeValue, hends, h.value_map]
    by_cases hc : endsChunk (c :: cs) = true
    · rw [if_pos hc, if_pos hc]
      rfl
    · rw [if_neg hc, if_neg hc]

theorem assignment_map (toEol : Bool) (cs : List Char) :
    assignment toEol (cs.map f) = renameParts f (assignment toEol cs) := by
  have hsign : f '=' = '=' := h.mark_eq '=' (by decide)
  by_cases hcs : ∃ ds, cs = '=' :: ds
  · obtain ⟨ds, rfl⟩ := hcs
    rw [List.map_cons, hsign, assignment, assignment, h.attributeValue_map]
    simp [renameParts, Lexeme.rename, hsign]
  · have hnone := not_exists.1 hcs
    have hnone' : ∀ ds, cs.map f ≠ '=' :: ds := by
      intro ds he
      have hhead : (cs.map f).head? = some '=' := by rw [he]; rfl
      obtain ⟨es, hes⟩ := List.head?_eq_some_iff.1 ((h.head?_map_eq_mark (by decide) cs).1 hhead)
      exact hnone es hes
    rw [assignment_of_ne toEol hnone, assignment_of_ne toEol hnone']
    rfl

theorem attributesStep_map (toEol : Bool) (c : Char) (cs : List Char) :
    attributesStep toEol (f c) (cs.map f) = (attributesStep toEol c cs).rename f := by
  have hclose := h.atTagClose_map (c :: cs)
  have hblanks := h.blankRun_map (c :: cs)
  rw [List.map_cons] at hclose hblanks
  unfold attributesStep
  rw [h.isBlank_eq, hclose, hblanks, h.isAttributeNameChar_eq, h.closingBracket_map, h.value_map]
  by_cases hblank : isBlank c = true
  · rw [if_pos hblank, if_pos hblank]
    rfl
  by_cases hends : atTagClose (c :: cs) = true
  · rw [if_neg hblank, if_neg hblank, if_pos hends, if_pos hends]
    rfl
  rw [if_neg hblank, if_neg hblank, if_neg hends, if_neg hends]
  by_cases hname : isAttributeNameChar c = true
  · obtain ⟨htake, hdrop⟩ := map_takeWhile h.isAttributeNameChar_eq cs
    simp only [if_pos hname, htake, hdrop, h.assignment_map]
    rfl
  · rw [if_neg hname, if_neg hname]
    rfl

end KeepsClasses

/-! ### Categories that can change -/

/-- Behind these lexemes both categories are for the tables to give: to a word outside all tags, or to
the name of a tag. -/
def TablesDecide (before : List Lexeme) (c d : Category) : Prop :=
  (c.isWord = true ∧ d.isWord = true ∧ ¬EndsInTag before) ∨
    (c.isName = true ∧ d.isName = true ∧ ∃ b ∈ before.getLast?, b.Opens)

/-- Two lists of lexemes behind others: the second one has the renamed texts, and other categories only
where the tables decide. -/
inductive Renamed (f : Char → Char) : List Lexeme → List Lexeme → List Lexeme → Prop
  | nil (before : List Lexeme) : Renamed f before [] []
  | cons {before ls ms : List Lexeme} {l m : Lexeme} (hchars : m.chars = l.chars.map f)
      (hcategory : l.category = m.category ∨ TablesDecide before l.category m.category)
      (hs : Renamed f (before ++ [l]) ls ms) : Renamed f before (l :: ls) (m :: ms)

namespace Renamed

variable {f : Char → Char} {before ls ms : List Lexeme}

theorem rename (before ls : List Lexeme) : Renamed f before ls (ls.map (Lexeme.rename f)) := by
  induction ls generalizing before with
  | nil => exact .nil before
  | cons l ls ih => exact .cons rfl (.inl rfl) (ih _)

theorem lexeme? {config : Config} (cs : List Char) (h : ∃ b ∈ before.getLast?, b.Opens) :
    Renamed f before (lexeme? (nameCategory config) cs)
      (lexeme? (nameCategory config) (cs.map f)) := by
  cases cs with
  | nil => exact .nil before
  | cons c cs =>
    have hname : TablesDecide before (nameCategory config (c :: cs))
        (nameCategory config ((c :: cs).map f)) :=
      .inr ⟨isName_nameCategory _ _, isName_nameCategory _ _, h⟩
    exact .cons rfl (.inr hname) (.nil _)

theorem append {ls' ms' : List Lexeme} (h : Renamed f before ls ms)
    (h' : Renamed f (before ++ ls) ls' ms') : Renamed f before (ls ++ ls') (ms ++ ms') := by
  induction h with
  | nil before =>
    rw [List.append_nil] at h'
    exact h'
  | cons hchars hcategory hs ih =>
    apply cons hchars hcategory (ih _)
    rwa [List.append_assoc]

theorem category (h : Renamed f before ls ms) {i : Nat} {l m : Lexeme} (hl : ls[i]? = some l)
    (hm : ms[i]? = some m) :
    l.category = m.category ∨ TablesDecide (before ++ ls.take i) l.category m.category := by
  induction h generalizing i with
  | nil before => cases hl
  | @cons before ls ms l' m' hchars hcategory hs ih =>
    cases i with
    | zero =>
      obtain rfl := Option.some.inj hl
      obtain rfl := Option.some.inj hm
      rwa [List.take_zero, List.append_nil]
    | succ i =>
      have hrest := ih hl hm
      rwa [List.append_assoc] at hrest

theorem place (h : Renamed f before ls ms) (col : Nat) :
    List.Forall₂ (fun t u : Token => u.col = t.col ∧ u.text.length = t.text.length ∧
      u.text = t.text.map f) (place col ls) (place col ms) := by
  induction h generalizing col with
  | nil before => exact .nil
  | @cons before ls ms l m hchars hcategory hs ih =>
    have htext : String.ofList m.chars = (String.ofList l.chars).map f := by
      rw [← String.toList_inj, String.toList_map, String.toList_ofList, String.toList_ofList, hchars]
    have hlen : m.chars.length = l.chars.length := by rw [hchars, List.length_map]
    rw [Lexer.place, Lexer.place, hlen]
    refine .cons ⟨rfl, ?_, htext⟩ (ih _)
    simp [hlen]

end Renamed

/-! ### Steps and runs -/

section
variable {f : Char → Char} {before : List Lexeme} {mode : Mode}

theorem renamed_step (h : KeepsClasses f) (config : Config) (hbefore : Leads before mode) (c : Char)
    (cs : List Char) (htag : mode = .tagOpen → atTagStart (c :: cs) = true) :
    Renamed f before (step config mode c cs).lexemes (step config mode (f c) (cs.map f)).lexemes ∧
      (step config mode (f c) (cs.map f)).mode = (step config mode c cs).mode ∧
      (step config mode (f c) (cs.map f)).rest = (step config mode c cs).rest.map f := by
  cases mode with
  | statement =>
    have hstart := h.atTagStart_map (c :: cs)
    have hcomment := h.atComment_map (c :: cs)
    have hblanks := h.blankRun_map (c :: cs)
    rw [List.map_cons] at hstart hcomment hblanks
    simp only [step, statementStep, h.isBlank_eq, hstart, hcomment, hblanks, h.word_map]
    by_cases hblank : isBlank c = true
    · rw [if_pos hblank, if_pos hblank]
      exact ⟨.rename _ [_], rfl, rfl⟩
    by_cases hopens : atTagStart (c :: cs) = true
    · rw [if_neg hblank, if_neg hblank, if_pos hopens, if_pos hopens]
      exact ⟨.nil _, rfl, rfl⟩
    by_cases hends : atComment (c :: cs) = true
    · rw [if_neg hblank, if_neg hblank, if_neg hopens, if_neg hopens, if_pos hends, if_pos hends]
      exact ⟨.rename _ [_], rfl, rfl⟩
    · rw [if_neg hblank, if_neg hblank, if_neg hopens, if_neg hopens, if_neg hends, if_neg hends]
      have hword : TablesDecide before (wordCategory config (word c cs).1)
          (wordCategory config ((word c cs).1.map f)) :=
        .inl ⟨isWord_wordCategory _ _, isWord_wordCategory _ _, hbefore.not_endsInTag⟩
      exact ⟨.cons rfl (.inr hword) (.nil _), rfl, rfl⟩
  | tagOpen =>
    have hopens := opens_openingBracket (htag rfl)
    obtain ⟨htake, hdrop⟩ := map_takeWhile h.isTagNameChar_eq (openingBracket c cs).2
    simp only [step, tagOpenStep, h.openingBracket_map, htake, hdrop]
    refine ⟨.cons rfl (.inl rfl) ?_, trivial, trivial⟩
    exact .lexeme? _ ⟨_, List.getLast?_concat, hopens⟩
  | attributes =>
    have hstep : step config .attributes (f c) (cs.map f) =
        (step config .attributes c cs).rename f := h.attributesStep_map _ c cs
    rw [hstep]
    exact ⟨.rename _ _, rfl, rfl⟩

theorem renamed_run (h : KeepsClasses f) (config : Config) (hbefore : Leads before mode)
    (cs : List Char) (htag : mode = .tagOpen → atTagStart cs = true) :
    Renamed f before (lexemes (run config mode cs)) (lexemes (run config mode (cs.map f))) ∧
      finalMode mode (run config mode (cs.map f)) = finalMode mode (run config mode cs) := by
  fun_induction run config mode cs generalizing before with
  | case1 mode =>
    rw [List.map_nil, run]
    exact ⟨.nil _, rfl⟩
  | case2 mode c cs ih =>
    obtain ⟨hlexemes, hmode, hrest⟩ := renamed_step h config hbefore c cs htag
    obtain ⟨hafter, hfinal⟩ := ih (hbefore.step config htag) atTagStart_rest_of_tagOpen
    have hrun : run config mode (f c :: cs.map f) = step config mode (f c) (cs.map f) ::
        run config (step config mode c cs).mode ((step config mode c cs).rest.map f) := by
      rw [run, hmode, hrest]
    rw [List.map_cons, hrun, lexemes_cons, lexemes_cons, finalMode_cons, finalMode_cons, hmode]
    exact ⟨hlexemes.append hafter, hfinal⟩

end

end Lexer

open Lexer

/-- **Renaming moves no boundary.** Characters can be renamed all over a line as long as the lexer
cannot tell their classes apart. Then the tokens have the same columns and lengths, their texts are
the renamed ones, and the lexer ends in the same mode. Two tokens differ in category only if they are
a word outside all tags or the name of a tag. -/
theorem renaming_moves_no_boundary {f : Char → Char} (h : KeepsClasses f) (config : Config)
    (line : String) (lineno : Option Int) :
    ∃ ts us, classifyLine config line lineno = .ok ts ∧
      classifyLine config (line.map f) lineno = .ok us ∧
      List.Forall₂ (fun t u : Token => u.col = t.col ∧ u.text.length = t.text.length ∧
        u.text = t.text.map f) ts us ∧
      finalMode .statement (run config .statement (line.map f).toList) =
        finalMode .statement (run config .statement line.toList) ∧
      ∀ i t u, ts[i]? = some t → us[i]? = some u →
        t.category = u.category ∨
          TablesDecide ((ts.take i).map Token.lexeme) t.category u.category := by
  obtain ⟨hrenamed, hfinal⟩ := renamed_run h config leads_nil line.toList nofun
  rw [← String.toList_map] at hrenamed hfinal
  refine ⟨_, _, classifyLine_eq config line lineno, classifyLine_eq config (line.map f) lineno,
    hrenamed.place 0, hfinal, fun i t u ht hu => ?_⟩
  have hcategory := hrenamed.category (getElem?_place ht) (getElem?_place hu)
  rwa [List.nil_append, ← map_lexeme_place 0 (lexemes (run config .statement line.toList)),
    ← List.map_take] at hcategory

/-- One letter of names, words and a quoted text becomes another one. -/
theorem renaming_moves_no_boundary_from_a_to_b :
    let f : Char → Char := fun c => if c = 'a' then 'b' else c
    KeepsClasses f ∧ ∃ ts us : List Token,
      classifyLine .default "let a = <aa a='a'/>" none = .ok ts ∧
      classifyLine .default "let b = <bb b='b'/>" none = .ok us ∧
      List.Forall₂ (fun t u : Token => u.col = t.col ∧ u.text.length = t.text.length ∧
        u.text = t.text.map f) ts us := by
  intro f
  have hf : KeepsClasses f := keepsClasses_of_alike (by decide) (by decide) (by decide) (by decide)
    (by decide +kernel)
  have hline : "let a = <aa a='a'/>".map f = "let b = <bb b='b'/>" := by
    rw [← String.toList_inj, String.toList_map]
    decide
  obtain ⟨ts, us, hts, hus, htokens, -⟩ :=
    renaming_moves_no_boundary hf .default "let a = <aa a='a'/>" none
  rw [hline] at hus
  exact ⟨hf, ts, us, hts, hus, htokens⟩

end TagHighlight
