import TagHighlight.Proofs.Lexer.Delimited
import TagHighlight.Proofs.Lexer.Recoloring
import TagHighlight.Proofs.Lexer.StepBound

/-!
# Lexemes in their line

A step sees what is left of a line and its mode, and nothing of what it has read. `Behind before mode
cs` is what holds all the same when the lexer stands in a mode behind some lexemes, with `cs` left: it
is inside a tag exactly when the last bracket has opened one, and no run of blanks reaches across its
place. Every step keeps this (`Behind.step`). So whatever holds of a lexeme of a step between what
stands on its left and on its right holds of every lexeme of a line (`forall_lexemes_run`), and
whether a lexeme stands in a tag tells the mode of its step (`Behind.mode_eq_statement`,
`Behind.mode_eq_attributes`).
-/

namespace TagHighlight

/-- The token stands in the line between two texts. -/
structure Token.Within (t : Token) (line : String) (left right : List Char) : Prop where
  text : left ++ (t.text.toList ++ right) = line.toList
  col : t.col = left.length

namespace Lexer

open TagHighlight.Text (isQuote)
open TagHighlight.Unicode (isBlank)

/-! ### Runs of blanks -/

/-- The stretch between two texts is a run of a class, and goes no further on either side. -/
structure IsMaximalRun (p : Char → Bool) (left cs right : List Char) : Prop where
  ne_nil : cs ≠ []
  all : ∀ c ∈ cs, p c = true
  left : ∀ c ∈ left.getLast?, p c = false
  right : ∀ c ∈ right.head?, p c = false

/-- No run of blanks reaches from one text into the other. -/
def Parted (left right : List Char) : Prop :=
  ∀ c ∈ left.getLast?, ∀ d ∈ right.head?, isBlank d = true → isBlank c = false

theorem parted_nil (right : List Char) : Parted [] right := by
  intro c hc
  cases hc

theorem parted_of_rest_nil (left : List Char) : Parted left [] := by
  intro c _ d hd
  cases hd

theorem parted_of_forall {left : List Char} (h : ∀ c ∈ left, isBlank c = false)
    (right : List Char) : Parted left right :=
  fun c hc _ _ _ => h c (List.mem_of_getLast? hc)

theorem Parted.append_of_ne_nil {left right : List Char} (h : Parted left right) (hne : left ≠ [])
    (before : List Char) : Parted (before ++ left) right := by
  intro c hc
  rw [List.getLast?_append_of_ne_nil _ hne] at hc
  exact h c hc

theorem isMaximalRun_blankRun {left : List Char} {c : Char} {cs : List Char}
    (hblank : isBlank c = true) (hleft : Parted left (c :: cs)) :
    IsMaximalRun isBlank left (blankRun (c :: cs)).1 (blankRun (c :: cs)).2 where
  ne_nil := blankRun_ne_nil cs hblank
  all := List.all_eq_true.1 List.all_takeWhile
  left d hd := hleft d hd c rfl hblank
  right := head?_dropWhile_eq_false (c :: cs)

/-! ### Ends of pieces -/

theorem isBlank_eq_false_of_endsWord {c : Char} {cs : List Char} (h : endsWord (c :: cs) = false) :
    isBlank c = false := by
  rw [endsWord, Bool.or_eq_false_iff] at h
  exact h.1

theorem isBlank_eq_false_of_endsChunk {c : Char} {cs : List Char}
    (h : endsChunk (c :: cs) = false) : isBlank c = false := by
  rw [endsChunk, Bool.or_eq_false_iff] at h
  exact h.1

theorem exists_stop_of_mem_splitUntil {stop : List Char → Bool} {cs : List Char} {c : Char}
    (h : c ∈ (splitUntil stop cs).1) : ∃ rest, stop (c :: rest) = false := by
  obtain ⟨before, after, hsplit⟩ := List.append_of_mem h
  have hsuffix : c :: after <:+ (splitUntil stop cs).1 := ⟨before, hsplit.symm⟩
  exact ⟨_, stop_of_suffix_splitUntil hsuffix (List.cons_ne_nil c after)⟩

theorem isBlank_eq_false_of_mem_word {c : Char} {cs : List Char} (hc : isBlank c = false) :
    ∀ d ∈ (word c cs).1, isBlank d = false := by
  intro d hd
  rcases List.mem_cons.1 hd with rfl | hd
  · exact hc
  · obtain ⟨rest, hrest⟩ := exists_stop_of_mem_splitUntil hd
    exact isBlank_eq_false_of_endsWord hrest

theorem endsChunk_of_mem_chunk {c : Char} {cs : List Char} (hc : endsChunk (c :: cs) = false) :
    ∀ d ∈ (chunk c cs).1, ∃ rest, endsChunk (d :: rest) = false := by
  intro d hd
  rcases List.mem_cons.1 hd with rfl | hd
  · exact ⟨cs, hc⟩
  · exact exists_stop_of_mem_splitUntil hd

theorem parted_chunk {c : Char} {cs : List Char} (hc : endsChunk (c :: cs) = false) :
    Parted (chunk c cs).1 (chunk c cs).2 := by
  apply parted_of_forall
  intro d hd
  obtain ⟨rest, hrest⟩ := endsChunk_of_mem_chunk hc d hd
  exact isBlank_eq_false_of_endsChunk hrest

theorem Parted.chunkTail {left cs : List Char} (h : Parted left cs) :
    Parted (left ++ textOf (chunkTail cs).1) (chunkTail cs).2 := by
  cases cs with
  | nil => exact parted_of_rest_nil _
  | cons c cs =>
    by_cases hends : endsChunk (c :: cs) = true
    · rw [Lexer.chunkTail, if_pos hends, textOf_nil, List.append_nil]
      exact h
    · rw [Lexer.chunkTail, if_neg hends, textOf_cons, textOf_nil, List.append_nil]
      exact (parted_chunk (Bool.eq_false_iff.2 hends)).append_of_ne_nil (List.cons_ne_nil _ _) left

theorem getLast?_throughBrace (depth : Int) (within : Option Char) (cs : List Char)
    (hrest : (throughBrace depth within cs).2 ≠ []) :
    (throughBrace depth within cs).1.getLast? = some '\x7d' := by
  have hcons (c : Char) (parts : List Char × List Char)
      (h : parts.1.getLast? = some '\x7d') : (consFirst c parts).1.getLast? = some '\x7d' := by
    rw [consFirst, List.getLast?_cons, h, Option.getD_some]
  fun_induction throughBrace depth within cs with
  | case1 => exact absurd rfl hrest
  | case2 depth c cs quote ih => exact hcons c _ (ih hrest)
  | case3 depth cs ih => exact hcons _ _ (ih hrest)
  | case4 => rfl
  | case5 depth cs hne hdepth ih => exact hcons _ _ (ih hrest)
  | case6 depth c cs hopen hclose hquote ih => exact hcons c _ (ih hrest)
  | case7 depth c cs hopen hclose hquote ih => exact hcons c _ (ih hrest)

theorem parted_braced (cs : List Char) : Parted (braced cs).1 (braced cs).2 := by
  by_cases hrest : (braced cs).2 = []
  · rw [hrest]
    exact parted_of_rest_nil _
  · intro c hc
    rw [braced, getLast?_throughBrace 0 none cs hrest] at hc
    cases hc
    exact fun _ _ _ => rfl

theorem isBlank_eq_false_of_isQuote {c : Char} (h : isQuote c = true) : isBlank c = false := by
  rcases eq_of_isQuote h with rfl | rfl <;> rfl

theorem parted_value (toEol : Bool) {c : Char} {cs : List Char} (hends : endsChunk (c :: cs) = false) :
    Parted (textOf (value toEol c cs).1) (value toEol c cs).2 := by
  unfold value
  by_cases hquote : isQuote c = true
  · have hblank := isBlank_eq_false_of_isQuote hquote
    rw [if_pos hquote]
    cases hthrough : throughQuote c cs with
    | some parts =>
      obtain ⟨inside, rest⟩ := parts
      obtain ⟨w, _, rfl⟩ := throughQuote_eq_some hthrough
      have hclosed : Parted (c :: (w ++ [c])) rest := by
        intro d hd
        rw [← List.cons_append, List.getLast?_concat] at hd
        cases hd
        exact fun _ _ _ => hblank
      exact hclosed.chunkTail
    | none =>
      cases toEol with
      | true => exact parted_of_rest_nil _
      | false =>
        apply parted_of_forall
        intro d hd
        obtain rfl : d = c := by simpa using hd
        exact hblank
  · rw [if_neg hquote]
    by_cases hopen : c = '\x7b'
    · rw [if_pos hopen]
      exact (parted_braced (c :: cs)).chunkTail
    · rw [if_neg hopen, textOf_cons, textOf_nil, List.append_nil]
      exact parted_chunk hends

theorem textOf_ne_nil {ls : List Lexeme} (hsolid : Solid ls) (hls : ls ≠ []) : textOf ls ≠ [] :=
  List.length_pos_iff.1 (length_textOf_pos hsolid hls)

theorem Parted.attributeValue {left cs : List Char} (h : Parted left cs) (toEol : Bool) :
    Parted (left ++ textOf (attributeValue toEol cs).1) (attributeValue toEol cs).2 := by
  cases cs with
  | nil => exact parted_of_rest_nil _
  | cons c cs =>
    by_cases hends : endsChunk (c :: cs) = true
    · rw [Lexer.attributeValue, if_pos hends, textOf_nil, List.append_nil]
      exact h
    · have hne := textOf_ne_nil (solid_value toEol c cs) (value_ne_nil toEol c cs)
      rw [Lexer.attributeValue, if_neg hends]
      exact (parted_value toEol (Bool.eq_false_iff.2 hends)).append_of_ne_nil hne left

theorem Parted.assignment {left cs : List Char} (h : Parted left cs) (toEol : Bool) :
    Parted (left ++ textOf (assignment toEol cs).1) (assignment toEol cs).2 := by
  by_cases hsign : ∃ ds, cs = '=' :: ds
  · obtain ⟨ds, rfl⟩ := hsign
    have hequals : Parted (left ++ ['=']) ds := by
      intro c hc
      rw [List.getLast?_concat] at hc
      cases hc
      exact fun _ _ _ => rfl
    have hvalue := hequals.attributeValue toEol
    rwa [List.append_assoc] at hvalue
  · rw [assignment_of_ne toEol (not_exists.1 hsign), textOf_nil, List.append_nil]
    exact h

theorem isBlank_eq_false_of_isTagNameChar {c : Char} (h : isTagNameChar c = true) :
    isBlank c = false := by
  refine Bool.eq_false_iff.2 fun hb => ?_
  rw [isTagNameChar_eq_false_of_isBlank hb] at h
  cases h

theorem isBlank_eq_false_of_mem_head (config : Config) {c : Char} {cs : List Char}
    (h : atTagStart (c :: cs) = true) :
    ∀ d ∈ textOf (tagOpenStep config c cs).lexemes, isBlank d = false := by
  intro d hd
  rw [tagOpenStep, textOf_cons, textOf_lexeme?, List.mem_append] at hd
  rcases hd with hd | hd
  · have hopens : (openingBracket c cs).1 = ['<'] ∨ (openingBracket c cs).1 = ['<', '/'] :=
      (opens_openingBracket h).2
    rcases hopens with hbracket | hbracket
    · obtain rfl : d = '<' := by simpa [hbracket] using hd
      rfl
    · obtain rfl | rfl : d = '<' ∨ d = '/' := by simpa [hbracket] using hd
      · rfl
      · rfl
  · exact isBlank_eq_false_of_isTagNameChar (List.all_eq_true.1 List.all_takeWhile d hd)

theorem Branch.parted {config : Config} {mode : Mode} {c : Char} {cs : List Char} {s : Step}
    (hs : Branch config mode c cs s) (hmode : mode = .tagOpen → atTagStart (c :: cs) = true) :
    Parted (textOf s.lexemes) s.rest := by
  cases hs with
  | blanks hne hblank =>
    intro d _ e he hblank'
    rw [head?_dropWhile_eq_false (c :: cs) e he] at hblank'
    cases hblank'
  | tagStart htag => exact parted_nil _
  | comment hblank hcomment => exact parted_of_rest_nil _
  | word hblank htag hcomment =>
    rw [textOf_cons, textOf_nil, List.append_nil]
    exact parted_of_forall (isBlank_eq_false_of_mem_word hblank) _
  | head => exact parted_of_forall (isBlank_eq_false_of_mem_head config (hmode rfl)) _
  | close hclose =>
    apply parted_of_forall
    intro d hd
    rw [textOf_cons, textOf_nil, List.append_nil] at hd
    have hcloses : (closingBracket c cs).1 = ['>'] ∨ (closingBracket c cs).1 = ['/', '>'] :=
      (closes_closingBracket hclose).2
    rcases hcloses with hbracket | hbracket
    · obtain rfl : d = '>' := by simpa [hbracket] using hd
      rfl
    · obtain rfl | rfl : d = '/' ∨ d = '>' := by simpa [hbracket] using hd
      · rfl
      · rfl
  | named hname =>
    have hparted : Parted (c :: cs.takeWhile isAttributeNameChar)
        (cs.dropWhile isAttributeNameChar) := by
      apply parted_of_forall
      intro d hd
      rcases List.mem_cons.1 hd with rfl | hd
      · exact isBlank_eq_false_of_isAttributeNameChar hname
      · exact isBlank_eq_false_of_isAttributeNameChar (List.all_eq_true.1 List.all_takeWhile d hd)
    exact hparted.assignment _
  | unnamed hends hname => exact parted_value _ hends

/-! ### Brackets before a place -/

theorem brackets_append (ls ms : List Lexeme) :
    brackets (ls ++ ms) = brackets ls ++ brackets ms := List.filter_append ..

theorem endsInTag_append {ms : List Lexeme} (h : ∀ l ∈ ms, l.category ≠ .tagBracket)
    (ls : List Lexeme) : EndsInTag (ls ++ ms) ↔ EndsInTag ls := by
  have hnone : brackets ms = [] := by
    rw [brackets, List.filter_eq_nil_iff]
    intro l hl hbracket
    exact h l hl (of_decide_eq_true hbracket)
  rw [EndsInTag, brackets_append, hnone, List.append_nil]
  rfl

theorem endsInTag_append_bracket {ms : List Lexeme} {b : Lexeme} (h : brackets ms = [b])
    (ls : List Lexeme) : EndsInTag (ls ++ ms) ↔ b.Opens := by
  rw [EndsInTag, brackets_append, h, List.getLast?_concat]
  exact ⟨fun ⟨_, hb, hopens⟩ => Option.some.inj hb ▸ hopens, fun hopens => ⟨b, rfl, hopens⟩⟩

theorem Branch.isInner {config : Config} {c : Char} {cs : List Char} {s : Step}
    (hs : Branch config .attributes c cs s) (hmode : s.mode = .attributes) :
    ∀ l ∈ s.lexemes, l.category.isInner = true := by
  intro l hl
  cases hs with
  | blanks hne hblank =>
    rw [List.mem_singleton.1 hl]
    rfl
  | close hclose => cases hmode
  | named hname =>
    rcases List.mem_cons.1 hl with rfl | hl
    · rfl
    rcases assignment_cases config.unterminatedToEol.isOn (cs.dropWhile isAttributeNameChar) with
      hnone | ⟨ms, hsome, hms⟩
    · rw [hnone] at hl
      cases hl
    · rw [hsome] at hl
      rcases List.mem_cons.1 hl with rfl | hl
      · rfl
      · exact (hms l hl).isInner
  | unnamed hends hname => exact (isValue_value _ _ _ l hl).isInner

theorem Branch.endsInTag_iff {config : Config} {mode : Mode} {c : Char} {cs : List Char} {s : Step}
    (hs : Branch config mode c cs s) (hmode : mode = .tagOpen → atTagStart (c :: cs) = true)
    {before : List Lexeme} (h : EndsInTag before ↔ mode = .attributes) :
    EndsInTag (before ++ s.lexemes) ↔ s.mode = .attributes := by
  cases hs with
  | blanks hne hblank => rw [endsInTag_append (by simp), h]
  | tagStart htag => simpa using h
  | comment hblank hcomment => rw [endsInTag_append (by simp), h]
  | word hblank htag hcomment =>
    have hword : wordCategory config (Lexer.word c cs).1 ≠ .tagBracket :=
      ne_tagBracket (.inl (isStatement_wordCategory _ _))
    rw [endsInTag_append (by simpa using hword), h]
  | head =>
    obtain ⟨b, hb, hopens⟩ := (isHead_tagOpenStep config (hmode rfl)).brackets_append []
    rw [List.append_nil] at hb
    rw [endsInTag_append_bracket hb]
    exact iff_of_true hopens rfl
  | close hclose =>
    rw [endsInTag_append_bracket (brackets_cons_of_eq [] rfl)]
    exact iff_of_false (closes_closingBracket hclose).not_opens (by simp)
  | named hname =>
    have hbranch : Branch config .attributes c cs _ := .named hname
    have hinner := hbranch.isInner rfl
    rw [endsInTag_append fun l hl => ne_tagBracket (.inr (.inl (hinner l hl))), h]
  | unnamed hends hname =>
    have hbranch : Branch config .attributes c cs _ := .unnamed hends hname
    have hinner := hbranch.isInner rfl
    rw [endsInTag_append fun l hl => ne_tagBracket (.inr (.inl (hinner l hl))), h]

/-! ### The lexer behind some lexemes -/

/-- What holds of the lexer in a mode, behind some lexemes of a line and in front of the rest. -/
structure Behind (before : List Lexeme) (mode : Mode) (cs : List Char) : Prop where
  inTag : EndsInTag before ↔ mode = .attributes
  atTag : mode = .tagOpen → atTagStart cs = true
  parted : Parted (textOf before) cs

theorem behind_nil (cs : List Char) : Behind [] .statement cs where
  inTag := by simp [EndsInTag, brackets]
  atTag := nofun
  parted := parted_nil cs

theorem Behind.step {before : List Lexeme} {mode : Mode} {c : Char} {cs : List Char}
    (h : Behind before mode (c :: cs)) (config : Config) :
    Behind (before ++ (step config mode c cs).lexemes) (step config mode c cs).mode
      (step config mode c cs).rest where
  inTag := (branch_step config mode c cs).endsInTag_iff h.atTag h.inTag
  atTag := atTagStart_rest_of_tagOpen
  parted := by
    rw [textOf_append]
    by_cases hnil : (Lexer.step config mode c cs).lexemes = []
    · -- nothing has been cut off, so the place is the same
      have happ := step_append config mode c cs
      rw [hnil, textOf_nil, List.nil_append] at happ
      rw [hnil, happ, textOf_nil, List.append_nil]
      exact h.parted
    · have hne := textOf_ne_nil (solid_step config mode c cs) hnil
      exact ((branch_step config mode c cs).parted h.atTag).append_of_ne_nil hne _

/-- What holds of the lexemes of every step, with all that stands around them, holds of all lexemes
of a run. -/
theorem forall_lexemes_run {config : Config} {P : List Lexeme → Lexeme → List Lexeme → Prop}
    (hstep : ∀ {before mode c cs}, Behind before mode (c :: cs) →
      ∀ b l a, (step config mode c cs).lexemes = b ++ l :: a →
        P (before ++ b) l
          (a ++ lexemes (run config (step config mode c cs).mode (step config mode c cs).rest)))
    {before : List Lexeme} {mode : Mode} {cs : List Char} (h : Behind before mode cs) :
    ∀ b l a, lexemes (run config mode cs) = b ++ l :: a → P (before ++ b) l a := by
  fun_induction run config mode cs generalizing before with
  | case1 mode =>
    intro b l a hsplit
    cases b <;> cases hsplit
  | case2 mode c cs ih =>
    intro b l a hsplit
    rw [lexemes_cons] at hsplit
    rcases List.append_eq_append_iff.1 hsplit with ⟨b', rfl, hrest⟩ | ⟨b', hfirst, hrest⟩
    · rw [← List.append_assoc]
      exact ih (h.step config) b' l a hrest
    · cases b' with
      | nil =>
        rw [List.append_nil] at hfirst
        have hnext := ih (h.step config) [] l a hrest.symm
        rwa [List.append_nil, hfirst] at hnext
      | cons m b' =>
        obtain ⟨rfl, rfl⟩ := List.cons.inj hrest
        exact hstep h b l b' hfirst

/-! ### Where a lexeme stands -/

theorem eq_of_singleton_eq_append_cons {α : Type} {x y : α} {xs ys : List α}
    (h : [x] = xs ++ y :: ys) : xs = [] ∧ y = x ∧ ys = [] := by
  cases xs with
  | nil =>
    obtain ⟨rfl, rfl⟩ := List.cons.inj h
    exact ⟨rfl, rfl, rfl⟩
  | cons z zs => cases zs <;> cases (List.cons.inj h).2

theorem tagOpenStep_split {config : Config} {c : Char} {cs : List Char} {b a : List Lexeme}
    {l : Lexeme} (h : (tagOpenStep config c cs).lexemes = b ++ l :: a) :
    (b = [] ∧ l.category = .tagBracket) ∨
      (b = [⟨.tagBracket, (openingBracket c cs).1⟩] ∧ l.category.isName = true) := by
  rw [tagOpenStep] at h
  cases b with
  | nil => exact .inl ⟨rfl, by rw [← (List.cons.inj h).1]⟩
  | cons m b =>
    obtain ⟨rfl, hname⟩ := List.cons.inj h
    unfold lexeme? at hname
    split at hname
    · cases b <;> cases hname
    · obtain ⟨rfl, rfl, -⟩ := eq_of_singleton_eq_append_cons hname
      exact .inr ⟨rfl, isName_nameCategory _ _⟩

theorem statementStep_split {config : Config} {c : Char} {cs : List Char} {b a : List Lexeme}
    {l : Lexeme} (h : (statementStep config c cs).lexemes = b ++ l :: a) : b = [] ∧ a = [] := by
  have hs := branch_statementStep config c cs
  generalize statementStep config c cs = s at hs h
  cases hs with
  | blanks => exact ⟨(eq_of_singleton_eq_append_cons h).1, (eq_of_singleton_eq_append_cons h).2.2⟩
  | tagStart => cases b <;> cases h
  | comment => exact ⟨(eq_of_singleton_eq_append_cons h).1, (eq_of_singleton_eq_append_cons h).2.2⟩
  | word => exact ⟨(eq_of_singleton_eq_append_cons h).1, (eq_of_singleton_eq_append_cons h).2.2⟩

namespace Behind

variable {config : Config} {before : List Lexeme} {mode : Mode} {c : Char} {cs : List Char}
  {b a : List Lexeme} {l : Lexeme}

theorem mode_eq_statement (h : Behind before mode (c :: cs))
    (hsplit : (Lexer.step config mode c cs).lexemes = b ++ l :: a) (hout : ¬EndsInTag (before ++ b))
    (hl : l.category ≠ .tagBracket) : mode = .statement := by
  cases mode with
  | statement => rfl
  | tagOpen =>
    rcases tagOpenStep_split hsplit with ⟨_, hbracket⟩ | ⟨rfl, _⟩
    · exact absurd hbracket hl
    · have hopens := opens_openingBracket (h.atTag rfl)
      exact absurd ((endsInTag_append_bracket (brackets_cons_of_eq [] rfl) before).2 hopens) hout
  | attributes =>
    have hbranch := branch_attributesStep config c cs
    change (attributesStep config.unterminatedToEol.isOn c cs).lexemes = _ at hsplit
    generalize attributesStep config.unterminatedToEol.isOn c cs = s at hbranch hsplit
    have hinner (hmode : s.mode = .attributes) : False := by
      have hb : ∀ m ∈ b, m.category ≠ .tagBracket := by
        intro m hm
        have hmem : m ∈ s.lexemes := hsplit ▸ List.mem_append_left _ hm
        exact ne_tagBracket (.inr (.inl (hbranch.isInner hmode m hmem)))
      exact hout ((endsInTag_append hb before).2 (h.inTag.2 rfl))
    cases hbranch with
    | blanks => exact absurd rfl hinner
    | close =>
      obtain ⟨-, rfl, -⟩ := eq_of_singleton_eq_append_cons hsplit
      exact absurd rfl hl
    | named => exact absurd rfl hinner
    | unnamed => exact absurd rfl hinner

theorem mode_eq_attributes (h : Behind before mode (c :: cs))
    (hsplit : (Lexer.step config mode c cs).lexemes = b ++ l :: a) (hin : EndsInTag (before ++ b))
    (hl : l.category.isName = false) : mode = .attributes := by
  have hnil (hb : b = []) : mode = .attributes := by
    rw [hb, List.append_nil] at hin
    exact h.inTag.1 hin
  cases mode with
  | statement => exact hnil (statementStep_split hsplit).1
  | tagOpen =>
    rcases tagOpenStep_split hsplit with ⟨hb, _⟩ | ⟨_, hname⟩
    · exact hnil hb
    · rw [hname] at hl
      cases hl
  | attributes => rfl

end Behind

/-! ### Tokens -/

theorem length_textOf_map_lexeme (ts : List Token) :
    (textOf (ts.map Token.lexeme)).length = textLength ts := by
  induction ts with
  | nil => rfl
  | cons t ts ih =>
    rw [List.map_cons, textOf_cons, List.length_append, ih, textLength]
    rfl

/-- A token of a line is a lexeme of the run over it, and stands where its text does. -/
theorem tokens_split {config : Config} {line : String} {before after : List Token} {t : Token}
    (h : tokens config line = before ++ t :: after) :
    lexemes (run config .statement line.toList) =
        before.map Token.lexeme ++ t.lexeme :: after.map Token.lexeme ∧
      t.Within line (textOf (before.map Token.lexeme)) (textOf (after.map Token.lexeme)) := by
  have hlexemes : lexemes (run config .statement line.toList) =
      before.map Token.lexeme ++ t.lexeme :: after.map Token.lexeme := by
    have hmap := congrArg (List.map Token.lexeme) h
    rwa [tokens, map_lexeme_place, List.map_append, List.map_cons] at hmap
  have htext := textOf_lexemes_run config .statement line.toList
  rw [hlexemes, textOf_append, textOf_cons] at htext
  refine ⟨hlexemes, htext, ?_⟩
  rw [length_textOf_map_lexeme, (partitions_tokens config line).col_eq before t after h,
    Nat.zero_add]

end Lexer

end TagHighlight
