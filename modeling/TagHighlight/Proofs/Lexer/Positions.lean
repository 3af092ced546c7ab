import TagHighlight.Proofs.Lexer.Cursor
import TagHighlight.Proofs.Lexer.Delimited

/-!
# The lexer by positions

A step is given what is left of a line. The same can be told by positions in the whole line: where a
run ends, where a quote recurs, what stands at a position and at the one behind it. `stageAt?` is the
step by positions. It sees the whole line, so nothing in its form keeps it from looking back; it
looks at its position without asking whether the line goes on there, and at the start of a tag at
the next position too, and has no answer when the line is at its end.

`Left text pos cs` says that `cs` is what is left of a line at `pos`. Each of the tests, searches and
cuts by positions agrees with the one on what is left, its results moved on by the position
(`Left.scan_eq`, `Left.quoteEnd?_eq`, `Left.braceEnd_eq`, `Left.valueAt_eq`), hence so do whole steps
(`Left.stageAt?_eq`).
-/

namespace TagHighlight.Lexer

open TagHighlight.Text (isQuote)
open TagHighlight.Unicode (isBlank)

/-! ### Tests and searches by positions

A test looks at one position or two. A search begins at a position and finds where something ends. -/

section
variable (text : List Char)

def charIs (p : Char → Bool) (pos : Nat) : Bool := text[pos]?.any p

/-- The first position from `pos` on where `stop` holds, or else the end of the line. -/
def scan (stop : Nat → Bool) (pos : Nat) : Nat :=
  if pos < text.length ∧ stop pos = false then scan stop (pos + 1) else pos
termination_by text.length - pos

def startsTag (pos : Nat) : Bool :=
  charIs text (· == '<') pos && charIs text (fun d => d == '/' || isTagNameStart d) (pos + 1)

def closesTag (pos : Nat) : Bool :=
  charIs text (· == '>') pos || (charIs text (· == '/') pos && charIs text (· == '>') (pos + 1))

def startsComment (pos : Nat) : Bool :=
  charIs text (· == '/') pos && charIs text (· == '/') (pos + 1)

def runEnd (p : Char → Bool) (pos : Nat) : Nat := scan text (fun i => !charIs text p i) pos

def wordEnd (pos : Nat) : Nat :=
  scan text (fun i => charIs text isBlank i || startsTag text i) (pos + 1)

def chunkEnd (pos : Nat) : Nat :=
  scan text (fun i => charIs text isBlank i || closesTag text i) (pos + 1)

/-- Where the text ends whose quote stands at a position, if the quote recurs. -/
def quoteEnd? (pos : Nat) : Option Nat :=
  let close := scan text (fun i => text[i]? == text[pos]?) (pos + 1)
  if close < text.length then some (close + 1) else none

theorem le_scan (stop : Nat → Bool) (pos : Nat) : pos ≤ scan text stop pos := by
  fun_induction scan text stop pos with
  | case1 pos h ih => omega
  | case2 pos h => exact Nat.le_refl pos

theorem lt_of_quoteEnd? {pos stop : Nat} (h : quoteEnd? text pos = some stop) : pos < stop := by
  have hle := le_scan text (fun i => text[i]? == text[pos]?) (pos + 1)
  simp only [quoteEnd?] at h
  split at h
  · obtain rfl := Option.some.inj h
    omega
  · cases h

/-- Where the braces end that are open to some depth at a position. -/
def braceEnd (depth : Int) (pos : Nat) : Nat :=
  if pos < text.length then
    if charIs text (· == '\x7b') pos then braceEnd (depth + 1) (pos + 1)
    else if charIs text (· == '\x7d') pos then
      if depth = 1 then pos + 1 else braceEnd (depth - 1) (pos + 1)
    else if charIs text isQuote pos then
      match h : quoteEnd? text pos with
      | some stop => braceEnd depth stop
      | none => braceEnd depth (pos + 1)
    else braceEnd depth (pos + 1)
  else text.length
termination_by text.length - pos
decreasing_by
  all_goals try omega
  have hlt := lt_of_quoteEnd? text h
  omega

/-! ### Steps by positions

Each function gives what stands at a position, cut into tokens, and where that ends. -/

def slice (start stop : Nat) : List Char := (text.take stop).drop start

def tokenAt (category : Category) (start stop : Nat) : Token :=
  ⟨String.ofList (slice text start stop), category, start⟩

/-- A chunk ends at a position, or the line does. -/
def chunkEndsAt (pos : Nat) : Bool :=
  decide (text.length ≤ pos) || charIs text isBlank pos || closesTag text pos

def chunkAt (pos : Nat) : List Token × Nat :=
  ([tokenAt text .plain pos (chunkEnd text pos)], chunkEnd text pos)

/-- The rest of a chunk from a position on, and where it ends. -/
def chunkTailAt (pos : Nat) : List Token × Nat :=
  if chunkEndsAt text pos then ([], pos) else chunkAt text pos

/-- The text between two positions with the rest of its chunk behind it, and where that ends. -/
def closedAt (category : Category) (start stop : Nat) : List Token × Nat :=
  (tokenAt text category start stop :: (chunkTailAt text stop).1, (chunkTailAt text stop).2)

/-- The value at a position, and where it ends. -/
def valueAt (toEol : Bool) (pos : Nat) : List Token × Nat :=
  if charIs text isQuote pos then
    match quoteEnd? text pos with
    | some stop => closedAt text .stringLiteral pos stop
    | none =>
      if toEol then ([tokenAt text .stringLiteral pos text.length], text.length)
      else ([tokenAt text .plain pos (pos + 1)], pos + 1)
  else if charIs text (· == '\x7b') pos then closedAt text .plain pos (braceEnd text 0 pos)
  else chunkAt text pos

/-- The sign and the value at a position, if there is a sign, and where they end. -/
def assignmentAt (toEol : Bool) (pos : Nat) : List Token × Nat :=
  if charIs text (· == '=') pos then
    let sign := tokenAt text .attributeOperator pos (pos + 1)
    if chunkEndsAt text (pos + 1) then ([sign], pos + 1)
    else (sign :: (valueAt text toEol (pos + 1)).1, (valueAt text toEol (pos + 1)).2)
  else ([], pos)

def blanksAt (mode : Mode) (pos : Nat) : Stage :=
  let stop := runEnd text isBlank pos
  ⟨[tokenAt text .whitespace pos stop], stop, mode⟩

def statementAt (config : Config) (pos : Nat) : Stage :=
  if charIs text isBlank pos then blanksAt text .statement pos
  else if startsTag text pos then ⟨[], pos, .tagOpen⟩
  else if startsComment text pos then
    ⟨[tokenAt text .lineComment pos text.length], text.length, .statement⟩
  else
    let stop := wordEnd text pos
    ⟨[tokenAt text (wordCategory config (slice text pos stop)) pos stop], stop, .statement⟩

/-- The stage at the start of a tag, when `next` is the character behind its first one. -/
def tagOpenAt (config : Config) (next : Char) (pos : Nat) : Stage :=
  let start := if next = '/' then pos + 2 else pos + 1
  let stop := runEnd text isTagNameChar start
  let name := slice text start stop
  ⟨tokenAt text .tagBracket pos start ::
      if start < stop then [tokenAt text (nameCategory config name) start stop] else [],
    stop, .attributes⟩

def attributesAt (toEol : Bool) (pos : Nat) : Stage :=
  if charIs text isBlank pos then blanksAt text .attributes pos
  else if closesTag text pos then
    let stop := if charIs text (· == '>') pos then pos + 1 else pos + 2
    ⟨[tokenAt text .tagBracket pos stop], stop, .statement⟩
  else if charIs text isAttributeNameChar pos then
    let stop := runEnd text isAttributeNameChar (pos + 1)
    ⟨tokenAt text .attributeName pos stop :: (assignmentAt text toEol stop).1,
      (assignmentAt text toEol stop).2, .attributes⟩
  else ⟨(valueAt text toEol pos).1, (valueAt text toEol pos).2, .attributes⟩

/-- The stage at a position, if the characters that it looks at without a test are there. -/
def stageAt? (config : Config) (mode : Mode) (pos : Nat) : Option Stage :=
  text[pos]?.bind fun _ =>
    match mode with
    | .statement => some (statementAt text config pos)
    | .tagOpen => text[pos + 1]?.map fun next => tagOpenAt text config next pos
    | .attributes => some (attributesAt text config.unterminatedToEol.isOn pos)

end

/-! ### What is left at a position -/

/-- The text that is left of a line at a position. -/
structure Left (text : List Char) (pos : Nat) (cs : List Char) : Prop where
  pos_le : pos ≤ text.length
  drop_eq : text.drop pos = cs

/-- Lexemes placed from a position on, and where they end. -/
def placed (pos : Nat) (ls : List Lexeme) : List Token × Nat :=
  (place pos ls, pos + (textOf ls).length)

theorem placed_cons (pos : Nat) (category : Category) (s : List Char) (ls : List Lexeme) :
    placed pos (⟨category, s⟩ :: ls) =
      (⟨String.ofList s, category, pos⟩ :: (placed (pos + s.length) ls).1,
        (placed (pos + s.length) ls).2) := by
  simp only [placed, place, textOf_cons, List.length_append, Nat.add_assoc]

theorem placed_singleton (pos : Nat) (category : Category) (s : List Char) :
    placed pos [⟨category, s⟩] = ([⟨String.ofList s, category, pos⟩], pos + s.length) :=
  placed_cons pos category s []

theorem placed_lexeme? (pos : Nat) (category : List Char → Category) (s : List Char) :
    placed pos (lexeme? category s) =
      (if pos < pos + s.length then [⟨String.ofList s, category s, pos⟩] else [],
        pos + s.length) := by
  cases s with
  | nil => simp [lexeme?, placed, place]
  | cons c s => simp [lexeme?, placed_singleton]

def Step.stage (pos : Nat) (s : Step) : Stage :=
  ⟨(placed pos s.lexemes).1, (placed pos s.lexemes).2, s.mode⟩

theorem splitUntil_not_head (p : Char → Bool) (cs : List Char) :
    splitUntil (fun ds => !ds.head?.any p) cs = (cs.takeWhile p, cs.dropWhile p) := by
  induction cs with
  | nil => rfl
  | cons c cs ih =>
    rw [splitUntil, ih]
    by_cases hc : p c = true
    · simp [hc]
    · simp [hc]

theorem splitUntil_head_of_notMem {c : Char} {s : List Char} (hs : c ∉ s) (rest : List Char)
    (hrest : rest ≠ [] → rest.head? = some c) :
    splitUntil (fun ds => ds.head? == some c) (s ++ rest) = (s, rest) := by
  refine splitUntil_append_of_stop (fun t ht hne => ?_) fun hne => by simp [hrest hne]
  obtain ⟨d, t, rfl⟩ := List.exists_cons_of_ne_nil hne
  have hd : d ≠ c := fun he => hs (ht.mem (he ▸ List.mem_cons_self))
  simp [hd]

namespace Left

variable {text cs : List Char} {pos : Nat}

theorem length_eq (h : Left text pos cs) : text.length = pos + cs.length := by
  have hlen := congrArg List.length h.drop_eq
  have hle := h.pos_le
  rw [List.length_drop] at hlen
  omega

theorem advance {s rest : List Char} (h : Left text pos (s ++ rest)) :
    Left text (pos + s.length) rest := by
  have hlen := h.length_eq
  rw [List.length_append] at hlen
  refine ⟨by omega, ?_⟩
  rw [← List.drop_drop, h.drop_eq, List.drop_left]

theorem cut {s rest : List Char} (h : Left text pos cs) (hcs : s ++ rest = cs) :
    Left text pos (s ++ rest) := by
  rwa [hcs]

theorem tail {c : Char} (h : Left text pos (c :: cs)) : Left text (pos + 1) cs :=
  h.advance (s := [c])

theorem charIs_eq (h : Left text pos cs) (p : Char → Bool) : charIs text p pos = cs.head?.any p := by
  rw [charIs, ← List.head?_drop, h.drop_eq]

theorem charIs_cons {c : Char} (h : Left text pos (c :: cs)) (p : Char → Bool) :
    charIs text p pos = p c := by
  simp [h.charIs_eq]

theorem slice_eq {s rest : List Char} (h : Left text pos (s ++ rest)) :
    slice text pos (pos + s.length) = s := by
  rw [slice, List.drop_take, h.drop_eq, Nat.add_sub_cancel_left, List.take_left]

theorem tokenAt_eq {s rest : List Char} (h : Left text pos (s ++ rest)) (category : Category) :
    tokenAt text category pos (pos + s.length) = ⟨String.ofList s, category, pos⟩ := by
  rw [tokenAt, h.slice_eq]

theorem tokenAt_cons {c : Char} (h : Left text pos (c :: cs)) (category : Category) :
    tokenAt text category pos (pos + 1) = ⟨String.ofList [c], category, pos⟩ :=
  tokenAt_eq (s := [c]) h category

theorem tokenAt_length (h : Left text pos cs) (category : Category) :
    tokenAt text category pos text.length = ⟨String.ofList cs, category, pos⟩ := by
  have hall : Left text pos (cs ++ []) := by rwa [List.append_nil]
  rw [h.length_eq, hall.tokenAt_eq]

theorem startsTag_eq (h : Left text pos cs) : startsTag text pos = atTagStart cs := by
  cases cs with
  | nil => simp [startsTag, h.charIs_eq, atTagStart]
  | cons c cs =>
    rw [startsTag, h.charIs_eq, h.tail.charIs_eq]
    cases cs <;> simp [atTagStart]

theorem closesTag_eq (h : Left text pos cs) : closesTag text pos = atTagClose cs := by
  cases cs with
  | nil => simp [closesTag, h.charIs_eq, atTagClose]
  | cons c cs =>
    rw [closesTag, h.charIs_eq, h.charIs_eq, h.tail.charIs_eq]
    cases cs <;> simp [atTagClose]

theorem startsComment_eq (h : Left text pos cs) : startsComment text pos = atComment cs := by
  cases cs with
  | nil => simp [startsComment, h.charIs_eq, atComment]
  | cons c cs =>
    rw [startsComment, h.charIs_eq, h.tail.charIs_eq]
    cases cs <;> simp [atComment]

theorem chunkEndsAt_eq (h : Left text pos cs) : chunkEndsAt text pos = endsChunk cs := by
  have hlen := h.length_eq
  rw [chunkEndsAt, h.charIs_eq, h.closesTag_eq]
  cases cs with
  | nil => simp [endsChunk, hlen]
  | cons c cs =>
    have hmore : ¬text.length ≤ pos := by
      rw [hlen, List.length_cons]
      omega
    simp [endsChunk, hmore]

/-! ### Searches agree -/

theorem scan_eq (h : Left text pos cs) (stop : Nat → Bool) (test : List Char → Bool)
    (htest : ∀ i ds, Left text i ds → ds ≠ [] → stop i = test ds) :
    scan text stop pos = pos + (splitUntil test cs).1.length := by
  induction cs generalizing pos with
  | nil =>
    have hlen := h.length_eq
    rw [scan, if_neg (by simp at hlen; omega)]
    rfl
  | cons c cs ih =>
    have hlen := h.length_eq
    have hstop := htest pos (c :: cs) h (List.cons_ne_nil _ _)
    rw [scan, splitUntil]
    by_cases hc : test (c :: cs) = true
    · rw [if_neg (by simp [hstop, hc]), if_pos hc]
      rfl
    · rw [if_pos ⟨by simp at hlen; omega, by simp [hstop, hc]⟩, if_neg hc, ih h.tail]
      simp only [List.length_cons]
      omega

theorem wordEnd_eq {c : Char} (h : Left text pos (c :: cs)) :
    wordEnd text pos = pos + (word c cs).1.length := by
  have hscan := h.tail.scan_eq (fun i => charIs text isBlank i || startsTag text i) endsWord
    fun i ds hds hne => by
      obtain ⟨d, ds, rfl⟩ := List.exists_cons_of_ne_nil hne
      simp [endsWord, hds.charIs_cons, hds.startsTag_eq]
  rw [wordEnd, hscan]
  simp only [word, List.length_cons]
  omega

theorem chunkEnd_eq {c : Char} (h : Left text pos (c :: cs)) :
    chunkEnd text pos = pos + (chunk c cs).1.length := by
  have hscan := h.tail.scan_eq (fun i => charIs text isBlank i || closesTag text i) endsChunk
    fun i ds hds hne => by
      obtain ⟨d, ds, rfl⟩ := List.exists_cons_of_ne_nil hne
      simp [endsChunk, hds.charIs_cons, hds.closesTag_eq]
  rw [chunkEnd, hscan]
  simp only [chunk, List.length_cons]
  omega

theorem runEnd_eq (p : Char → Bool) (h : Left text pos cs) :
    runEnd text p pos = pos + (cs.takeWhile p).length := by
  have hscan := h.scan_eq (fun i => !charIs text p i) (fun ds => !ds.head?.any p)
    fun i ds hds _ => by rw [hds.charIs_eq]
  rw [runEnd, hscan, splitUntil_not_head]

theorem quoteEnd?_eq {quote : Char} (h : Left text pos (quote :: cs)) :
    quoteEnd? text pos = (throughQuote quote cs).map fun parts => pos + 1 + parts.1.length := by
  have hget : text[pos]? = some quote := by rw [← List.head?_drop, h.drop_eq]; rfl
  have hscan := h.tail.scan_eq (fun i => text[i]? == text[pos]?) (fun ds => ds.head? == some quote)
    fun i ds hds _ => by
      rw [← hds.drop_eq, List.head?_drop, hget]
  have hlen := h.length_eq
  rw [List.length_cons] at hlen
  by_cases hmem : quote ∈ cs
  · obtain ⟨inside, rest, rfl, hinside⟩ := List.eq_append_cons_of_mem hmem
    rw [List.length_append, List.length_cons] at hlen
    have hclose : pos + 1 + inside.length < text.length := by omega
    have hsplit := splitUntil_head_of_notMem hinside (quote :: rest) fun _ => rfl
    rw [throughQuote_append_cons hinside, quoteEnd?, hscan, hsplit, if_pos hclose, Option.map_some,
      List.length_append]
    rfl
  · have hclose : ¬pos + 1 + cs.length < text.length := by omega
    have hsplit := splitUntil_head_of_notMem hmem [] fun hne => absurd rfl hne
    rw [List.append_nil] at hsplit
    rw [throughQuote_eq_none hmem, quoteEnd?, hscan, hsplit, if_neg hclose, Option.map_none]

theorem exists_rest_of_quoteEnd? {quote : Char} {stop : Nat} (h : Left text pos (quote :: cs))
    (hstop : quoteEnd? text pos = some stop) :
    ∃ inside rest, cs = inside ++ quote :: rest ∧ quote ∉ inside ∧ stop = pos + (inside.length + 2) ∧
      Left text stop rest := by
  rw [h.quoteEnd?_eq] at hstop
  by_cases hmem : quote ∈ cs
  · obtain ⟨inside, rest, rfl, hinside⟩ := List.eq_append_cons_of_mem hmem
    rw [throughQuote_append_cons hinside, Option.map_some, Option.some.injEq, List.length_append,
      List.length_singleton] at hstop
    have hend : pos + (inside.length + 2) = stop := by omega
    have hsplit : quote :: (inside ++ quote :: rest) = (quote :: (inside ++ [quote])) ++ rest := by
      simp
    have hrest := (hsplit ▸ h).advance
    rw [List.length_cons, List.length_append, List.length_singleton] at hrest
    exact ⟨inside, rest, rfl, hinside, hend.symm, hend ▸ hrest⟩
  · rw [throughQuote_eq_none hmem] at hstop
    cases hstop

theorem notMem_of_quoteEnd?_eq_none {quote : Char} (h : Left text pos (quote :: cs))
    (hstop : quoteEnd? text pos = none) : quote ∉ cs := by
  intro hmem
  obtain ⟨inside, rest, rfl, hinside⟩ := List.eq_append_cons_of_mem hmem
  rw [h.quoteEnd?_eq, throughQuote_append_cons hinside] at hstop
  cases hstop

theorem exists_cons (h : Left text pos cs) (hpos : pos < text.length) : ∃ c ds, cs = c :: ds := by
  refine List.exists_cons_of_ne_nil fun hnil => ?_
  have hlen := h.length_eq
  rw [hnil, List.length_nil] at hlen
  omega

theorem braceEnd_eq (h : Left text pos cs) (depth : Int) :
    braceEnd text depth pos = pos + (throughBrace depth none cs).1.length := by
  -- by the cases of the search; a quote that recurs is the one case that goes on beyond the next
  -- position
  fun_induction braceEnd text depth pos generalizing cs with
  | case1 depth pos hpos hopen ih =>
    obtain ⟨c, ds, rfl⟩ := h.exists_cons hpos
    have hc : c = '\x7b' := by simpa [h.charIs_cons] using hopen
    rw [ih h.tail, throughBrace, if_pos hc, consFirst, List.length_cons]
    omega
  | case2 pos hpos hopen hclose =>
    obtain ⟨c, ds, rfl⟩ := h.exists_cons hpos
    have hc : c ≠ '\x7b' := by simpa [h.charIs_cons] using hopen
    have hc' : c = '\x7d' := by simpa [h.charIs_cons] using hclose
    rw [throughBrace, if_neg hc, if_pos hc', if_pos rfl]
    rfl
  | case3 depth pos hpos hopen hclose hdepth ih =>
    obtain ⟨c, ds, rfl⟩ := h.exists_cons hpos
    have hc : c ≠ '\x7b' := by simpa [h.charIs_cons] using hopen
    have hc' : c = '\x7d' := by simpa [h.charIs_cons] using hclose
    rw [ih h.tail, throughBrace, if_neg hc, if_pos hc', if_neg hdepth, consFirst, List.length_cons]
    omega
  | case4 depth pos hpos hopen hclose hquote stop hstop ih =>
    obtain ⟨c, ds, rfl⟩ := h.exists_cons hpos
    have hc : isQuote c = true := by simpa [h.charIs_cons] using hquote
    obtain ⟨inside, rest, rfl, hinside, rfl, hrest⟩ := h.exists_rest_of_quoteEnd? hstop
    rw [ih hrest, throughBrace_quoted hc hinside]
    simp only [List.length_cons, List.length_append]
    omega
  | case5 depth pos hpos hopen hclose hquote hstop ih =>
    obtain ⟨c, ds, rfl⟩ := h.exists_cons hpos
    have hc : c ≠ '\x7b' := by simpa [h.charIs_cons] using hopen
    have hc' : c ≠ '\x7d' := by simpa [h.charIs_cons] using hclose
    have hmem : c ∉ ds := h.notMem_of_quoteEnd?_eq_none hstop
    rw [ih h.tail, throughBrace, if_neg hc, if_neg hc', if_neg (by simp [hmem]), consFirst,
      List.length_cons]
    omega
  | case6 depth pos hpos hopen hclose hquote ih =>
    obtain ⟨c, ds, rfl⟩ := h.exists_cons hpos
    have hc : c ≠ '\x7b' := by simpa [h.charIs_cons] using hopen
    have hc' : c ≠ '\x7d' := by simpa [h.charIs_cons] using hclose
    have hc'' : isQuote c = false := by simpa [h.charIs_cons] using hquote
    rw [ih h.tail, throughBrace, if_neg hc, if_neg hc', hc'', Bool.false_and, if_neg Bool.false_ne_true,
      consFirst, List.length_cons]
    omega
  | case7 depth pos hpos =>
    have hnil : cs = [] := by
      have hlen := h.length_eq
      exact List.length_eq_zero_iff.1 (by omega)
    rw [hnil, h.length_eq, hnil]
    rfl

/-! ### Cuts and steps agree -/

theorem chunkAt_eq {c : Char} (h : Left text pos (c :: cs)) :
    chunkAt text pos = placed pos [⟨.plain, (chunk c cs).1⟩] := by
  have hcut := h.cut (chunk_append c cs)
  rw [chunkAt, h.chunkEnd_eq, hcut.tokenAt_eq, placed_singleton]

theorem chunkTailAt_eq (h : Left text pos cs) : chunkTailAt text pos = placed pos (chunkTail cs).1 := by
  rw [chunkTailAt, h.chunkEndsAt_eq]
  cases cs with
  | nil => rfl
  | cons c cs =>
    rw [chunkTail]
    by_cases hends : endsChunk (c :: cs) = true
    · rw [if_pos hends, if_pos hends]
      rfl
    · rw [if_neg hends, if_neg hends, h.chunkAt_eq]

theorem closedAt_eq {s rest : List Char} (h : Left text pos (s ++ rest)) (category : Category) :
    closedAt text category pos (pos + s.length) = placed pos (⟨category, s⟩ :: (chunkTail rest).1) := by
  rw [closedAt, h.tokenAt_eq, h.advance.chunkTailAt_eq, placed_cons]

theorem blanksAt_eq (h : Left text pos cs) (mode : Mode) :
    blanksAt text mode pos =
      Step.stage pos ⟨[⟨.whitespace, (blankRun cs).1⟩], mode, (blankRun cs).2⟩ := by
  have hcut := h.cut (blankRun_append cs)
  have hstop : runEnd text isBlank pos = pos + (blankRun cs).1.length := h.runEnd_eq isBlank
  simp only [blanksAt, hstop, hcut.tokenAt_eq, Step.stage, placed_singleton]

theorem valueAt_eq {c : Char} (h : Left text pos (c :: cs)) (toEol : Bool) :
    valueAt text toEol pos = placed pos (value toEol c cs).1 := by
  rw [valueAt, value, h.charIs_cons]
  by_cases hquote : isQuote c = true
  · rw [if_pos hquote, if_pos hquote, h.quoteEnd?_eq]
    cases hthrough : throughQuote c cs with
    | some parts =>
      obtain ⟨inside, rest⟩ := parts
      have hinside : (c :: inside) ++ rest = c :: cs := by
        rw [List.cons_append, throughQuote_append hthrough]
      have hstop : pos + 1 + inside.length = pos + (c :: inside).length := by
        rw [List.length_cons]
        omega
      simp only [Option.map_some, hstop, (h.cut hinside).closedAt_eq]
    | none =>
      simp only [Option.map_none, h.tokenAt_length, h.tokenAt_cons]
      cases toEol with
      | true => rw [if_pos rfl, if_pos rfl, placed_singleton, h.length_eq]
      | false =>
        rw [if_neg Bool.false_ne_true, if_neg Bool.false_ne_true]
        rfl
  · rw [if_neg hquote, if_neg hquote, h.charIs_cons]
    by_cases hbrace : c = '\x7b'
    · have hcut : Left text pos ((braced (c :: cs)).1 ++ (braced (c :: cs)).2) :=
        h.cut (throughBrace_append 0 none (c :: cs))
      have hstop : braceEnd text 0 pos = pos + (braced (c :: cs)).1.length := h.braceEnd_eq 0
      rw [if_pos (by simpa using hbrace), if_pos hbrace, hstop, hcut.closedAt_eq]
    · rw [if_neg (by simpa using hbrace), if_neg hbrace, h.chunkAt_eq]

theorem assignmentAt_eq (h : Left text pos cs) (toEol : Bool) :
    assignmentAt text toEol pos = placed pos (assignment toEol cs).1 := by
  rw [assignmentAt, h.charIs_eq]
  by_cases hsign : cs.head? = some '='
  · obtain ⟨ds, rfl⟩ := List.head?_eq_some_iff.1 hsign
    rw [if_pos (by simp), h.tokenAt_cons, h.tail.chunkEndsAt_eq, assignment, placed_cons]
    cases ds with
    | nil => rfl
    | cons d ds =>
      rw [attributeValue]
      by_cases hends : endsChunk (d :: ds) = true
      · rw [if_pos hends, if_pos hends]
        rfl
      · rw [if_neg hends, if_neg hends, h.tail.valueAt_eq]
        rfl
  · have hnone : (assignment toEol cs).1 = [] := by
      unfold assignment
      split
      · exact absurd rfl hsign
      · rfl
    have hany : cs.head?.any (· == '=') ≠ true := by
      cases hhead : cs.head? with
      | none => simp
      | some d =>
        have hd : d ≠ '=' := fun he => hsign (he ▸ hhead)
        simp [hd]
    rw [if_neg hany, hnone]
    rfl

theorem statementAt_eq {c : Char} (h : Left text pos (c :: cs)) (config : Config) :
    statementAt text config pos = (statementStep config c cs).stage pos := by
  rw [statementAt, statementStep, h.charIs_cons, h.startsTag_eq, h.startsComment_eq]
  by_cases hblank : isBlank c = true
  · rw [if_pos hblank, if_pos hblank, h.blanksAt_eq]
  by_cases htag : atTagStart (c :: cs) = true
  · simp only [if_neg hblank, if_pos htag]
    rfl
  by_cases hcomment : atComment (c :: cs) = true
  · rw [if_neg hblank, if_neg hblank, if_neg htag, if_neg htag, if_pos hcomment, if_pos hcomment,
      h.tokenAt_length, h.length_eq, Step.stage, placed_singleton]
  · have hcut := h.cut (word_append c cs)
    simp only [if_neg hblank, if_neg htag, if_neg hcomment, h.wordEnd_eq, hcut.tokenAt_eq,
      hcut.slice_eq, Step.stage, placed_singleton]

theorem tagOpenAt_eq {c d : Char} (h : Left text pos (c :: d :: cs)) (config : Config) :
    tagOpenAt text config d pos = (tagOpenStep config c (d :: cs)).stage pos := by
  have hcut := h.cut (openingBracket_append c (d :: cs))
  have hstart : (if d = '/' then pos + 2 else pos + 1) =
      pos + (openingBracket c (d :: cs)).1.length := by
    by_cases hd : d = '/'
    · rw [if_pos hd, hd]
      rfl
    · rw [if_neg hd, openingBracket_of_ne hd]
      rfl
  rw [tagOpenAt, tagOpenStep]
  generalize openingBracket c (d :: cs) = parts at hcut hstart
  obtain ⟨bracket, rest⟩ := parts
  have hname := hcut.advance.cut (List.takeWhile_append_dropWhile (p := isTagNameChar))
  simp only [hstart, hcut.tokenAt_eq, hcut.advance.runEnd_eq, hname.slice_eq, hname.tokenAt_eq,
    Step.stage, placed_cons, placed_lexeme?]

theorem attributesAt_eq {c : Char} (h : Left text pos (c :: cs)) (toEol : Bool) :
    attributesAt text toEol pos = (attributesStep toEol c cs).stage pos := by
  rw [attributesAt, attributesStep, h.charIs_cons, h.closesTag_eq, h.charIs_cons]
  by_cases hblank : isBlank c = true
  · rw [if_pos hblank, if_pos hblank, h.blanksAt_eq]
  by_cases hclose : atTagClose (c :: cs) = true
  · have hcut := h.cut (closingBracket_append c cs)
    have hstop : (if (c == '>') = true then pos + 1 else pos + 2) =
        pos + (closingBracket c cs).1.length := by
      rcases atTagClose_cons.1 hclose with rfl | ⟨rfl, hhead⟩
      · rfl
      · obtain ⟨ds, rfl⟩ := List.head?_eq_some_iff.1 hhead
        rfl
    simp only [if_neg hblank, if_pos hclose, hstop, hcut.tokenAt_eq, Step.stage, placed_singleton]
  rw [if_neg hblank, if_neg hclose, if_neg hblank, if_neg hclose, h.charIs_cons]
  by_cases hname : isAttributeNameChar c = true
  · have hcut : Left text pos ((c :: cs.takeWhile isAttributeNameChar) ++
        cs.dropWhile isAttributeNameChar) := by
      rwa [List.cons_append, List.takeWhile_append_dropWhile]
    have hstop : runEnd text isAttributeNameChar (pos + 1) =
        pos + (c :: cs.takeWhile isAttributeNameChar).length := by
      rw [h.tail.runEnd_eq, List.length_cons]
      omega
    simp only [if_pos hname, hstop, hcut.tokenAt_eq, hcut.advance.assignmentAt_eq, Step.stage,
      placed_cons]
  · simp only [if_neg hname, h.valueAt_eq, Step.stage]

/-- A step by positions is the step on what is left, and it is missing only where a tag should start
and the line has but one more character. -/
theorem stageAt?_eq {c : Char} (h : Left text pos (c :: cs)) (config : Config) (mode : Mode) :
    stageAt? text config mode pos =
      if mode = .tagOpen ∧ cs = [] then none else some ((step config mode c cs).stage pos) := by
  have hget : text[pos]? = some c := by rw [← List.head?_drop, h.drop_eq]; rfl
  have hnext : text[pos + 1]? = cs.head? := by rw [← List.head?_drop, h.tail.drop_eq]
  unfold stageAt?
  rw [hget, Option.bind_some]
  cases mode with
  | statement =>
    rw [if_neg (fun hm => by cases hm.1), h.statementAt_eq]
    rfl
  | tagOpen =>
    cases cs with
    | nil => simp [hnext]
    | cons d cs => simp [hnext, h.tagOpenAt_eq, step]
  | attributes =>
    rw [if_neg (fun hm => by cases hm.1), h.attributesAt_eq]
    rfl

end Left

end TagHighlight.Lexer
