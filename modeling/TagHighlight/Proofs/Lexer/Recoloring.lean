import TagHighlight.Proofs.Lexer.Grammar

/-!
# What the tables decide

The tables of a configuration color words and names and do nothing else. Under two configurations
with one policy for quotes that never recur, a step cuts off the same texts and goes on alike, so two
runs are in step throughout; lexeme by lexeme the categories are equal, or they are the categories of
one word outside all tags, or of one name behind a bracket that opens a tag (`Recolors`).

Where a lexeme stands is told by the lexemes before it: `Leads before mode` says that the lexer is in
`mode` behind them, since what can be read from `mode` on can be read behind them from the start of
the line. A run keeps it (`Leads.step`), so `Recolored` can be proved step by step.
-/

namespace TagHighlight

def Category.isWord : Category → Bool
  | keyword | punctuation | stringLiteral | plain => true
  | _ => false

/-- A configuration has all keywords of another one, and agrees with it on all other tables. -/
structure Config.AddsKeywords (config other : Config) : Prop where
  keywords : ∀ w, config.keywords.contains w = true → other.keywords.contains w = true
  punctuation : other.punctuation = config.punctuation
  elementNames : other.elementNames = config.elementNames

namespace Lexer

/-! ### Where a lexeme stands -/

/-- Behind these lexemes of a line the lexer is in the mode. -/
def Leads (before : List Lexeme) (mode : Mode) : Prop :=
  ∀ ls last, Reads mode ls last → Reads .statement (before ++ ls) last

theorem leads_nil : Leads [] .statement := fun _ _ h => h

theorem Leads.step {before : List Lexeme} {mode : Mode} {c : Char} {cs : List Char}
    (h : Leads before mode) (config : Config) (htag : mode = .tagOpen → atTagStart (c :: cs) = true) :
    Leads (before ++ (step config mode c cs).lexemes) (step config mode c cs).mode := by
  intro ls last hls
  rw [List.append_assoc]
  exact h _ _ ((branch_step config mode c cs).reads htag hls)

theorem Leads.not_endsInTag {before : List Lexeme} (h : Leads before .statement) :
    ¬EndsInTag before := by
  have hreads := h [] .statement .done
  rw [List.append_nil] at hreads
  intro hends
  cases hreads.last_eq_attributes_iff.2 (.inl hends)

theorem opens_openingBracket {c : Char} {cs : List Char} (h : atTagStart (c :: cs) = true) :
    Lexeme.Opens ⟨.tagBracket, (openingBracket c cs).1⟩ := by
  have hc : c = '<' := by
    cases cs with
    | nil => cases h
    | cons d ds =>
      simp only [atTagStart, Bool.and_eq_true, beq_iff_eq] at h
      exact h.1
  subst hc
  unfold openingBracket
  split
  · exact ⟨rfl, .inr rfl⟩
  · exact ⟨rfl, .inl rfl⟩

/-! ### Recolored lexemes -/

section
variable {config other : Config}

/-- What two configurations can make of one lexeme that stands behind others. -/
inductive Recolors (config other : Config) (before : List Lexeme) : Lexeme → Lexeme → Prop
  | same (l : Lexeme) : Recolors config other before l l
  | word (cs : List Char) (houtside : ¬EndsInTag before) :
      Recolors config other before ⟨wordCategory config cs, cs⟩ ⟨wordCategory other cs, cs⟩
  | name (cs : List Char) (hopens : ∃ b ∈ before.getLast?, b.Opens) :
      Recolors config other before ⟨nameCategory config cs, cs⟩ ⟨nameCategory other cs, cs⟩

/-- Two lists of lexemes behind others differ in the color of words and names only. -/
inductive Recolored (config other : Config) : List Lexeme → List Lexeme → List Lexeme → Prop
  | nil (before : List Lexeme) : Recolored config other before [] []
  | cons {before ls ms : List Lexeme} {l m : Lexeme} (h : Recolors config other before l m)
      (hs : Recolored config other (before ++ [l]) ls ms) :
      Recolored config other before (l :: ls) (m :: ms)

namespace Recolored

theorem refl (before ls : List Lexeme) : Recolored config other before ls ls := by
  induction ls generalizing before with
  | nil => exact .nil before
  | cons l ls ih => exact .cons (.same l) (ih _)

theorem singleton {before : List Lexeme} {l m : Lexeme} (h : Recolors config other before l m) :
    Recolored config other before [l] [m] :=
  .cons h (.nil _)

theorem lexeme? {before : List Lexeme} (cs : List Char) (h : ∃ b ∈ before.getLast?, b.Opens) :
    Recolored config other before (lexeme? (nameCategory config) cs)
      (lexeme? (nameCategory other) cs) := by
  unfold Lexer.lexeme?
  split
  · exact .nil _
  · exact .singleton (.name cs h)

theorem append {before ls ms ls' ms' : List Lexeme} (h : Recolored config other before ls ms)
    (h' : Recolored config other (before ++ ls) ls' ms') :
    Recolored config other before (ls ++ ls') (ms ++ ms') := by
  induction h with
  | nil before =>
    rw [List.append_nil] at h'
    exact h'
  | cons h hs ih =>
    refine .cons h (ih ?_)
    rwa [List.append_assoc]

theorem recolors {before ls ms : List Lexeme} (h : Recolored config other before ls ms) {i : Nat}
    {l m : Lexeme} (hl : ls[i]? = some l) (hm : ms[i]? = some m) :
    Recolors config other (before ++ ls.take i) l m := by
  induction h generalizing i with
  | nil before => cases hl
  | @cons before ls ms l' m' h hs ih =>
    cases i with
    | zero =>
      obtain rfl := Option.some.inj hl
      obtain rfl := Option.some.inj hm
      rwa [List.take_zero, List.append_nil]
    | succ i =>
      have hrest := ih hl hm
      rwa [List.append_assoc] at hrest

theorem map_chars {before ls ms : List Lexeme} (h : Recolored config other before ls ms) :
    ls.map Lexeme.chars = ms.map Lexeme.chars := by
  induction h with
  | nil before => rfl
  | cons h hs ih =>
    rw [List.map_cons, List.map_cons, ih]
    cases h <;> rfl

end Recolored

/-! ### Steps and runs -/

theorem recolored_step (hpolicy : config.unterminatedToEol.isOn = other.unterminatedToEol.isOn)
    {before : List Lexeme} {mode : Mode} (hbefore : Leads before mode) (c : Char) (cs : List Char)
    (htag : mode = .tagOpen → atTagStart (c :: cs) = true) :
    Recolored config other before (step config mode c cs).lexemes (step other mode c cs).lexemes ∧
      (step other mode c cs).mode = (step config mode c cs).mode ∧
      (step other mode c cs).rest = (step config mode c cs).rest := by
  cases mode with
  | statement =>
    simp only [step, statementStep]
    by_cases hblank : Unicode.isBlank c = true
    · rw [if_pos hblank, if_pos hblank]
      exact ⟨.refl _ _, rfl, rfl⟩
    by_cases hstart : atTagStart (c :: cs) = true
    · rw [if_neg hblank, if_neg hblank, if_pos hstart, if_pos hstart]
      exact ⟨.refl _ _, rfl, rfl⟩
    by_cases hcomment : atComment (c :: cs) = true
    · rw [if_neg hblank, if_neg hblank, if_neg hstart, if_neg hstart, if_pos hcomment,
        if_pos hcomment]
      exact ⟨.refl _ _, rfl, rfl⟩
    · rw [if_neg hblank, if_neg hblank, if_neg hstart, if_neg hstart, if_neg hcomment,
        if_neg hcomment]
      exact ⟨.singleton (.word _ hbefore.not_endsInTag), rfl, rfl⟩
  | tagOpen =>
    have hopens := opens_openingBracket (htag rfl)
    exact ⟨.cons (.same _) (.lexeme? _ ⟨_, List.getLast?_concat, hopens⟩), rfl, rfl⟩
  | attributes =>
    have hstep : step other .attributes c cs = step config .attributes c cs := by
      simp only [step, hpolicy]
    rw [hstep]
    exact ⟨.refl _ _, rfl, rfl⟩

theorem recolored_run (hpolicy : config.unterminatedToEol.isOn = other.unterminatedToEol.isOn)
    {before : List Lexeme} {mode : Mode} (hbefore : Leads before mode) (cs : List Char)
    (htag : mode = .tagOpen → atTagStart cs = true) :
    Recolored config other before (lexemes (run config mode cs)) (lexemes (run other mode cs)) ∧
      finalMode mode (run config mode cs) = finalMode mode (run other mode cs) := by
  fun_induction run config mode cs generalizing before with
  | case1 mode =>
    rw [run]
    exact ⟨.nil _, rfl⟩
  | case2 mode c cs ih =>
    obtain ⟨hlexemes, hmode, hrest⟩ := recolored_step hpolicy hbefore c cs htag
    obtain ⟨hafter, hfinal⟩ := ih (hbefore.step config htag) atTagStart_rest_of_tagOpen
    have hrun : run other mode (c :: cs) = step other mode c cs ::
        run other (step config mode c cs).mode (step config mode c cs).rest := by
      rw [run, hmode, hrest]
    rw [hrun, lexemes_cons, lexemes_cons, finalMode_cons, finalMode_cons, hmode]
    exact ⟨hlexemes.append hafter, hfinal⟩

/-! ### Categories -/

theorem addsKeywords_append (config : Config) (ws : List LooseText) :
    config.AddsKeywords { config with keywords := .ofWords (ws ++ config.keywords.words) } where
  keywords w hw := by
    have hmem : .ofString w ∈ config.keywords.words := List.contains_iff_mem.1 hw
    exact List.contains_iff_mem.2 (mem_sortWords.2 (List.mem_append_right ws hmem))
  punctuation := rfl
  elementNames := rfl

theorem isWord_wordCategory (config : Config) (cs : List Char) :
    (wordCategory config cs).isWord = true := by
  rcases wordCategory_cases config cs with h | h | h | h <;> rw [h] <;> rfl

theorem wordCategory_addsKeywords (h : config.AddsKeywords other) (cs : List Char) :
    (wordCategory config cs = .keyword → wordCategory other cs = .keyword) ∧
      (wordCategory config cs = wordCategory other cs ∨ wordCategory other cs = .keyword) := by
  by_cases hother : other.keywords.contains (String.ofList cs) = true
  · have hkeyword : wordCategory other cs = .keyword := by rw [wordCategory, if_pos hother]
    exact ⟨fun _ => hkeyword, .inr hkeyword⟩
  · have hconfig : ¬config.keywords.contains (String.ofList cs) = true :=
      fun hmem => hother (h.keywords _ hmem)
    have hsame : wordCategory config cs = wordCategory other cs := by
      rw [wordCategory, wordCategory, if_neg hconfig, if_neg hother, h.punctuation]
    exact ⟨fun hkeyword => hsame ▸ hkeyword, .inl hsame⟩

theorem nameCategory_addsKeywords (h : config.AddsKeywords other) (cs : List Char) :
    nameCategory config cs = nameCategory other cs := by
  rw [nameCategory, nameCategory, h.elementNames]

/-- Where the category of a token can depend on the tables, and what it can be there. -/
theorem Recolors.category {before : List Lexeme} {l m : Lexeme}
    (h : Recolors config other before l m) :
    l.category = m.category ∨
      (l.category.isWord = true ∧ m.category.isWord = true ∧ ¬EndsInTag before) ∨
      (l.category.isName = true ∧ m.category.isName = true ∧
        ∃ b ∈ before.getLast?, b.Opens) := by
  cases h with
  | same => exact .inl rfl
  | word cs houtside =>
    exact .inr (.inl ⟨isWord_wordCategory _ _, isWord_wordCategory _ _, houtside⟩)
  | name cs hopens => exact .inr (.inr ⟨isName_nameCategory _ _, isName_nameCategory _ _, hopens⟩)

theorem Recolors.addsKeywords {before : List Lexeme} {l m : Lexeme}
    (h : Recolors config other before l m) (hadds : config.AddsKeywords other) :
    (l.category = .keyword → m.category = .keyword) ∧
      (l.category = m.category ∨
        l.category.isWord = true ∧ m.category = .keyword ∧ ¬EndsInTag before) := by
  cases h with
  | same => exact ⟨id, .inl rfl⟩
  | word cs houtside =>
    obtain ⟨hkeyword, hsame | hnew⟩ := wordCategory_addsKeywords hadds cs
    · exact ⟨hkeyword, .inl hsame⟩
    · exact ⟨hkeyword, .inr ⟨isWord_wordCategory _ _, hnew, houtside⟩⟩
  | name cs hopens =>
    have hsame := nameCategory_addsKeywords hadds cs
    exact ⟨fun h => hsame ▸ h, .inl hsame⟩

/-! ### Tokens -/

theorem map_place_congr {ls ms : List Lexeme} (col : Nat)
    (h : ls.map Lexeme.chars = ms.map Lexeme.chars) :
    (place col ls).map (fun t => (t.text, t.col)) =
      (place col ms).map (fun t => (t.text, t.col)) := by
  induction ls generalizing col ms with
  | nil =>
    rw [List.map_eq_nil_iff.1 h.symm]
  | cons l ls ih =>
    cases ms with
    | nil => cases h
    | cons m ms =>
      obtain ⟨hchars, hrest⟩ := List.cons.inj h
      rw [place, place, List.map_cons, List.map_cons, hchars, ih _ hrest]

theorem getElem?_place {col i : Nat} {ls : List Lexeme} {t : Token}
    (h : (place col ls)[i]? = some t) : ls[i]? = some t.lexeme := by
  rw [← map_lexeme_place col ls, List.getElem?_map, h]
  rfl

end

end Lexer

open Lexer in
/-- **Tables never move a boundary.** Under two configurations with one policy for quotes that never
recur, the tokens of a line have the same texts and columns, and the lexer ends in the same mode. Two
tokens differ in category only if they are a word outside all tags or the name of a tag. If the
second configuration only has more keywords, then keywords stay what they are, and the only change
is that words become keywords. -/
theorem tables_move_no_boundary {config other : Config}
    (hpolicy : config.unterminatedToEol.isOn = other.unterminatedToEol.isOn) (line : String)
    (lineno : Option Int) :
    ∃ ts us, classifyLine config line lineno = .ok ts ∧ classifyLine other line lineno = .ok us ∧
      ts.map (fun t => (t.text, t.col)) = us.map (fun u => (u.text, u.col)) ∧
      finalMode .statement (run config .statement line.toList) =
        finalMode .statement (run other .statement line.toList) ∧
      (∀ i t u, ts[i]? = some t → us[i]? = some u →
        t.category = u.category ∨
          (t.category.isWord = true ∧ u.category.isWord = true ∧
            ¬EndsInTag ((ts.take i).map Token.lexeme)) ∨
          (t.category.isName = true ∧ u.category.isName = true ∧
            ∃ b ∈ ((ts.take i).map Token.lexeme).getLast?, b.Opens)) ∧
      (config.AddsKeywords other → ∀ i t u, ts[i]? = some t → us[i]? = some u →
        (t.category = .keyword → u.category = .keyword) ∧
          (t.category = u.category ∨
            t.category.isWord = true ∧ u.category = .keyword ∧
              ¬EndsInTag ((ts.take i).map Token.lexeme))) := by
  obtain ⟨hrecolored, hfinal⟩ := recolored_run hpolicy leads_nil line.toList nofun
  have hrecolors (i : Nat) (t u : Token) (ht : (tokens config line)[i]? = some t)
      (hu : (tokens other line)[i]? = some u) :
      Recolors config other (((tokens config line).take i).map Token.lexeme) t.lexeme u.lexeme := by
    have h := hrecolored.recolors (getElem?_place ht) (getElem?_place hu)
    rwa [List.nil_append, ← map_lexeme_place 0 (lexemes (run config .statement line.toList)),
      ← List.map_take] at h
  refine ⟨_, _, classifyLine_eq config line lineno, classifyLine_eq other line lineno,
    map_place_congr 0 hrecolored.map_chars, hfinal, fun i t u ht hu => ?_,
    fun hadds i t u ht hu => ?_⟩
  · exact (hrecolors i t u ht hu).category
  · exact (hrecolors i t u ht hu).addsKeywords hadds

/-- One more keyword moves no boundary of a line that holds it. -/
theorem tables_move_no_boundary_for_await :
    let more : Config :=
      { Config.default with keywords := .ofWords ("await" :: Config.default.keywords.words) }
    Config.default.unterminatedToEol.isOn = more.unterminatedToEol.isOn ∧
      Config.default.AddsKeywords more ∧
      ∃ ts us : List Token, classifyLine .default "let await = <b>" none = .ok ts ∧
        classifyLine more "let await = <b>" none = .ok us ∧
        ts.map (fun t => (t.text, t.col)) = us.map (fun u => (u.text, u.col)) ∧
        ∀ (i : Nat) (t u : Token), ts[i]? = some t → us[i]? = some u → t.category = .keyword →
          u.category = .keyword := by
  intro more
  have hpolicy : Config.default.unterminatedToEol.isOn = more.unterminatedToEol.isOn := rfl
  have hadds : Config.default.AddsKeywords more := Lexer.addsKeywords_append _ ["await"]
  obtain ⟨ts, us, hts, hus, htexts, _, _, hmore⟩ :=
    tables_move_no_boundary hpolicy "let await = <b>" none
  exact ⟨hpolicy, hadds, ts, us, hts, hus, htexts, fun i t u ht hu => (hmore hadds i t u ht hu).1⟩

end TagHighlight
