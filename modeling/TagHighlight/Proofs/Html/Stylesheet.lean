import TagHighlight.Proofs.Html.Structure

/-!
# Classes look like styles

A rendering with classes and the style sheet of its renderer look like a rendering with styles.
`declarations?` finds in the text of a style sheet what it declares for a class, and `restyle` puts
that into a text in HTML, in place of each attribute that gives a token its class. Both go by the
characters of the texts alone and know nothing of the renderer.

`Restyles sheet html html'` says that the replacement makes `html'` of `html` in front of any text that
has no quote before its next tag (`Quiet`). An escaped text has no quote at all, so no attribute begins
in it, whatever it spells. Since every part of a rendering is quiet again, the parts can be put
together like the renderer does it. That no class of a token stays in the text is read off the tags of
the page, whose attributes are those of the frame or give a token its look (`attributesAre_page`).
-/

namespace TagHighlight.Html

/-! ### Looking into a style sheet -/

/-- What stands before the first place of a mark. -/
def before? (mark : List Char) : List Char → Option (List Char)
  | [] => none
  | c :: cs => if mark.isPrefixOf (c :: cs) then some [] else (before? mark cs).map (c :: ·)

/-- What stands behind the first place of a mark. -/
def behind? (mark : List Char) : List Char → Option (List Char)
  | [] => none
  | c :: cs =>
    if mark.isPrefixOf (c :: cs) then some ((c :: cs).drop mark.length) else behind? mark cs

/-- The mark of the rule for a class. -/
def ruleMark (name : List Char) : List Char := '.' :: (name ++ " \x7b ".toList)

/-- The declarations of a style sheet for a class, between the braces of its first rule. -/
def declarations? (sheet name : List Char) : Option (List Char) :=
  (behind? (ruleMark name) sheet).bind (before? " \x7d".toList)

/-! ### Replacing classes -/

/-- The class that an attribute at the start of a text gives to a token. -/
def classAt? (cs : List Char) : Option (List Char) :=
  if "class=\"jl-".toList.isPrefixOf cs then before? ['"'] (cs.drop 7) else none

/-- The text with the declarations of a style sheet in place of classes. The first characters are left
out, as many as it is said. -/
def restyle (sheet : List Char) : Nat → List Char → List Char
  | _, [] => []
  | skip + 1, _ :: cs => restyle sheet skip cs
  | 0, c :: cs =>
    match (classAt? (c :: cs)).bind fun name => (declarations? sheet name).map (name, ·) with
    | some (name, declarations) =>
      "style=\"".toList ++ declarations ++ ['"'] ++ restyle sheet (name.length + 7) cs
    | none => c :: restyle sheet 0 cs

/-- A text in HTML with the declarations of a style sheet in place of classes. -/
def withStyles (sheet html : String) : String :=
  String.ofList (restyle sheet.toList 0 html.toList)

example : withStyles ".jsxlight .jl-plain \x7b color: #fff \x7d\n"
    "<b class=\"jl-plain\">class=&quot;jl-plain&quot;</b> class=\"line\"" =
    "<b style=\"color: #fff\">class=&quot;jl-plain&quot;</b> class=\"line\"" := by decide +kernel

/-! ### First places of marks -/

theorem before?_append {mark s : List Char} (hmark : mark ≠ [])
    (h : ∀ t, t <:+ s → t ≠ [] → ∀ rest, ¬mark <+: t ++ (mark ++ rest)) (rest : List Char) :
    before? mark (s ++ (mark ++ rest)) = some s := by
  induction s with
  | nil =>
    obtain ⟨c, cs, rfl⟩ := List.exists_cons_of_ne_nil hmark
    have hbegins : (c :: cs).isPrefixOf (c :: (cs ++ rest)) = true :=
      List.isPrefixOf_iff_prefix.2 (List.prefix_append (c :: cs) rest)
    rw [List.nil_append, List.cons_append, before?, if_pos hbegins]
  | cons c s ih =>
    have hc : ¬mark.isPrefixOf (c :: (s ++ (mark ++ rest))) = true := by
      rw [List.isPrefixOf_iff_prefix]
      exact h (c :: s) (List.suffix_refl _) (List.cons_ne_nil c s) rest
    rw [List.cons_append, before?, if_neg hc,
      ih fun t ht => h t (ht.trans (List.suffix_cons c s))]
    rfl

theorem behind?_mark {mark : List Char} (hmark : mark ≠ []) (rest : List Char) :
    behind? mark (mark ++ rest) = some rest := by
  obtain ⟨c, cs, rfl⟩ := List.exists_cons_of_ne_nil hmark
  have hbegins : (c :: cs).isPrefixOf (c :: (cs ++ rest)) = true :=
    List.isPrefixOf_iff_prefix.2 (List.prefix_append (c :: cs) rest)
  rw [List.cons_append, behind?, if_pos hbegins]
  exact congrArg some List.drop_left

theorem behind?_cons {mark cs : List Char} {c : Char} (h : ¬mark <+: c :: cs) :
    behind? mark (c :: cs) = behind? mark cs := by
  rw [← List.isPrefixOf_iff_prefix] at h
  rw [behind?, if_neg h]

/-- A mark is not found before its first character. -/
theorem behind?_append_of_notMem {c : Char} {mark s : List Char} (h : c ∉ s) (rest : List Char) :
    behind? (c :: mark) (s ++ rest) = behind? (c :: mark) rest := by
  induction s with
  | nil => rfl
  | cons d s ih =>
    have hbegins : ¬c :: mark <+: d :: (s ++ rest) := by
      intro hp
      exact h ((List.cons_prefix_cons.1 hp).1 ▸ List.mem_cons_self)
    rw [List.cons_append, behind?_cons hbegins, ih fun hm => h (List.mem_cons_of_mem d hm)]

/-! ### The rules of a style sheet -/

theorem eq_of_words_alike {v w s t : List Char} (hv : ' ' ∉ v) (hw : ' ' ∉ w)
    (h : v ++ ' ' :: s <+: w ++ ' ' :: t) : v = w := by
  induction v generalizing w with
  | nil =>
    cases w with
    | nil => rfl
    | cons d w => exact absurd (List.cons_prefix_cons.1 h).1 fun he => hw (he ▸ List.mem_cons_self)
  | cons c v ih =>
    cases w with
    | nil => exact absurd (List.cons_prefix_cons.1 h).1 fun he => hv (he ▸ List.mem_cons_self)
    | cons d w =>
      obtain ⟨rfl, hrest⟩ := List.cons_prefix_cons.1 h
      rw [ih (fun hm => hv (List.mem_cons_of_mem c hm)) (fun hm => hw (List.mem_cons_of_mem c hm))
        hrest]

theorem cssClass_begins (c : Category) : "jl-".toList <+: c.cssClass.toList := by
  rw [Category.cssClass, String.toList_append]
  exact List.prefix_append _ _

theorem cssClass_inj {c d : Category} (h : c.cssClass.toList = d.cssClass.toList) : c = d := by
  revert h
  cases c <;> cases d <;> decide

namespace Renderer

variable (r : Renderer)

theorem toList_rule (c : Category) : (r.rule c).toList =
    '.' :: ("jsxlight ".toList ++ (ruleMark c.cssClass.toList ++
      ((r.theme.style c).css.toList ++ " \x7d\n".toList))) := by
  unfold rule ruleMark
  simp only [String.toList_append, List.append_assoc, List.cons_append]
  rfl

theorem behind?_rule (c d : Category) (rest : List Char) :
    behind? (ruleMark c.cssClass.toList) ((r.rule d).toList ++ rest) =
      behind? (ruleMark c.cssClass.toList) (ruleMark d.cssClass.toList ++
        ((r.theme.style d).css.toList ++ (" \x7d\n".toList ++ rest))) := by
  have hsheet (cs : List Char) :
      ¬ruleMark c.cssClass.toList <+: '.' :: ("jsxlight ".toList ++ cs) := by
    rw [← List.isPrefixOf_iff_prefix, Bool.not_eq_true]
    cases c <;> rfl
  have hskip : '.' ∉ "jsxlight ".toList := by decide
  rw [toList_rule, List.cons_append, List.append_assoc, behind?_cons (hsheet _)]
  simp only [List.append_assoc]
  exact behind?_append_of_notMem hskip _

theorem behind?_rule_self (c : Category) (rest : List Char) :
    behind? (ruleMark c.cssClass.toList) ((r.rule c).toList ++ rest) =
      some ((r.theme.style c).css.toList ++ (" \x7d\n".toList ++ rest)) := by
  rw [behind?_rule]
  exact behind?_mark (List.cons_ne_nil _ _) _

theorem behind?_rule_of_ne {c d : Category} (h : c ≠ d) (rest : List Char) :
    behind? (ruleMark c.cssClass.toList) ((r.rule d).toList ++ rest) =
      behind? (ruleMark c.cssClass.toList) rest := by
  have hmark (cs : List Char) :
      ¬ruleMark c.cssClass.toList <+: '.' :: (d.cssClass.toList ++ " \x7b ".toList ++ cs) := by
    intro hp
    have hwords := (List.cons_prefix_cons.1 hp).2
    rw [List.append_assoc] at hwords
    exact h (cssClass_inj (eq_of_words_alike (c.notMem_cssClass rfl)
      (d.notMem_cssClass rfl) hwords))
  have hclass : '.' ∉ d.cssClass.toList := d.notMem_cssClass rfl
  have hcss : '.' ∉ (r.theme.style d).css.toList := Style.notMem_css (by decide) _
  have hopen : '.' ∉ " \x7b ".toList := by decide
  have hclose : '.' ∉ " \x7d\n".toList := by decide
  have hrule : ruleMark d.cssClass.toList = '.' :: (d.cssClass.toList ++ " \x7b ".toList) := rfl
  rw [behind?_rule, hrule, List.cons_append, behind?_cons (hmark _), List.append_assoc, ruleMark,
    behind?_append_of_notMem hclass, behind?_append_of_notMem hopen, behind?_append_of_notMem hcss,
    behind?_append_of_notMem hclose]

theorem behind?_rules {c : Category} {cs : List Category} (hc : c ∈ cs) :
    ∃ rest, behind? (ruleMark c.cssClass.toList) (String.join (cs.map r.rule)).toList =
      some ((r.theme.style c).css.toList ++ (" \x7d".toList ++ rest)) := by
  induction cs with
  | nil => cases hc
  | cons d cs ih =>
    rw [List.map_cons, String.join_cons, String.toList_append]
    by_cases hd : c = d
    · subst hd
      exact ⟨_, r.behind?_rule_self c _⟩
    · rw [r.behind?_rule_of_ne hd]
      exact ih ((List.mem_cons.1 hc).resolve_left hd)

/-- A style sheet declares for the class of a category what the category looks like. -/
theorem declarations?_stylesheet {c : Category} (hc : c ≠ .whitespace) :
    declarations? r.stylesheet.toList c.cssClass.toList = some (r.theme.style c).css.toList := by
  have hmem : c ∈ Category.all.filter fun c => c ≠ .whitespace :=
    List.mem_filter.2 ⟨c.mem_all, decide_eq_true hc⟩
  obtain ⟨rest, hrest⟩ := r.behind?_rules hmem
  have hbrace : '\x7d' ∉ (r.theme.style c).css.toList := Style.notMem_css (by decide) _
  rw [declarations?, stylesheet, hrest]
  refine before?_append (List.cons_ne_nil _ _) (fun t ht hne rest hp => ?_) rest
  -- the brace of the mark would stand in the declarations, or where the mark has its blank
  match t, hne with
  | [_], _ => exact absurd (List.cons_prefix_cons.1 (List.cons_prefix_cons.1 hp).2).1 (by decide)
  | _ :: d :: _, _ =>
    have hd : '\x7d' = d := (List.cons_prefix_cons.1 (List.cons_prefix_cons.1 hp).2).1
    exact hbrace (ht.subset (hd ▸ List.mem_cons_of_mem _ List.mem_cons_self))

end Renderer

/-! ### Attributes that give classes -/

/-- No quote stands before the next tag. -/
def Quiet (cs : List Char) : Prop := '"' ∉ cs.takeWhile (· ≠ '<')

theorem Quiet.append {s rest : List Char} (hless : '<' ∉ s) (hquote : '"' ∉ s) (h : Quiet rest) :
    Quiet (s ++ rest) := by
  have hall : ∀ c ∈ s, decide (c ≠ '<') = true := fun c hc => decide_eq_true fun he => hless (he ▸ hc)
  rw [Quiet, List.takeWhile_append_of_pos hall, List.mem_append]
  exact fun hm => hm.elim hquote h

theorem classAt?_of_quiet {cs : List Char} (h : Quiet cs) : classAt? cs = none := by
  have hall : "class=\"jl-".toList.all (fun c => decide (c ≠ '<')) = true := rfl
  have hquote : '"' ∈ "class=\"jl-".toList := by decide
  refine if_neg fun hp => h ?_
  obtain ⟨rest, rfl⟩ := List.isPrefixOf_iff_prefix.1 hp
  rw [List.takeWhile_append_of_pos (List.all_eq_true.1 hall)]
  exact List.mem_append_left _ hquote

theorem classAt?_attribute {name : List Char} (hbegins : "jl-".toList <+: name)
    (hquote : '"' ∉ name) (rest : List Char) :
    classAt? ("class=\"".toList ++ (name ++ '"' :: rest)) = some name := by
  have hmark : "class=\"jl-".toList <+: "class=\"".toList ++ (name ++ '"' :: rest) := by
    obtain ⟨t, rfl⟩ := hbegins
    exact ⟨t ++ '"' :: rest, rfl⟩
  have hend : before? ['"'] (name ++ (['"'] ++ rest)) = some name := by
    refine before?_append (List.cons_ne_nil _ _) (fun t ht hne rest hp => ?_) rest
    obtain ⟨d, t, rfl⟩ := List.exists_cons_of_ne_nil hne
    have hd : '"' = d := (List.cons_prefix_cons.1 hp).1
    exact hquote (ht.subset (hd ▸ List.mem_cons_self))
  rw [classAt?, if_pos (List.isPrefixOf_iff_prefix.2 hmark)]
  exact hend

section Replacing

variable {sheet : List Char}

theorem restyle_cons {c : Char} {cs : List Char} (h : classAt? (c :: cs) = none) :
    restyle sheet 0 (c :: cs) = c :: restyle sheet 0 cs := by
  rw [restyle, h]
  rfl

theorem restyle_skip (sheet s rest : List Char) :
    restyle sheet s.length (s ++ rest) = restyle sheet 0 rest := by
  induction s with
  | nil => rfl
  | cons c s ih => exact ih

theorem restyle_attribute {name declarations : List Char} (hbegins : "jl-".toList <+: name)
    (hquote : '"' ∉ name) (h : declarations? sheet name = some declarations) (rest : List Char) :
    restyle sheet 0 ("class=\"".toList ++ (name ++ '"' :: rest)) =
      "style=\"".toList ++ (declarations ++ '"' :: restyle sheet 0 rest) := by
  have hclass := classAt?_attribute hbegins hquote rest
  have hskip := restyle_skip sheet ("lass=\"".toList ++ name ++ ['"']) rest
  have hlength : ("lass=\"".toList ++ name ++ ['"']).length = name.length + 7 := by
    rw [List.length_append, List.length_append, List.length_singleton]
    show 6 + name.length + 1 = _
    omega
  have hcons : "class=\"".toList ++ (name ++ '"' :: rest) =
      'c' :: ("lass=\"".toList ++ name ++ ['"'] ++ rest) := by
    rw [List.append_assoc, List.append_assoc]
    rfl
  rw [hcons] at hclass ⊢
  rw [restyle, hclass, Option.bind_some, h, Option.map_some]
  show "style=\"".toList ++ declarations ++ ['"'] ++ restyle sheet (name.length + 7) _ = _
  rw [← hlength, hskip, List.append_assoc, List.append_assoc]
  rfl

end Replacing

/-! ### Parts of a rendering -/

/-- In front of any quiet text, the replacement makes the second text of the first. What stands in
front of a quiet text is then quiet. -/
def Restyles (sheet : List Char) (html html' : String) : Prop :=
  ∀ rest, Quiet rest →
    restyle sheet 0 (html.toList ++ rest) = html'.toList ++ restyle sheet 0 rest ∧
      Quiet (html.toList ++ rest)

namespace Restyles

variable {sheet : List Char}

theorem empty : Restyles sheet "" "" := fun _ h => ⟨rfl, h⟩

theorem append {html₁ html₁' html₂ html₂' : String} (h₁ : Restyles sheet html₁ html₁')
    (h₂ : Restyles sheet html₂ html₂') : Restyles sheet (html₁ ++ html₂) (html₁' ++ html₂') := by
  intro rest hrest
  obtain ⟨heq₂, hquiet₂⟩ := h₂ rest hrest
  obtain ⟨heq₁, hquiet₁⟩ := h₁ _ hquiet₂
  rw [String.toList_append, String.toList_append, List.append_assoc, List.append_assoc, heq₁, heq₂]
  exact ⟨rfl, hquiet₁⟩

theorem join {α : Type} {f g : α → String} (h : ∀ a, Restyles sheet (f a) (g a)) (as : List α) :
    Restyles sheet (String.join (as.map f)) (String.join (as.map g)) := by
  induction as with
  | nil => exact empty
  | cons a as ih =>
    rw [List.map_cons, List.map_cons, String.join_cons, String.join_cons]
    exact (h a).append ih

theorem text {s : String} (hless : '<' ∉ s.toList) (hquote : '"' ∉ s.toList) :
    Restyles sheet s s := by
  intro rest hrest
  refine ⟨?_, hrest.append hless hquote⟩
  generalize s.toList = cs at hless hquote
  induction cs with
  | nil => rfl
  | cons c cs ih =>
    have hquiet : Quiet (c :: cs ++ rest) := hrest.append hless hquote
    have hrec := ih (fun hm => hless (List.mem_cons_of_mem c hm))
      fun hm => hquote (List.mem_cons_of_mem c hm)
    rw [List.cons_append] at hquiet ⊢
    rw [restyle_cons (classAt?_of_quiet hquiet), hrec, List.cons_append]

theorem escaped (s : String) : Restyles sheet (escape s) (escape s) :=
  text (less_notMem_escape s) (notMem_escape rfl (by decide) s)

theorem spanOpening {name declarations : String} (hbegins : "jl-".toList <+: name.toList)
    (hquote : '"' ∉ name.toList) (h : declarations? sheet name.toList = some declarations.toList) :
    Restyles sheet ("<span " ++ ("class=\"" ++ name ++ "\"") ++ ">")
      ("<span " ++ ("style=\"" ++ declarations ++ "\"") ++ ">") := by
  intro rest _
  have hattribute := restyle_attribute hbegins hquote h ('>' :: rest)
  have hbegin (cs : List Char) :
      restyle sheet 0 ("<span ".toList ++ cs) = "<span ".toList ++ restyle sheet 0 cs := rfl
  have hend : restyle sheet 0 ('>' :: rest) = '>' :: restyle sheet 0 rest := rfl
  rw [hend] at hattribute
  simp only [String.toList_append, List.append_assoc]
  refine ⟨?_, List.not_mem_nil⟩
  rw [hbegin]
  exact congrArg ("<span ".toList ++ ·) hattribute

end Restyles

namespace Renderer

variable (theme : Theme) (showLinenos : Bool)

def classes : Renderer := { theme, showLinenos, cssClasses := true }

def styles : Renderer := { theme, showLinenos }

theorem restyles_token (t : Token) :
    Restyles (classes theme showLinenos).stylesheet.toList ((classes theme showLinenos).token t)
      ((styles theme showLinenos).token t) := by
  unfold token
  by_cases h : t.category = .whitespace
  · rw [if_pos h, if_pos h]
    exact .escaped t.text
  · have hquote : '"' ∉ t.category.cssClass.toList := t.category.isSafe_cssClass.notMem rfl
    have hopen := Restyles.spanOpening (cssClass_begins t.category) hquote
      ((classes theme showLinenos).declarations?_stylesheet h)
    rw [if_neg h, if_neg h]
    exact (hopen.append (.escaped t.text)).append fun _ _ => ⟨rfl, List.not_mem_nil⟩

theorem restyles_lineNumber (sheet : List Char) (lineno : Nat) :
    Restyles sheet ((classes theme showLinenos).lineNumber lineno)
      ((styles theme showLinenos).lineNumber lineno) := by
  have hdigits : Restyles sheet (toString lineno) (toString lineno) :=
    .text (notMem_toString rfl lineno) (notMem_toString rfl lineno)
  have hopen : Restyles sheet "<span class=\"lineno\">" "<span class=\"lineno\">" :=
    fun _ _ => ⟨rfl, List.not_mem_nil⟩
  cases showLinenos with
  | false => exact .empty
  | true => exact (hopen.append hdigits).append fun _ _ => ⟨rfl, List.not_mem_nil⟩

theorem restyles_content (ts : List Token) :
    Restyles (classes theme showLinenos).stylesheet.toList ((classes theme showLinenos).content ts)
      ((styles theme showLinenos).content ts) := by
  unfold content
  split
  · exact fun _ _ => ⟨rfl, List.not_mem_nil⟩
  · exact .join (restyles_token theme showLinenos) ts

theorem restyles_line (lineno : Nat) (ts : List Token) :
    Restyles (classes theme showLinenos).stylesheet.toList
      ((classes theme showLinenos).line lineno ts) ((styles theme showLinenos).line lineno ts) := by
  have hopen : Restyles (classes theme showLinenos).stylesheet.toList "<div class=\"line\">"
      "<div class=\"line\">" := fun _ _ => ⟨rfl, List.not_mem_nil⟩
  have hnumber := restyles_lineNumber theme showLinenos
    (classes theme showLinenos).stylesheet.toList lineno
  have hcontent := restyles_content theme showLinenos ts
  exact ((hopen.append hnumber).append hcontent).append fun _ _ => ⟨rfl, List.not_mem_nil⟩

theorem restyles_render (ls : List (List Token)) :
    Restyles (classes theme showLinenos).stylesheet.toList ((classes theme showLinenos).render ls)
      ((styles theme showLinenos).render ls) := by
  have hopen : Restyles (classes theme showLinenos).stylesheet.toList "<pre class=\"jsxlight\">\n"
      "<pre class=\"jsxlight\">\n" := fun _ _ => ⟨rfl, List.not_mem_nil⟩
  have hlines := Restyles.join
    (fun p : List Token × Nat => restyles_line theme showLinenos p.2 p.1) (ls.zipIdx 1)
  exact (hopen.append hlines).append fun _ _ => ⟨rfl, List.not_mem_nil⟩

end Renderer

/-! ### The attributes of a page -/

/-- Every attribute in the tags of nodes is one of the given kind. -/
def AttributesAre (p : String × String → Prop) (ns : List Node) : Prop :=
  ∀ tag ∈ tagsOf ns, ∀ a ∈ tag.attributes, p a

namespace AttributesAre

variable {p : String × String → Prop}

theorem chars (s : String) : AttributesAre p (Html.chars s) := by
  intro tag htag
  rw [tagsOf_chars] at htag
  cases htag

theorem append {ns ms : List Node} (hn : AttributesAre p ns) (hm : AttributesAre p ms) :
    AttributesAre p (ns ++ ms) := by
  intro tag htag
  rw [tagsOf_append] at htag
  exact (List.mem_append.1 htag).elim (hn tag) (hm tag)

theorem flatMap {α : Type} {f : α → List Node} (h : ∀ a, AttributesAre p (f a)) (as : List α) :
    AttributesAre p (as.flatMap f) := by
  induction as with
  | nil => exact fun _ htag => nomatch htag
  | cons a as ih => exact (h a).append ih

theorem element {name : String} {attributes : List (String × String)} {ns ms : List Node}
    (ha : ∀ a ∈ attributes, p a) (hn : AttributesAre p ns) (hm : AttributesAre p ms) :
    AttributesAre p (.element name attributes ns :: ms) := by
  intro tag htag
  rw [tagsOf_element_cons, List.mem_cons, List.mem_append, List.mem_cons] at htag
  rcases htag with rfl | htag | rfl | htag
  · exact ha
  · exact hn tag htag
  · exact fun _ h => nomatch h
  · exact hm tag htag

end AttributesAre

namespace Renderer

variable (r : Renderer)

/-- The attributes of what stands around tokens. -/
def frame : List (String × String) :=
  [("class", "jsxlight"), ("class", "line"), ("class", "lineno")]

/-- An attribute stands around tokens or gives a token its look. -/
def IsWritten (a : String × String) : Prop := a ∈ frame ∨ ∃ c ≠ .whitespace, a = r.look c

theorem isWritten_of_frame {a : String × String} (h : a ∈ frame) :
    ∀ b ∈ [a], r.IsWritten b := by
  intro b hb
  rw [List.mem_singleton.1 hb]
  exact .inl h

theorem attributesAre_tokenNodes (t : Token) : AttributesAre r.IsWritten (r.tokenNodes t) := by
  unfold tokenNodes
  split
  · exact .chars _
  · rename_i h
    refine .element (fun a ha => ?_) (.chars _) (.chars "")
    exact .inr ⟨t.category, h, List.mem_singleton.1 ha⟩

theorem attributesAre_lineNodes (lineno : Nat) (ts : List Token) :
    AttributesAre r.IsWritten (r.lineNodes lineno ts) := by
  have hnumber : AttributesAre r.IsWritten (r.numberNodes lineno) := by
    unfold numberNodes
    split
    · exact .element (r.isWritten_of_frame (by decide)) (.chars _) (.chars "")
    · exact .chars ""
  have hcontent : AttributesAre r.IsWritten (r.contentNodes ts) := by
    unfold contentNodes
    split
    · intro tag htag a ha
      rw [List.mem_singleton.1 htag] at ha
      cases ha
    · exact .flatMap r.attributesAre_tokenNodes ts
  exact .element (r.isWritten_of_frame (by decide)) (hnumber.append hcontent) (.chars "\n")

theorem attributesAre_page (ls : List (List Token)) : AttributesAre r.IsWritten (r.page ls) := by
  have hlines := AttributesAre.flatMap
    (fun p : List Token × Nat => r.attributesAre_lineNodes p.2 p.1) (ls.zipIdx 1)
  have hbody := (AttributesAre.chars "\n").append hlines
  exact .element (r.isWritten_of_frame (by decide)) hbody (.chars "\n")

theorem declarations?_of_mem_tags {theme : Theme} {showLinenos : Bool} {ls : List (List Token)}
    {tag : Tag} {name : String}
    (htag : tag ∈ tags ((classes theme showLinenos).render ls))
    (hname : ("class", name) ∈ tag.attributes) (hbegins : "jl-".toList <+: name.toList) :
    ∃ c, name = c.cssClass ∧
      declarations? (classes theme showLinenos).stylesheet.toList name.toList =
        some (theme.style c).css.toList := by
  rw [tags_render] at htag
  have hwritten := (classes theme showLinenos).attributesAre_page ls tag htag _ hname
  rcases hwritten with hframe | ⟨c, hc, hlook⟩
  · have hnone : ∀ a ∈ frame, ¬"jl-".toList <+: a.2.toList := by decide
    exact absurd hbegins (hnone _ hframe)
  · obtain rfl : name = c.cssClass := congrArg Prod.snd hlook
    exact ⟨c, rfl, (classes theme showLinenos).declarations?_stylesheet hc⟩

/-- **The two renderings agree.** With the declarations of its own style sheet in place of the classes
of tokens, a rendering with classes is the rendering with styles. No class of a token is without a
rule. -/
theorem renderings_agree (theme : Theme) (showLinenos : Bool) (ls : List (List Token)) :
    withStyles (classes theme showLinenos).stylesheet ((classes theme showLinenos).render ls) =
        (styles theme showLinenos).render ls ∧
      ∀ tag ∈ tags ((classes theme showLinenos).render ls), ∀ name,
        ("class", name) ∈ tag.attributes → "jl-".toList <+: name.toList →
          ∃ c, name = c.cssClass ∧
            declarations? (classes theme showLinenos).stylesheet.toList name.toList =
              some (theme.style c).css.toList := by
  refine ⟨?_, fun tag htag name hname hbegins => declarations?_of_mem_tags htag hname hbegins⟩
  have hrestyle := (restyles_render theme showLinenos ls [] List.not_mem_nil).1
  rw [List.append_nil, restyle, List.append_nil] at hrestyle
  rw [withStyles, hrestyle, String.ofList_toList]

end Renderer

end TagHighlight.Html
