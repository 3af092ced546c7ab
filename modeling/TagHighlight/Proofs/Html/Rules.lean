import TagHighlight.Proofs.Html.Attributes
import TagHighlight.Proofs.Text.Lines
import TagHighlight.Proofs.Theme.Items

/-!
# Rules of a style sheet

A color is meant to be a hash sign with three or six hexadecimal digits (`IsHexColor`). The check
lets one line feed through behind the digits, and nothing else (`isColor_iff`); the line feed is kept.

What that means for a theme is decided by the last item for each category, which gives the category
its color: all colors are what they are meant to be exactly when none of these items offers a color
with a line feed. What it means for a style sheet is seen in its lines. Each rule ends in a line feed,
so the lines of the sheet are the lines of its rules one after the other (`lines_stylesheet`), and a
rule is one line exactly when its color is what it is meant to be.
-/

namespace TagHighlight

/-! ### Colors -/

def IsAsciiHexDigit (c : Char) : Prop :=
  ('0' ≤ c ∧ c ≤ '9') ∨ ('a' ≤ c ∧ c ≤ 'f') ∨ ('A' ≤ c ∧ c ≤ 'F')

/-- The text is a hash sign and three or six hexadecimal digits, and nothing else. -/
def IsHexColor (s : String) : Prop :=
  ∃ digits, s.toList = '#' :: digits ∧ (digits.length = 3 ∨ digits.length = 6) ∧
    ∀ d ∈ digits, IsAsciiHexDigit d

theorem isHexDigit_iff {c : Char} : isHexDigit c = true ↔ IsAsciiHexDigit c := by
  unfold isHexDigit Text.hexValue? IsAsciiHexDigit
  split
  · rename_i h
    simp [h]
  · rename_i hdigit
    split
    · rename_i h
      simp [h]
    · rename_i hsmall
      split
      · rename_i h
        simp [h]
      · rename_i hcapital
        simp [hdigit, hsmall, hcapital]

theorem not_isAsciiHexDigit_feed : ¬IsAsciiHexDigit '\n' := by
  rw [← isHexDigit_iff]
  decide

theorem IsHexColor.feed_notMem {s : String} (h : IsHexColor s) : '\n' ∉ s.toList := by
  obtain ⟨digits, hs, -, hdigits⟩ := h
  rw [hs, List.mem_cons, not_or]
  exact ⟨by decide, fun hd => not_isAsciiHexDigit_feed (hdigits _ hd)⟩

theorem dropFinalFeed_of_notMem {cs : List Char} (h : '\n' ∉ cs) : dropFinalFeed cs = cs :=
  if_neg fun hlast => h (List.mem_of_getLast? hlast)

theorem dropFinalFeed_append_feed (cs : List Char) : dropFinalFeed (cs ++ ['\n']) = cs := by
  rw [dropFinalFeed, if_pos List.getLast?_concat, List.dropLast_concat]

theorem isColor_iff_digits {cs : List Char} : isColor cs = true ↔ ∃ rest, cs = '#' :: rest ∧
    ((dropFinalFeed rest).length = 3 ∨ (dropFinalFeed rest).length = 6) ∧
    ∀ d ∈ dropFinalFeed rest, IsAsciiHexDigit d := by
  unfold isColor
  split
  · simp [isHexDigit_iff]
  · rename_i hhash
    refine iff_of_false Bool.false_ne_true ?_
    rintro ⟨rest, rfl, -⟩
    exact hhash rest rfl

/-- A text passes for a color when it is one, but for one line feed that may follow. -/
theorem isColor_iff {s : String} :
    isColor s.toList = true ↔ ∃ hex, IsHexColor hex ∧ (s = hex ∨ s = hex ++ "\n") := by
  rw [isColor_iff_digits]
  constructor
  · rintro ⟨rest, hs, hlength, hdigits⟩
    refine ⟨String.ofList ('#' :: dropFinalFeed rest), ⟨_, String.toList_ofList, hlength, hdigits⟩, ?_⟩
    rw [← String.toList_inj, ← String.toList_inj, String.toList_append, String.toList_ofList, hs]
    exact (dropFinalFeed_cases rest).imp (congrArg ('#' :: ·)) (congrArg ('#' :: ·))
  · rintro ⟨hex, hhex, hs⟩
    have hfeed := hhex.feed_notMem
    obtain ⟨digits, hdigits, hhex⟩ := hhex
    rw [hdigits, List.mem_cons, not_or] at hfeed
    -- the digits are what is looked at, whether or not a line feed stands behind them
    rcases hs with rfl | rfl
    · refine ⟨digits, hdigits, ?_⟩
      rwa [dropFinalFeed_of_notMem hfeed.2]
    · refine ⟨digits ++ ['\n'], ?_, ?_⟩
      · rw [String.toList_append, hdigits]
        rfl
      · rwa [dropFinalFeed_append_feed]

theorem isHexColor_iff {s : String} :
    IsHexColor s ↔ isColor s.toList = true ∧ '\n' ∉ s.toList := by
  constructor
  · intro h
    exact ⟨isColor_iff.2 ⟨s, h, .inl rfl⟩, h.feed_notMem⟩
  · rintro ⟨hcolor, hfeed⟩
    obtain ⟨hex, hhex, rfl | rfl⟩ := isColor_iff.1 hcolor
    · exact hhex
    · rw [String.toList_append] at hfeed
      exact absurd (List.mem_append_right _ (List.mem_singleton.2 rfl)) hfeed

theorem Color.isHexColor_iff (color : Color) :
    IsHexColor color.text ↔ '\n' ∉ color.text.toList := by
  rw [TagHighlight.isHexColor_iff]
  exact and_iff_right color.isColor_text

/-! ### Which items give the colors -/

/-- The text that the value of an item offers as a color. -/
def offeredColor? : Json → Option LooseText
  | .str s => some s
  | .obj members =>
    match (Json.obj members).get? "color" with
    | some (.str s) => some s
    | _ => none
  | _ => none

/-- The item names the category, and no item behind it does. -/
def IsLastFor (items : List (Json × Json)) (item : Json × Json) (c : Category) : Prop :=
  ∃ before after, items = before ++ item :: after ∧ Names item.1 c ∧
    ∀ other ∈ after, ¬Names other.1 c

theorem IsLastFor.mem {items : List (Json × Json)} {item : Json × Json} {c : Category}
    (h : IsLastFor items item c) : item ∈ items := by
  obtain ⟨before, after, rfl, -⟩ := h
  exact List.mem_append_right before List.mem_cons_self

theorem GivesStyle.offeredColor?_eq {value : Json} {style : Style} (h : GivesStyle value style) :
    offeredColor? value = some (.ofString style.color.text) := by
  cases h with
  | color color => rfl
  | parts _ hcolor => simp only [offeredColor?, hcolor]

namespace Theme

variable {name : LooseText} {items : List (Json × Json)} {theme : Theme}

theorem isOf_of_ofItems? (h : ofItems? name items = .ok theme) : theme.IsOf items := by
  by_cases hitems : IsTheme items
  · obtain ⟨made, hmade, hof⟩ : ∃ made, ofItems? name items = .ok made ∧ made.name = name ∧
        made.IsOf items := exists_ofItems?_eq_ok hitems
    obtain rfl := Except.ok.inj (hmade.symm.trans h)
    exact hof.2
  · obtain ⟨e, he⟩ : ∃ e : ThemeError, ofItems? name items = .error e ∧ e.IsFirstOf name items :=
      exists_ofItems?_eq_error hitems
    rw [he.1] at h
    cases h

theorem IsOf.color_of_last {item : Json × Json} {c : Category} (h : theme.IsOf items)
    (hlast : IsLastFor items item c) :
    offeredColor? item.2 = some (.ofString (theme.style c).color.text) := by
  obtain ⟨before, after, hitems, hc, hafter⟩ := hlast
  exact (h.style_of_last before item after c hitems hc hafter).offeredColor?_eq

theorem IsOf.exists_last (h : theme.IsOf items) (c : Category) :
    ∃ item d, IsLastFor items item d ∧ theme.style c = theme.style d := by
  have hcover (d : Category) (hd : ∃ item ∈ items, Names item.1 d) :
      ∃ item, IsLastFor items item d := by
    obtain ⟨before, item, after, hlast⟩ := exists_last_names hd
    exact ⟨item, before, after, hlast⟩
  by_cases hc : ∃ item ∈ items, Names item.1 c
  · obtain ⟨item, hlast⟩ := hcover c hc
    exact ⟨item, c, hlast, rfl⟩
  · have hplain : theme.covers .plain = true := by
      rw [covers, theme.styles_plain, Option.isSome_some]
    obtain ⟨item, hlast⟩ := hcover .plain ((h.covers_iff .plain).1 hplain)
    exact ⟨item, .plain, hlast, h.style_of_none c fun item hitem hn => hc ⟨item, hitem, hn⟩⟩

theorem IsOf.isHexColor_iff (h : theme.IsOf items) :
    (∀ c, IsHexColor (theme.style c).color.text) ↔
      ∀ item c s, IsLastFor items item c → offeredColor? item.2 = some s →
        .char '\n' ∉ s.points := by
  constructor
  · intro hall item c s hlast hs
    obtain rfl := Option.some.inj ((h.color_of_last hlast).symm.trans hs)
    rw [LooseText.char_mem_points_ofString]
    exact (hall c).feed_notMem
  · intro hall c
    obtain ⟨item, d, hlast, hstyle⟩ := h.exists_last c
    rw [hstyle, Color.isHexColor_iff, ← LooseText.char_mem_points_ofString]
    exact hall item d _ hlast (h.color_of_last hlast)

end Theme

/-! ### Lines of a style sheet -/

namespace Html

def ruleOpening (c : Category) : String := ".jsxlight ." ++ c.cssClass ++ " \x7b color: "

def ruleClosing (style : Style) : String :=
  (if style.italic.isOn then "; font-style: italic" else "") ++
    (if style.bold.isOn then "; font-weight: bold" else "") ++ " \x7d"

/-- The rule for a category with a style, without the line feed behind it. -/
def completeRule (c : Category) (style : Style) : String :=
  ruleOpening c ++ style.color.text ++ ruleClosing style

/-- The categories that a style sheet has rules for, in order. -/
def ruledCategories : List Category := Category.all.filter fun c => c ≠ .whitespace

theorem feed_notMem_ruleOpening (c : Category) : '\n' ∉ (ruleOpening c).toList := by
  have hclass : '\n' ∉ c.cssClass.toList := c.notMem_cssClass rfl
  have hfront : '\n' ∉ ".jsxlight .".toList := by decide
  have hcolor : '\n' ∉ " \x7b color: ".toList := by decide
  simp only [ruleOpening, String.toList_append, List.mem_append, not_or]
  exact ⟨⟨hfront, hclass⟩, hcolor⟩

theorem feed_notMem_ruleClosing (style : Style) : '\n' ∉ (ruleClosing style).toList := by
  unfold ruleClosing
  split <;> split <;> decide

theorem feed_mem_completeRule_iff {c : Category} {style : Style} :
    '\n' ∈ (completeRule c style).toList ↔ '\n' ∈ style.color.text.toList := by
  rw [completeRule, String.toList_append, String.toList_append, List.mem_append, List.mem_append,
    or_iff_left (feed_notMem_ruleClosing style), or_iff_right (feed_notMem_ruleOpening c)]

theorem lines_completeRule_of_feed {c : Category} {style : Style} {hex : String}
    (hhex : IsHexColor hex) (hcolor : style.color.text = hex ++ "\n") :
    Text.lines (completeRule c style) = [ruleOpening c ++ hex, ruleClosing style] := by
  have hopening : '\n' ∉ (ruleOpening c ++ hex).toList := by
    rw [String.toList_append, List.mem_append, not_or]
    exact ⟨feed_notMem_ruleOpening c, hhex.feed_notMem⟩
  rw [completeRule, hcolor, ← String.append_assoc, Text.lines_append_feed,
    Text.lines_of_feed_notMem hopening, Text.lines_of_feed_notMem (feed_notMem_ruleClosing style)]
  rfl

namespace Renderer

variable (r : Renderer)

theorem rule_eq (c : Category) : r.rule c = completeRule c (r.theme.style c) ++ "\n" := by
  unfold rule completeRule ruleOpening ruleClosing Style.css
  rw [← String.toList_inj]
  simp only [String.toList_append, List.append_assoc]
  rfl

theorem lines_rules (cs : List Category) : Text.lines (String.join (cs.map r.rule)) =
    (cs.flatMap fun c => Text.lines (completeRule c (r.theme.style c))) ++ [""] := by
  induction cs with
  | nil => rfl
  | cons c cs ih =>
    rw [List.map_cons, String.join_cons, rule_eq, Text.lines_append_feed, ih, List.flatMap_cons,
      List.append_assoc]

theorem lines_stylesheet : Text.lines r.stylesheet =
    (ruledCategories.flatMap fun c => Text.lines (completeRule c (r.theme.style c))) ++ [""] :=
  r.lines_rules _

theorem lines_stylesheet_eq_iff : Text.lines r.stylesheet =
      (ruledCategories.map fun c => completeRule c (r.theme.style c)) ++ [""] ↔
    ∀ c ∈ ruledCategories, IsHexColor (r.theme.style c).color.text := by
  constructor
  · intro hlines c hc
    have hrule : completeRule c (r.theme.style c) ∈ Text.lines r.stylesheet := by
      rw [hlines]
      exact List.mem_append_left _ (List.mem_map_of_mem hc)
    rw [Color.isHexColor_iff, ← feed_mem_completeRule_iff]
    exact (Text.areLines_lines _).feed_notMem _ hrule
  · intro hcolors
    have hone (c : Category) (hc : c ∈ ruledCategories) :
        Text.lines (completeRule c (r.theme.style c)) = [completeRule c (r.theme.style c)] := by
      refine Text.lines_of_feed_notMem ?_
      rw [feed_mem_completeRule_iff]
      exact (hcolors c hc).feed_notMem
    rw [lines_stylesheet, List.flatMap_congr hone, ← List.map_eq_flatMap]

end Renderer

end Html

/-! ### Themes that are read -/

open Html (completeRule ruleOpening ruleClosing ruledCategories)

/-- **Colors and rules are whole but for line feeds.** A color of a theme is a hash sign with three
or six hexadecimal digits, or that with a line feed behind it, which the last item for some category
has offered. A style sheet has one line for each category that it shows, the whole rule, exactly when
none of these categories has a color with a line feed; the rule of one that has is two lines. -/
theorem Theme.colors_and_rules_are_whole_but_for_feeds {name : LooseText} {items : List (Json × Json)}
    {theme : Theme} (h : ofItems? name items = .ok theme) :
    ((∀ c, ∃ hex, IsHexColor hex ∧
        ((theme.style c).color.text = hex ∨ (theme.style c).color.text = hex ++ "\n")) ∧
      ((∀ c, IsHexColor (theme.style c).color.text) ↔
        ∀ item c s, IsLastFor items item c → offeredColor? item.2 = some s →
          .char '\n' ∉ s.points)) ∧
    ∀ r : Html.Renderer, r.theme = theme →
      (Text.lines r.stylesheet =
          (ruledCategories.map fun c => completeRule c (theme.style c)) ++ [""] ↔
        ∀ c ∈ ruledCategories, IsHexColor (theme.style c).color.text) ∧
      Text.lines r.stylesheet =
        (ruledCategories.flatMap fun c => Text.lines (completeRule c (theme.style c))) ++ [""] ∧
      ∀ c hex, IsHexColor hex → (theme.style c).color.text = hex ++ "\n" →
        Text.lines (completeRule c (theme.style c)) =
          [ruleOpening c ++ hex, ruleClosing (theme.style c)] := by
  refine ⟨⟨fun c => isColor_iff.1 (theme.style c).color.isColor_text,
    (isOf_of_ofItems? h).isHexColor_iff⟩, ?_⟩
  rintro r rfl
  refine ⟨r.lines_stylesheet_eq_iff, r.lines_stylesheet, fun c hex hhex hcolor => ?_⟩
  exact Html.lines_completeRule_of_feed hhex hcolor

/-- The items of a theme with two colors, the one of keywords in bold type. -/
def Theme.twoColors : List (Json × Json) :=
  [(.str (.ofString "plain"), .str (.ofString "#fff")),
    (.str (.ofString "Keyword"),
      .obj [(.ofString "color", .str (.ofString "#A6e3a1")), (.ofString "bold", .bool true)])]

theorem Theme.colors_and_rules_are_whole_for_two_colors :
    ∃ theme, ofItems? "t" twoColors = .ok theme ∧
      (∀ c, IsHexColor (theme.style c).color.text) ∧
      Text.lines (Html.Renderer.stylesheet { theme }) =
        (ruledCategories.map fun c => completeRule c (theme.style c)) ++ [""] := by
  obtain ⟨theme, h⟩ : ∃ theme, ofItems? "t" twoColors = .ok theme := ⟨_, rfl⟩
  obtain ⟨⟨-, hcolors⟩, hrules⟩ := colors_and_rules_are_whole_but_for_feeds h
  have hhex : ∀ c, IsHexColor (theme.style c).color.text := by
    refine hcolors.2 fun item c s hlast hs => ?_
    rcases List.mem_pair.1 hlast.mem with rfl | rfl
    · cases hs
      decide
    · cases hs
      decide
  exact ⟨theme, h, hhex, ((hrules _ rfl).1).2 fun c _ => hhex c⟩

/-- With a line feed behind it the color of plain text is none, and it breaks the first rule in two. -/
theorem Theme.feed_breaks_a_rule :
    ∃ theme, ofItems? "t" [(.str (.ofString "plain"), .str (.ofString "#fff\n"))] = .ok theme ∧
      ¬IsHexColor (theme.style .plain).color.text ∧
      [".jsxlight .jl-keyword \x7b color: #fff", " \x7d"] <+:
        Text.lines (Html.Renderer.stylesheet { theme }) := by
  have hhex : IsHexColor "#fff" := isHexColor_iff.2 ⟨by decide, by decide⟩
  refine ⟨_, rfl, fun h => h.feed_notMem (by decide), ?_⟩
  have hfirst : ruledCategories = .keyword :: ruledCategories.tail := rfl
  rw [Html.Renderer.lines_stylesheet, hfirst, List.flatMap_cons,
    Html.lines_completeRule_of_feed hhex rfl, List.append_assoc]
  exact List.prefix_append _ _

end TagHighlight
