import TagHighlight.Html.Render
import TagHighlight.Proofs.Html.Attributes
import TagHighlight.Proofs.Lexer.Partition

/-!
# Rendering loses no text

`plainText` undoes a rendering without knowing how it was made: it deletes the markup, which reaches
from a `<` through the next `>`, and then reads the entities. `Shows html s` says that in front of
any other text `html` is, without its markup, the text `s` as it is written in HTML. Both sides can
be put together part by part, so the lemmas follow the renderer from tags and escaped texts to
tokens, lines and whole texts.
-/

namespace TagHighlight

namespace Html

/-! ### Markup -/

/-- A text without its markup; `inside` tells whether the text begins inside a piece of it. A `<` that
no `>` follows begins none. -/
def dropMarkup (inside : Bool) : List Char → List Char
  | [] => []
  | c :: cs =>
    if inside then dropMarkup (c != '>') cs
    else if c = '<' ∧ '>' ∈ cs then dropMarkup true cs
    else c :: dropMarkup false cs

/-- What HTML shows of a text: its markup is deleted, and then its entities are read. -/
def plainText (html : String) : String := String.ofList (decode (dropMarkup false html.toList))

theorem dropMarkup_inside {body : List Char} (h : '>' ∉ body) (rest : List Char) :
    dropMarkup true (body ++ '>' :: rest) = dropMarkup false rest := by
  induction body with
  | nil => rfl
  | cons c body ih =>
    have hc : (c != '>') = true := bne_iff_ne.2 fun he => h (he ▸ List.mem_cons_self)
    rw [List.cons_append, dropMarkup, if_pos rfl, hc]
    exact ih fun hm => h (List.mem_cons_of_mem c hm)

theorem dropMarkup_outside {cs : List Char} (h : '<' ∉ cs) (rest : List Char) :
    dropMarkup false (cs ++ rest) = cs ++ dropMarkup false rest := by
  induction cs with
  | nil => rfl
  | cons c cs ih =>
    have hc : c ≠ '<' := fun he => h (he ▸ List.mem_cons_self)
    rw [List.cons_append, dropMarkup, if_neg Bool.false_ne_true, if_neg fun hm => hc hm.1,
      ih fun hm => h (List.mem_cons_of_mem c hm), List.cons_append]

/-! ### What a part of a rendering shows -/

/-- In front of any other text, the first text shows the second. -/
def Shows (html s : String) : Prop :=
  ∀ rest, dropMarkup false (html.toList ++ rest) =
    s.toList.flatMap escapeChar ++ dropMarkup false rest

namespace Shows

theorem empty : Shows "" "" := fun _ => rfl

theorem append {html html' s s' : String} (h : Shows html s) (h' : Shows html' s') :
    Shows (html ++ html') (s ++ s') := by
  intro rest
  rw [String.toList_append, String.toList_append, List.append_assoc, h, h', List.flatMap_append,
    List.append_assoc]

theorem nothing_append {html html' s : String} (h : Shows html "") (h' : Shows html' s) :
    Shows (html ++ html') s := by
  have happend := h.append h'
  rwa [String.empty_append] at happend

theorem append_nothing {html html' s : String} (h : Shows html s) (h' : Shows html' "") :
    Shows (html ++ html') s := by
  have happend := h.append h'
  rwa [String.append_empty] at happend

theorem tag {html after s : String} (body : List Char)
    (hhtml : html.toList = '<' :: (body ++ '>' :: after.toList)) (h : '>' ∉ body)
    (hafter : Shows after s) : Shows html s := by
  intro rest
  have hclose : '>' ∈ body ++ '>' :: (after.toList ++ rest) := by simp
  rw [hhtml, List.cons_append, List.append_assoc, List.cons_append, dropMarkup,
    if_neg Bool.false_ne_true, if_pos ⟨rfl, hclose⟩, dropMarkup_inside h]
  exact hafter rest

theorem escape (s : String) : Shows (escape s) s := by
  intro rest
  rw [dropMarkup_outside (less_notMem_escape s), Html.escape, String.toList_ofList]

theorem feed : Shows "\n" "\n" := fun _ => rfl

theorem join {α : Type} {f g : α → String} (h : ∀ a, Shows (f a) (g a)) (as : List α) :
    Shows (String.join (as.map f)) (String.join (as.map g)) := by
  induction as with
  | nil => exact empty
  | cons a as ih =>
    rw [List.map_cons, List.map_cons, String.join_cons, String.join_cons]
    exact (h a).append ih

theorem plainText_eq {html s : String} (h : Shows html s) : plainText html = s := by
  have hall := h []
  rw [List.append_nil, dropMarkup] at hall
  rw [plainText, hall, decode_escape_append, decode, List.append_nil, String.ofList_toList]

end Shows

/-- What an entity stands for is read no further, and a `<` that no `>` follows is no markup. -/
example : plainText "<i>&amp;lt;</i> 1 < 2" = "&lt; 1 < 2" := by decide

/-! ### Tokens, lines and texts -/

namespace Renderer

variable (r : Renderer)

theorem greater_notMem_appearance (c : Category) : '>' ∉ (r.appearance c).toList := by
  have hname : IsSafe (r.look c).1 := by
    rcases r.look_name c with h | h <;> rw [h] <;> decide
  have hequals : '>' ∉ "=\"".toList := by decide
  have hquote : '>' ∉ "\"".toList := by decide
  rw [appearance_eq]
  simp only [String.toList_append, List.mem_append, not_or]
  exact ⟨⟨⟨hname.notMem rfl, hequals⟩, (r.isSafe_look c).notMem rfl⟩, hquote⟩

theorem shows_token (t : Token) : Shows (r.token t) t.text := by
  have hclose : Shows "</span>" "" := .tag "/span".toList (by decide) (by decide) .empty
  have hopen : Shows ("<span " ++ r.appearance t.category ++ ">") "" := by
    refine .tag ("span ".toList ++ (r.appearance t.category).toList) ?_ ?_ .empty
    · rw [String.toList_append, String.toList_append]
      rfl
    · have hspan : '>' ∉ "span ".toList := by decide
      rw [List.mem_append, not_or]
      exact ⟨hspan, r.greater_notMem_appearance t.category⟩
  unfold token
  split
  · exact .escape t.text
  · exact (hopen.nothing_append (.escape t.text)).append_nothing hclose

/-- The texts of a line's tokens, and a line feed. -/
def lineText (ts : List Token) : String := String.join (ts.map Token.text) ++ "\n"

theorem shows_content (ts : List Token) : Shows (r.content ts) (String.join (ts.map Token.text)) := by
  have hbreak : Shows "<br>" "" := .tag "br".toList (by decide) (by decide) .empty
  unfold content
  cases ts with
  | nil => exact hbreak
  | cons t ts => exact .join r.shows_token (t :: ts)

theorem shows_line (h : r.showLinenos = false) (lineno : Nat) (ts : List Token) :
    Shows (r.line lineno ts) (lineText ts) := by
  have hopen : Shows "<div class=\"line\">" "" :=
    .tag "div class=\"line\"".toList (by decide) (by decide) .empty
  have hclose : Shows "</div>\n" "\n" := .tag "/div".toList (by decide) (by decide) .feed
  have hnumber : Shows (r.lineNumber lineno) "" := by
    rw [lineNumber, h, if_neg Bool.false_ne_true]
    exact .empty
  exact ((hopen.append_nothing hnumber).nothing_append (r.shows_content ts)).append hclose

/-- A rendering without line numbers shows a line feed, each line, and one more line feed. -/
theorem shows_render (h : r.showLinenos = false) (ls : List (List Token)) :
    Shows (r.render ls) ("\n" ++ String.join (ls.map lineText) ++ "\n") := by
  have hopen : Shows "<pre class=\"jsxlight\">\n" "\n" :=
    .tag "pre class=\"jsxlight\"".toList (by decide) (by decide) .feed
  have hclose : Shows "</pre>\n" "\n" := .tag "/pre".toList (by decide) (by decide) .feed
  have htexts : (ls.zipIdx 1).map (fun p => lineText p.1) = ls.map lineText := by
    have hfst := congrArg (List.map lineText) (List.zipIdx_map_fst 1 ls)
    rwa [List.map_map] at hfst
  unfold render
  refine (hopen.append ?_).append hclose
  rw [← htexts]
  apply Shows.join
  rintro ⟨ts, n⟩
  exact r.shows_line h n ts

theorem plainText_render (h : r.showLinenos = false) (ls : List (List Token)) :
    plainText (r.render ls) = "\n" ++ String.join (ls.map lineText) ++ "\n" :=
  (r.shows_render h ls).plainText_eq

theorem join_lineText (config : Config) (text : String) :
    String.join (((Text.lines text).map (Lexer.tokens config)).map lineText) = text ++ "\n" := by
  have hline (line : String) : lineText (Lexer.tokens config line) = line ++ "\n" := by
    have htext := (Lexer.partitions_tokens config line).text_eq
    rw [lineText, ← String.toList_inj, String.toList_append, String.toList_join, List.flatMap_map,
      htext, String.toList_append]
  have hlines : ((Text.lines text).map (Lexer.tokens config)).map lineText =
      (Text.lines text).map (· ++ "\n") := by
    rw [List.map_map]
    exact List.map_congr_left fun line _ => hline line
  rw [hlines, Text.join_lines]

end Renderer

end Html

/-- **Highlighting loses no text.** Whatever the theme, the configuration and the text, deleting the
markup and reading the entities gives a line feed, the text, and two line feeds, both with styles
and with classes; and from any lines of tokens it gives a line feed, the texts of each line with a
line feed behind them, and one more line feed. -/
theorem highlighting_loses_no_text (theme : Theme) :
    (∀ config text, ∃ html log, highlight config theme false text = .ok (html, log) ∧
      Html.plainText html = "\n" ++ text ++ "\n\n") ∧
    (∀ config text, ∃ ls, classify config text = .ok ls ∧
      Html.plainText (Html.Renderer.render { theme, cssClasses := true } ls) =
        "\n" ++ text ++ "\n\n") ∧
    ∀ (cssClasses : Bool) (ls : List (List Token)),
      Html.plainText (Html.Renderer.render { theme, cssClasses } ls) =
        "\n" ++ String.join (ls.map fun ts => String.join (ts.map Token.text) ++ "\n") ++ "\n" := by
  have htext (r : Html.Renderer) (h : r.showLinenos = false) (config : Config) (text : String) :
      Html.plainText (r.render ((Text.lines text).map (Lexer.tokens config))) =
        "\n" ++ text ++ "\n\n" := by
    rw [r.plainText_render h, Html.Renderer.join_lineText, ← String.append_assoc, String.append_assoc]
    rfl
  refine ⟨fun config text => ?_, fun config text => ?_, fun cssClasses ls => ?_⟩
  · refine ⟨_, Html.Renderer.warnings { theme } ((Text.lines text).map (Lexer.tokens config)), ?_,
      htext { theme } rfl config text⟩
    rw [highlight, classify_eq]
    rfl
  · exact ⟨_, classify_eq config text, htext { theme, cssClasses := true } rfl config text⟩
  · exact Html.Renderer.plainText_render { theme, cssClasses } rfl ls

end TagHighlight
