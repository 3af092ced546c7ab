import Mathlib.Data.List.Basic
import TagHighlight.Proofs.Html.Attributes
import TagHighlight.Proofs.Html.Markup

/-!
# The structure of a rendering

A rendering is a document, and `page` tells which: what the renderer writes part by part is read back
as the same part of the page (`reads_render`). The texts of tokens are part of the page as
characters only. So they have no influence on its tags (`tagsOf_page`), and the tags of a rendering
are those of its page.
-/

namespace TagHighlight.Html

/-! ### Parts of a page -/

def chars (s : String) : List Node := s.toList.map .char

def tagsOf (ns : List Node) : List Tag := (itemsOf ns).filterMap Item.tag?

theorem tagsOf_append (ns ms : List Node) : tagsOf (ns ++ ms) = tagsOf ns ++ tagsOf ms := by
  rw [tagsOf, itemsOf_append, List.filterMap_append]
  rfl

theorem tagsOf_char_cons (c : Char) (ns : List Node) : tagsOf (.char c :: ns) = tagsOf ns := rfl

theorem tagsOf_element_cons (name : String) (attributes : List (String × String))
    (ns ms : List Node) :
    tagsOf (.element name attributes ns :: ms) =
      ⟨.opening, name, attributes⟩ :: (tagsOf ns ++ ⟨.closing, name, []⟩ :: tagsOf ms) := by
  rw [tagsOf, itemsOf, Node.items, List.cons_append, List.append_assoc]
  show _ :: (itemsOf ns ++ _).filterMap Item.tag? = _
  rw [List.filterMap_append]
  rfl

theorem itemsOf_chars (s : String) : itemsOf (chars s) = s.toList.map .char := by
  rw [chars]
  induction s.toList with
  | nil => rfl
  | cons c cs ih => rw [List.map_cons, itemsOf, ih]; rfl

theorem tagsOf_chars (s : String) : tagsOf (chars s) = [] := by
  rw [tagsOf, itemsOf_chars, List.filterMap_map]
  exact List.filterMap_eq_nil_iff.2 fun _ _ => rfl

theorem tagsOf_flatMap_congr {α : Type} {f g : α → List Node} (as : List α)
    (h : ∀ a ∈ as, tagsOf (f a) = tagsOf (g a)) : tagsOf (as.flatMap f) = tagsOf (as.flatMap g) := by
  induction as with
  | nil => rfl
  | cons a as ih =>
    rw [List.flatMap_cons, List.flatMap_cons, tagsOf_append, tagsOf_append, h a List.mem_cons_self,
      ih fun b hb => h b (List.mem_cons_of_mem a hb)]

namespace Renderer

variable (r : Renderer)

/-! ### The page of lines -/

def tokenNodes (t : Token) : List Node :=
  if t.category = .whitespace then chars (escape t.text)
  else [.element "span" [r.look t.category] (chars (escape t.text))]

def numberNodes (lineno : Nat) : List Node :=
  if r.showLinenos then [.element "span" [("class", "lineno")] (chars (toString lineno))] else []

/-- A line without tokens holds a line break. -/
def contentNodes (ts : List Token) : List Node :=
  if ts.isEmpty then [.void "br" []] else ts.flatMap r.tokenNodes

def lineNodes (lineno : Nat) (ts : List Token) : List Node :=
  [.element "div" [("class", "line")] (r.numberNodes lineno ++ r.contentNodes ts), .char '\n']

/-- What a rendering of lines is as a document. -/
def page (ls : List (List Token)) : List Node :=
  [.element "pre" [("class", "jsxlight")]
    (.char '\n' :: (ls.zipIdx 1).flatMap fun (ts, n) => r.lineNodes n ts), .char '\n']

/-! ### A rendering is read as its page -/

theorem reads_chars {s : String} (h : '<' ∉ s.toList) : Reads s (itemsOf (chars s)) := by
  rw [itemsOf_chars]
  exact .text h

theorem reads_spanOpening {name value : String} (hname : name = "class" ∨ name = "style")
    (hvalue : IsSafe value) :
    Reads ("<span " ++ (name ++ "=\"" ++ value ++ "\"") ++ ">")
      [.tag ⟨.opening, "span", [(name, value)]⟩] := by
  intro rest
  have hquote : '"' ∉ value.toList := hvalue.notMem rfl
  have hread : readItems .text (("<span " ++ (name ++ "=\"" ++ value ++ "\"") ++ ">").toList ++ rest) =
      readItems (.quoted { name := "span".toList } name.toList '"' [])
        (value.toList ++ '"' :: '>' :: rest) := by
    simp only [String.toList_append, List.append_assoc]
    rcases hname with rfl | rfl <;> rfl
  rw [hread, readItems_quoted hquote]
  show Item.tag ⟨.opening, "span", [(String.ofList name.toList, String.ofList value.toList)]⟩ :: _ = _
  rw [String.ofList_toList, String.ofList_toList]
  rfl

theorem notMem_toString {d : Char} (hd : d.isDigit = false) (n : Nat) : d ∉ (toString n).toList := by
  intro hm
  rw [Nat.toString_eq_repr, Nat.toList_repr] at hm
  have hdigit := Nat.isDigit_of_mem_toDigits (by decide) (by decide) hm
  rw [hd] at hdigit
  cases hdigit

theorem reads_token (t : Token) : Reads (r.token t) (itemsOf (r.tokenNodes t)) := by
  have htext : Reads (escape t.text) (itemsOf (chars (escape t.text))) :=
    reads_chars (less_notMem_escape t.text)
  unfold token tokenNodes
  split
  · exact htext
  · have hopen := reads_spanOpening (r.look_name t.category) (r.isSafe_look t.category)
    rw [← appearance_eq] at hopen
    exact .element hopen htext fun _ => rfl

theorem reads_lineNumber (lineno : Nat) :
    Reads (r.lineNumber lineno) (itemsOf (r.numberNodes lineno)) := by
  unfold lineNumber numberNodes
  split
  · exact .element (fun _ => rfl) (reads_chars (notMem_toString rfl lineno)) fun _ => rfl
  · exact .empty

theorem reads_content (ts : List Token) : Reads (r.content ts) (itemsOf (r.contentNodes ts)) := by
  unfold content contentNodes
  split
  · exact fun _ => rfl
  · exact .join r.reads_token ts

theorem reads_line (lineno : Nat) (ts : List Token) :
    Reads (r.line lineno ts) (itemsOf (r.lineNodes lineno ts)) := by
  have hbody := (r.reads_lineNumber lineno).append (r.reads_content ts)
  rw [← itemsOf_append] at hbody
  have hclose : Reads "</div>" [.tag ⟨.closing, "div", []⟩] := fun _ => rfl
  have hparts : "<div class=\"line\">" ++ r.lineNumber lineno ++ r.content ts =
      "<div class=\"line\">" ++ (r.lineNumber lineno ++ r.content ts) := String.append_assoc
  have hfeed : "</div>\n" = "</div>" ++ "\n" := rfl
  unfold line
  rw [hparts, hfeed]
  exact .element (fun _ => rfl) hbody (hclose.append .feed)

theorem reads_render (ls : List (List Token)) : Reads (r.render ls) (itemsOf (r.page ls)) := by
  have hlines := Reads.join (fun p : List Token × Nat => r.reads_line p.2 p.1) (ls.zipIdx 1)
  have hbody : Reads _ (itemsOf (.char '\n' :: _)) := Reads.feed.append hlines
  have hclose : Reads "</pre>" [.tag ⟨.closing, "pre", []⟩] := fun _ => rfl
  have hparts (s : String) : "<pre class=\"jsxlight\">\n" ++ s =
      "<pre class=\"jsxlight\">" ++ ("\n" ++ s) := by
    rw [← String.append_assoc]
    rfl
  have hfeed : "</pre>\n" = "</pre>" ++ "\n" := rfl
  unfold render
  rw [hparts, hfeed]
  exact .element (fun _ => rfl) hbody (hclose.append .feed)

/-! ### The tags of a page -/

def silent (c : Category) : Token := { text := "", category := c }

theorem tagsOf_tokenNodes (t : Token) :
    tagsOf (r.tokenNodes t) = tagsOf (r.tokenNodes (silent t.category)) := by
  unfold tokenNodes
  by_cases h : t.category = .whitespace
  · rw [if_pos h, tagsOf_chars]
    rw [if_pos (show (silent t.category).category = .whitespace from h), tagsOf_chars]
  · rw [if_neg h, tagsOf_element_cons, tagsOf_chars]
    rw [if_neg (show (silent t.category).category ≠ .whitespace from h), tagsOf_element_cons, tagsOf_chars]
    rfl

theorem tagsOf_contentNodes (ts : List Token) :
    tagsOf (r.contentNodes ts) = tagsOf (r.contentNodes ((ts.map Token.category).map silent)) := by
  cases ts with
  | nil => rfl
  | cons t ts =>
    show tagsOf ((t :: ts).flatMap r.tokenNodes) =
      tagsOf ((((t :: ts).map Token.category).map silent).flatMap r.tokenNodes)
    rw [List.flatMap_map, List.flatMap_map]
    exact tagsOf_flatMap_congr _ fun t _ => r.tagsOf_tokenNodes t

theorem tagsOf_lineNodes (lineno : Nat) (ts : List Token) :
    tagsOf (r.lineNodes lineno ts) =
      tagsOf (r.lineNodes lineno ((ts.map Token.category).map silent)) := by
  rw [lineNodes, lineNodes, tagsOf_element_cons, tagsOf_element_cons, tagsOf_append, tagsOf_append,
    tagsOf_contentNodes]

/-- The texts of tokens do not change the tags. -/
theorem tagsOf_page (ls : List (List Token)) :
    tagsOf (r.page ls) = tagsOf (r.page ((ls.map (List.map Token.category)).map (List.map silent))) := by
  have hlines : tagsOf ((ls.zipIdx 1).flatMap fun (ts, n) => r.lineNodes n ts) =
      tagsOf ((((ls.map (List.map Token.category)).map (List.map silent)).zipIdx 1).flatMap
        fun (ts, n) => r.lineNodes n ts) := by
    rw [List.zipIdx_map, List.zipIdx_map, List.flatMap_map, List.flatMap_map]
    exact tagsOf_flatMap_congr _ fun p _ => r.tagsOf_lineNodes p.2 p.1
  unfold page
  simp only [tagsOf_element_cons, tagsOf_char_cons, hlines]

theorem tags_render (ls : List (List Token)) : tags (r.render ls) = tagsOf (r.page ls) := by
  rw [tags, (r.reads_render ls).items_eq]
  rfl

example : tags (render { cssClasses := true } [[⟨"<b>", .plain, 0⟩], []]) =
    [⟨.opening, "pre", [("class", "jsxlight")]⟩, ⟨.opening, "div", [("class", "line")]⟩,
      ⟨.opening, "span", [("class", "jl-plain")]⟩, ⟨.closing, "span", []⟩, ⟨.closing, "div", []⟩,
      ⟨.opening, "div", [("class", "line")]⟩, ⟨.void, "br", []⟩, ⟨.closing, "div", []⟩,
      ⟨.closing, "pre", []⟩] := by decide +kernel

/-- **The texts of tokens are never markup.** The tags of a rendering and their attributes depend on
nothing but the categories of the tokens on each line, and they are well nested: each rendering is
read as the page of its lines. -/
theorem markup_is_fixed_by_categories :
    (∀ ls ls' : List (List Token),
      ls.map (List.map Token.category) = ls'.map (List.map Token.category) →
        tags (r.render ls) = tags (r.render ls')) ∧
    ∀ ls, document? (r.render ls) = some (r.page ls) := by
  refine ⟨fun ls ls' h => ?_, fun ls => (r.reads_render ls).document?_eq⟩
  rw [tags_render, tags_render, tagsOf_page, h, ← tagsOf_page]

/-- Neither a tag nor the end of an attribute gets out of a text. -/
theorem markup_is_fixed_for_tag_texts :
    let r : Renderer := { showLinenos := true, cssClasses := true }
    let ls : List (List Token) := [[⟨"<b>", .plain, 0⟩, ⟨"</div>", .whitespace, 3⟩], []]
    let ls' : List (List Token) := [[⟨"\" onclick=\"'>", .plain, 0⟩, ⟨" ", .whitespace, 13⟩], []]
    ls.map (List.map Token.category) = ls'.map (List.map Token.category) ∧
      tags (r.render ls) = tags (r.render ls') ∧ document? (r.render ls') = some (r.page ls') := by
  intro r ls ls'
  have h : ls.map (List.map Token.category) = ls'.map (List.map Token.category) := rfl
  exact ⟨h, (markup_is_fixed_by_categories r).1 ls ls' h, (markup_is_fixed_by_categories r).2 ls'⟩

end Renderer

end TagHighlight.Html
