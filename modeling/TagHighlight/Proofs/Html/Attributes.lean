import Mathlib.Data.List.Basic
import TagHighlight.Html.Render
import TagHighlight.Proofs.Html.Entities

/-!
# What the attribute of a token holds

A text is safe when it holds none of the characters that are written as entities. The renderer writes
classes and styles as they are, and each of them is safe (`Renderer.isSafe_look`): the quote behind
a value ends it, and the `>` behind the quote ends the tag.
-/

namespace TagHighlight

open Html (hasEntity hasEntity_iff)

/-! ### Safe texts -/

/-- No character of the text is written as an entity. -/
def Html.IsSafe (s : String) : Prop := ∀ d ∈ s.toList, hasEntity d = false

instance Html.IsSafe.decidable (s : String) : Decidable (Html.IsSafe s) :=
  List.decidableBAll (fun d => hasEntity d = false) s.toList

theorem Html.IsSafe.append {s t : String} (hs : IsSafe s) (ht : IsSafe t) : IsSafe (s ++ t) := by
  intro d hd
  rw [String.toList_append, List.mem_append] at hd
  exact hd.elim (hs d) (ht d)

theorem Html.IsSafe.notMem {s : String} {d : Char} (h : IsSafe s) (hd : hasEntity d = true) :
    d ∉ s.toList := by
  intro hm
  rw [h d hm] at hd
  exact Bool.false_ne_true hd

open Html (IsSafe)

/-! ### Classes and styles -/

theorem Category.all_cssClass (c : Category) :
    c.cssClass.toList.all (fun d => d == '-' || d.isLower) = true := by
  cases c <;> decide +kernel

theorem Category.notMem_cssClass {d : Char} (h : (d == '-' || d.isLower) = false) (c : Category) :
    d ∉ c.cssClass.toList := by
  intro hd
  have hone := List.all_eq_true.1 c.all_cssClass d hd
  rw [h] at hone
  cases hone

theorem Category.isSafe_cssClass (c : Category) : IsSafe c.cssClass := by
  intro d hd
  rw [← Bool.not_eq_true, hasEntity_iff]
  rintro (rfl | rfl | rfl | rfl | rfl) <;> exact c.notMem_cssClass rfl hd

theorem dropFinalFeed_cases (cs : List Char) :
    cs = dropFinalFeed cs ∨ cs = dropFinalFeed cs ++ ['\n'] := by
  unfold dropFinalFeed
  split
  · rename_i hlast
    exact .inr (List.dropLast_append_getLast? '\n' hlast).symm
  · exact .inl rfl

theorem mem_dropFinalFeed_or {cs : List Char} {c : Char} (h : c ∈ cs) :
    c ∈ dropFinalFeed cs ∨ c = '\n' := by
  rcases dropFinalFeed_cases cs with hcs | hcs
  · rw [hcs] at h
    exact .inl h
  · rwa [hcs, List.mem_append, List.mem_singleton] at h

theorem Color.mem_text {color : Color} {d : Char} (hd : d ∈ color.text.toList) :
    d = '#' ∨ isHexDigit d = true ∨ d = '\n' := by
  have hcolor := color.isColor_text
  unfold isColor at hcolor
  split at hcolor
  · rename_i cs hcs
    have hdigits : (dropFinalFeed cs).all isHexDigit = true := (Bool.and_eq_true_iff.1 hcolor).2
    rw [hcs, List.mem_cons] at hd
    rcases hd with rfl | hd
    · exact .inl rfl
    · exact .inr ((mem_dropFinalFeed_or hd).imp_left (List.all_eq_true.1 hdigits d))
  · cases hcolor

/-- The characters that declarations are written with, those of colors apart. -/
def declarationChars : List Char := "color: ; font-style: italic; font-weight: bold".toList

theorem Style.mem_css {s : Style} {d : Char} (hd : d ∈ s.css.toList) :
    d ∈ declarationChars ∨ d = '#' ∨ isHexDigit d = true ∨ d = '\n' := by
  have hcolor : "color: ".toList ⊆ declarationChars := by decide
  have hitalic : (if s.italic.isOn then "; font-style: italic" else "").toList ⊆
      declarationChars := by
    split <;> decide
  have hbold : (if s.bold.isOn then "; font-weight: bold" else "").toList ⊆
      declarationChars := by
    split <;> decide
  simp only [css, String.toList_append, List.mem_append] at hd
  rcases hd with ((hd | hd) | hd) | hd
  · exact .inl (hcolor hd)
  · exact .inr (Color.mem_text hd)
  · exact .inl (hitalic hd)
  · exact .inl (hbold hd)

theorem Style.notMem_css {d : Char} (h : d ∉ declarationChars ∧ d ≠ '#' ∧ isHexDigit d = false ∧
    d ≠ '\n') (s : Style) : d ∉ s.css.toList := by
  intro hd
  obtain ⟨hdeclaration, hhash, hdigit, hfeed⟩ := h
  rcases mem_css hd with hd | hd | hd | hd
  · exact hdeclaration hd
  · exact hhash hd
  · rw [hdigit] at hd
    cases hd
  · exact hfeed hd

theorem Style.isSafe_css (s : Style) : IsSafe s.css := by
  intro d hd
  rw [← Bool.not_eq_true, hasEntity_iff]
  rintro (rfl | rfl | rfl | rfl | rfl) <;> exact s.notMem_css (by decide) hd

namespace Html.Renderer

variable (r : Renderer)

/-- The name and the value of the attribute that gives a token its look. -/
def look (c : Category) : String × String :=
  if r.cssClasses then ("class", c.cssClass) else ("style", (r.theme.style c).css)

theorem isSafe_look (c : Category) : IsSafe (r.look c).2 := by
  unfold look
  split
  · exact c.isSafe_cssClass
  · exact (r.theme.style c).isSafe_css

theorem appearance_eq (c : Category) :
    r.appearance c = (r.look c).1 ++ "=\"" ++ (r.look c).2 ++ "\"" := by
  unfold appearance look
  split <;> rfl

theorem look_name (c : Category) : (r.look c).1 = "class" ∨ (r.look c).1 = "style" := by
  unfold look
  split
  · exact .inl rfl
  · exact .inr rfl

end Html.Renderer

end TagHighlight
