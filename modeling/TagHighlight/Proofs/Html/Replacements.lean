import Mathlib.Data.List.Basic
import TagHighlight.Proofs.Html.Entities

/-!
# Escaping by replacements

`escape` goes over a text once. The same can be done character by character of the table: all
ampersands of the text are replaced, then all `<` of what came out of that, and so on
(`escapeInTurn`). Each replacement then works on what the earlier ones have written, and it goes well
because no entity holds a character that is still to be replaced: ampersands come first. That is the
only condition (`foldl_replaceChar`), so a replacement that is made twice does no harm either.

`IsEscaped` says what an escaped text looks like, without saying where it came from: apart from the
ampersands that start entities it holds none of the five characters. Every such text is the escape of
one text and of no other (`isEscaped_iff`, `escape_inj`).
-/

namespace TagHighlight.Html

open TagHighlight.Text (apostrophe doubleQuote)

/-! ### Replacements in turn -/

/-- A text with another text in place of each occurrence of a character. -/
def replaceChar (p : Char × List Char) (cs : List Char) : List Char :=
  cs.flatMap fun c => if c = p.1 then p.2 else [c]

/-- What stands for a character when all replacements are made at once. -/
def replacement (ps : List (Char × List Char)) (c : Char) : List Char := (ps.lookup c).getD [c]

theorem replacement_cons (p : Char × List Char) (ps : List (Char × List Char)) (c : Char) :
    replacement (p :: ps) c = if c = p.1 then p.2 else replacement ps c := by
  obtain ⟨old, new⟩ := p
  by_cases hc : c = old
  · simp [replacement, hc]
  · have hbeq : (c == old) = false := by simpa using hc
    simp [replacement, List.lookup_cons, hbeq, hc]

theorem replacement_of_ne {ps : List (Char × List Char)} {c : Char} (h : ∀ p ∈ ps, c ≠ p.1) :
    replacement ps c = [c] := by
  induction ps with
  | nil => rfl
  | cons p ps ih =>
    rw [replacement_cons, if_neg (h p (by simp))]
    apply ih
    intro q hq
    exact h q (by simp [hq])

/-- Replacements that are made one after the other over the whole text are the ones made at once, if
none of them writes a character that a later one replaces. -/
theorem foldl_replaceChar {ps : List (Char × List Char)} (h : ps.Pairwise fun p q => q.1 ∉ p.2)
    (cs : List Char) :
    ps.foldl (fun cs p => replaceChar p cs) cs = cs.flatMap (replacement ps) := by
  induction ps generalizing cs with
  | nil =>
    show cs = cs.flatMap fun c => [c]
    simp
  | cons p ps ih =>
    obtain ⟨hp, hps⟩ := List.pairwise_cons.1 h
    rw [List.foldl_cons, ih hps, replaceChar, List.flatMap_assoc]
    apply List.flatMap_congr
    intro c _
    rw [replacement_cons]
    by_cases hc : c = p.1
    · have hstay : ∀ d ∈ p.2, replacement ps d = [d] := by
        intro d hd
        apply replacement_of_ne
        intro q hq he
        exact hp q hq (he ▸ hd)
      rw [if_pos hc, if_pos hc, List.flatMap_congr hstay]
      simp
    · rw [if_neg hc, if_neg hc]
      simp

/-- The characters that have entities, with these, in the order in which they are replaced. -/
def entities : List (Char × List Char) :=
  [('&', "&amp;".toList), ('<', "&lt;".toList), ('>', "&gt;".toList),
    (doubleQuote, "&quot;".toList), (apostrophe, "&#x27;".toList)]

/-- The replacements of a whole text: the apostrophe has a second turn. -/
def turns : List (Char × List Char) := entities ++ [(apostrophe, "&#x27;".toList)]

/-- A text as it is written in HTML, by replacements of the whole text. -/
def escapeInTurn (s : String) : String :=
  if s.isEmpty then "" else String.ofList (turns.foldl (fun cs p => replaceChar p cs) s.toList)

theorem replacement_turns (c : Char) : replacement turns c = escapeChar c := by
  cases h : hasEntity c with
  | true => rcases hasEntity_iff.1 h with rfl | rfl | rfl | rfl | rfl <;> rfl
  | false =>
    rw [escapeChar_of_hasEntity_eq_false h]
    apply replacement_of_ne
    rintro p hp rfl
    have hall : ∀ p ∈ turns, hasEntity p.1 = true := by decide
    rw [hall p hp] at h
    cases h

theorem escapeInTurn_eq (s : String) : escapeInTurn s = escape s := by
  unfold escapeInTurn
  by_cases hs : s.isEmpty = true
  · rw [if_pos hs, String.isEmpty_iff.1 hs]
    rfl
  · rw [if_neg hs, foldl_replaceChar (by decide), escape,
      List.flatMap_congr fun c _ => replacement_turns c]

theorem escape_append (a b : String) : escape (a ++ b) = escape a ++ escape b := by
  simp only [escape, String.toList_append, List.flatMap_append, String.ofList_append]

/-! ### Escaped texts -/

/-- A text with an entity for each character that has one: an ampersand only ever starts an entity,
and the four other characters are not there. -/
structure IsEscaped (cs : List Char) : Prop where
  notMem : ∀ c ∈ ['<', '>', doubleQuote, apostrophe], c ∉ cs
  entity : ∀ rest, '&' :: rest <:+ cs → ∃ p ∈ entities, p.2 <+: '&' :: rest

namespace IsEscaped

theorem nil : IsEscaped [] where
  notMem c _ hc := by cases hc
  entity rest h := by simp at h

theorem of_suffix {cs ds : List Char} (h : IsEscaped cs) (hds : ds <:+ cs) : IsEscaped ds where
  notMem c hc hm := h.notMem c hc (hds.mem hm)
  entity rest hrest := h.entity rest (hrest.trans hds)

theorem append {cs ds : List Char} (hcs : IsEscaped cs) (hds : IsEscaped ds) :
    IsEscaped (cs ++ ds) where
  notMem c hc hm := by
    rcases List.mem_append.1 hm with hm | hm
    · exact hcs.notMem c hc hm
    · exact hds.notMem c hc hm
  entity rest hrest := by
    obtain ⟨before, happ⟩ := hrest
    -- an ampersand of the first text has its whole entity there
    rcases List.append_eq_append_iff.1 happ with ⟨r, rfl, hr⟩ | ⟨r, -, rfl⟩
    · cases r with
      | nil => exact hds.entity rest ⟨[], hr⟩
      | cons c r =>
        obtain ⟨rfl, rfl⟩ := List.cons.inj hr
        obtain ⟨p, hp, hprefix⟩ := hcs.entity r (List.suffix_append _ _)
        exact ⟨p, hp, hprefix.trans (List.prefix_append _ _)⟩
    · exact hds.entity rest (List.suffix_append _ _)

end IsEscaped

theorem isEscaped_of_mem_entities {p : Char × List Char} (hp : p ∈ entities) : IsEscaped p.2 := by
  have hmarks : (entities.all fun q => ['<', '>', doubleQuote, apostrophe].all (· ∉ q.2)) = true := by
    decide
  have hone : ∀ q ∈ entities, q.2.head? = some '&' ∧ '&' ∉ q.2.tail := by decide
  obtain ⟨hhead, htail⟩ := hone p hp
  refine ⟨fun c hc => ?_, fun rest hrest => ?_⟩
  · have hmark := List.all_eq_true.1 (List.all_eq_true.1 hmarks p hp) c hc
    exact of_decide_eq_true hmark
  obtain ⟨ds, hds⟩ := List.head?_eq_some_iff.1 hhead
  rw [hds, List.tail_cons] at htail
  rw [hds] at hrest
  rcases List.suffix_cons_iff.1 hrest with h | h
  · have heq : p.2 = '&' :: rest := hds.trans h.symm
    exact ⟨p, hp, heq ▸ List.prefix_rfl⟩
  · exact absurd (h.mem List.mem_cons_self) htail

theorem isEscaped_singleton {c : Char} (h : hasEntity c = false) : IsEscaped [c] := by
  refine ⟨?_, ?_⟩
  · rintro d hd hm
    have hall : ['<', '>', doubleQuote, apostrophe].all hasEntity = true := by decide
    rw [List.mem_singleton] at hm
    rw [← hm, List.all_eq_true.1 hall d hd] at h
    cases h
  · intro rest hrest
    have hc := hrest.mem List.mem_cons_self
    rw [List.mem_singleton] at hc
    rw [← hc] at h
    cases h

theorem mem_entities {c : Char} (h : hasEntity c = true) : (c, escapeChar c) ∈ entities := by
  rcases hasEntity_iff.1 h with rfl | rfl | rfl | rfl | rfl <;> decide

theorem isEscaped_flatMap (cs : List Char) : IsEscaped (cs.flatMap escapeChar) := by
  induction cs with
  | nil => exact .nil
  | cons c cs ih =>
    have hc : IsEscaped (escapeChar c) := by
      cases h : hasEntity c with
      | true => exact isEscaped_of_mem_entities (mem_entities h)
      | false =>
        rw [escapeChar_of_hasEntity_eq_false h]
        exact isEscaped_singleton h
    rw [List.flatMap_cons]
    exact hc.append ih

theorem IsEscaped.hasEntity_eq_false {c : Char} {cs : List Char} (h : IsEscaped (c :: cs))
    (hnone : ∀ p ∈ entities, ¬p.2 <+: c :: cs) : hasEntity c = false := by
  rw [← Bool.not_eq_true, hasEntity_iff]
  rintro (rfl | hc)
  · obtain ⟨p, hp, hprefix⟩ := h.entity cs (List.suffix_refl _)
    exact hnone p hp hprefix
  · refine h.notMem c ?_ List.mem_cons_self
    simpa using hc

theorem IsEscaped.flatMap_decode {cs : List Char} (h : IsEscaped cs) :
    (decode cs).flatMap escapeChar = cs := by
  have hrest (c : Char) (cs : List Char) (h : IsEscaped (escapeChar c ++ cs)) : IsEscaped cs :=
    h.of_suffix (List.suffix_append _ _)
  -- by the cases of reading: five entities, any other character, and the end
  fun_induction decode cs with
  | case1 cs ih => exact congrArg ("&amp;".toList ++ ·) (ih (hrest '&' cs h))
  | case2 cs ih => exact congrArg ("&lt;".toList ++ ·) (ih (hrest '<' cs h))
  | case3 cs ih => exact congrArg ("&gt;".toList ++ ·) (ih (hrest '>' cs h))
  | case4 cs ih => exact congrArg ("&quot;".toList ++ ·) (ih (hrest doubleQuote cs h))
  | case5 cs ih => exact congrArg ("&#x27;".toList ++ ·) (ih (hrest apostrophe cs h))
  | case6 c cs hand hless hgreater hquote hapostrophe ih =>
    have hnone : ∀ p ∈ entities, ¬p.2 <+: c :: cs := by
      rintro p hp ⟨rest, hprefix⟩
      simp only [entities, List.mem_cons, List.not_mem_nil, or_false] at hp
      rcases hp with rfl | rfl | rfl | rfl | rfl
      · exact hand rest (List.cons.inj hprefix).1.symm (List.cons.inj hprefix).2.symm
      · exact hless rest (List.cons.inj hprefix).1.symm (List.cons.inj hprefix).2.symm
      · exact hgreater rest (List.cons.inj hprefix).1.symm (List.cons.inj hprefix).2.symm
      · exact hquote rest (List.cons.inj hprefix).1.symm (List.cons.inj hprefix).2.symm
      · exact hapostrophe rest (List.cons.inj hprefix).1.symm (List.cons.inj hprefix).2.symm
    have hcs : IsEscaped cs := h.of_suffix (List.suffix_cons c cs)
    rw [List.flatMap_cons, escapeChar_of_hasEntity_eq_false (h.hasEntity_eq_false hnone), ih hcs]
    rfl
  | case7 => rfl

/-- The text that an escaped text stands for. -/
def unescape (s : String) : String := String.ofList (decode s.toList)

theorem unescape_escape (s : String) : unescape (escape s) = s := by
  have hread := decode_escape_append s.toList []
  rw [List.append_nil, decode, List.append_nil] at hread
  rw [unescape, escape, String.toList_ofList, hread, String.ofList_toList]

theorem escape_inj {a b : String} : escape a = escape b ↔ a = b := by
  constructor
  · intro h
    rw [← unescape_escape a, h, unescape_escape]
  · rintro rfl
    rfl

theorem isEscaped_iff (t : String) : IsEscaped t.toList ↔ ∃ s, escape s = t := by
  constructor
  · intro h
    refine ⟨unescape t, ?_⟩
    rw [escape, unescape, String.toList_ofList, h.flatMap_decode, String.ofList_toList]
  · rintro ⟨s, rfl⟩
    rw [escape, String.toList_ofList]
    exact isEscaped_flatMap s.toList

/-- **Escaping is a faithful encoding.** Replacing the five characters one after the other in the
whole text is the one pass from left to right, so a text can be escaped part by part. An escaped text
has no `<`, `>`, `"` or `'`, and each ampersand in it starts an entity; all such texts are escaped
texts. Reading the entities from left to right gives the text back, so no two texts have one escape.
-/
theorem escaping_is_faithful :
    (∀ s, escapeInTurn s = escape s) ∧
    (∀ s t, escape (s ++ t) = escape s ++ escape t) ∧
    (∀ t, IsEscaped t.toList ↔ ∃ s, escape s = t) ∧
    (∀ s, IsEscaped (escape s).toList) ∧
    (∀ s, unescape (escape s) = s) ∧
    ∀ s t, escape s = escape t ↔ s = t := by
  refine ⟨escapeInTurn_eq, escape_append, isEscaped_iff, fun s => ?_, unescape_escape,
    fun s t => escape_inj⟩
  exact (isEscaped_iff _).2 ⟨s, rfl⟩

end TagHighlight.Html
