import Mathlib.Data.List.Nodup
import TagHighlight.Html.Render
import TagHighlight.Text.Basic

/-!
# Warnings of a rendering

A rendering is a text and a list of warnings. A renderer at work makes both in one go: it writes part
by part, remembers the categories it has warned of, and adds to a log that it has found and that others
go on with (`Renderer.rendering`). `Continues r w w' html used` says that the work came from `w` to `w'`
by writing `html` for tokens that use the categories `used`. Each step of the work continues it in this
way, and continuations compose, so a whole rendering writes the text and adds the warnings that it
should (`Renderer.continues_rendering`). It begins without a warning and leaves nothing but its text and
the log, hence renderings one after another add what each of them adds alone (`renderEach_eq`).

The categories warned of are then those that some token uses and the theme does not cover, each once
and in the order of their first tokens, by induction on the tokens with the categories seen before left
free.
-/

namespace TagHighlight.Html

namespace Renderer

/-! ### What is warned of -/

section

variable (theme : Theme)

theorem mem_uncovered {seen cs : List Category} {c : Category} :
    c ∈ uncovered theme seen cs ↔ c ∈ cs ∧ c ∉ seen ∧ theme.covers c = false := by
  induction cs generalizing seen with
  | nil => simp [uncovered]
  | cons d cs ih =>
    unfold uncovered
    split
    · rename_i h
      rw [ih, List.mem_cons]
      constructor
      · rintro ⟨hc, hnew⟩
        exact ⟨.inr hc, hnew⟩
      · rintro ⟨rfl | hc, hnew, hbare⟩
        · simp [hnew, hbare] at h
        · exact ⟨hc, hnew, hbare⟩
    · rename_i h
      simp only [Bool.or_eq_true, not_or, List.contains_iff_mem, Bool.not_eq_true] at h
      rw [List.mem_cons, ih, List.mem_cons, List.mem_cons]
      constructor
      · rintro (rfl | ⟨hc, hnew, hbare⟩)
        · exact ⟨.inl rfl, h⟩
        · exact ⟨.inr hc, fun hm => hnew (.inr hm), hbare⟩
      · rintro ⟨hc, hnew, hbare⟩
        by_cases hd : c = d
        · exact .inl hd
        · exact .inr ⟨hc.resolve_left hd, fun hm => hm.elim hd hnew, hbare⟩

theorem uncovered_append (seen cs ds : List Category) :
    uncovered theme seen (cs ++ ds) = uncovered theme seen cs ++
      uncovered theme ((uncovered theme seen cs).reverse ++ seen) ds := by
  induction cs generalizing seen with
  | nil => rfl
  | cons c cs ih =>
    rw [List.cons_append, uncovered, uncovered]
    split
    · exact ih seen
    · rw [ih (c :: seen)]
      simp

theorem pairwise_uncovered (p : Category → Bool) (seen cs : List Category) :
    (uncovered theme seen (cs.filter p)).Pairwise fun c d => cs.idxOf c < cs.idxOf d := by
  induction cs generalizing seen with
  | nil => exact List.Pairwise.nil
  | cons c cs ih =>
    have hlater (seen : List Category) (hc : c ∉ uncovered theme seen (cs.filter p)) :
        (uncovered theme seen (cs.filter p)).Pairwise
          fun d e => (c :: cs).idxOf d < (c :: cs).idxOf e := by
      refine (ih seen).imp_of_mem fun {d e} hd he hlt => ?_
      have hcd : c ≠ d := fun h => hc (h ▸ hd)
      have hce : c ≠ e := fun h => hc (h ▸ he)
      rw [List.idxOf_cons_ne _ hcd, List.idxOf_cons_ne _ hce]
      omega
    by_cases hp : p c = true
    · rw [List.filter_cons_of_pos hp, uncovered]
      split
      · rename_i h
        refine hlater seen fun hc => ?_
        obtain ⟨-, hnew, hbare⟩ := (mem_uncovered theme).1 hc
        simp [hnew, hbare] at h
      · have hc : c ∉ uncovered theme (c :: seen) (cs.filter p) :=
          fun hc => ((mem_uncovered theme).1 hc).2.1 List.mem_cons_self
        refine List.pairwise_cons.2 ⟨fun d hd => ?_, hlater (c :: seen) hc⟩
        have hcd : c ≠ d := fun h => hc (h ▸ hd)
        rw [List.idxOf_cons_self, List.idxOf_cons_ne _ hcd]
        omega
    · rw [List.filter_cons_of_neg hp]
      refine hlater seen fun hc => ?_
      obtain ⟨hmem, -, -⟩ := (mem_uncovered theme).1 hc
      exact hp (List.mem_filter.1 hmem).2

theorem warning_inj {c d : Category} (h : warning theme c = warning theme d) : c = d := by
  have hmessage := congrArg (fun r : Log.Record => r.message.toList) h
  simp only [warning, String.toList_append] at hmessage
  have hname : c.name = d.name :=
    String.toList_inj.1 (List.append_cancel_left (List.append_cancel_right hmessage))
  have hcd := Category.ofName?_eq_some_iff.2 (congrArg LooseText.ofString hname)
  rw [Category.ofName?_name] at hcd
  exact Option.some.inj hcd

end

end Renderer

/-! ### Renderers at work -/

/-- The work on a rendering: what is written, the categories that were warned of, and the log. -/
structure Rendering where
  written : Text.Parts := {}
  warned : List Category := []
  log : List Log.Record := []

namespace Rendering

def html (w : Rendering) : String := w.written.build

def write (w : Rendering) (s : String) : Rendering := { w with written := w.written.append s }

def writeLine (w : Rendering) (s : String) : Rendering :=
  { w with written := w.written.appendLine s }

/-- Warns of a category without a style, unless that was done before. -/
def warn (w : Rendering) (theme : Theme) (c : Category) : Rendering :=
  if w.warned.contains c || theme.covers c then w
  else { w with warned := c :: w.warned, log := w.log ++ [Renderer.warning theme c] }

theorem html_write (w : Rendering) (s : String) : (w.write s).html = w.html ++ s := by
  unfold write html Text.Parts.append Text.Parts.build
  split
  · rename_i h
    rw [h, String.append_empty]
  · simp [String.join_append]

theorem html_writeLine (w : Rendering) (s : String) :
    (w.writeLine s).html = w.html ++ (s ++ "\n") := by
  rw [← String.append_assoc, ← html_write, ← html_write]
  rfl

end Rendering

namespace Renderer

variable (r : Renderer)

def tokenStep (w : Rendering) (t : Token) : Rendering :=
  if t.category = .whitespace then w.write (escape t.text)
  else
    let w := if r.cssClasses then w else w.warn r.theme t.category
    ((w.write ("<span " ++ r.appearance t.category ++ ">")).write (escape t.text)).write "</span>"

def lineStep (w : Rendering) (line : List Token × Nat) : Rendering :=
  let w := (w.write "<div class=\"line\">").write (r.lineNumber line.2)
  let w := if line.1.isEmpty then w.write "<br>" else w
  (line.1.foldl r.tokenStep w).writeLine "</div>"

/-- Renders lines, with a log that others have begun. -/
def rendering (log : List Log.Record) (ls : List (List Token)) : Rendering :=
  ((ls.zipIdx 1).foldl r.lineStep
    (({ log } : Rendering).writeLine "<pre class=\"jsxlight\">")).writeLine "</pre>"

def styled (ts : List Token) : List Category :=
  if r.cssClasses then [] else (ts.map Token.category).filter fun c => c ≠ .whitespace

theorem warnings_eq (ls : List (List Token)) :
    r.warnings ls = (uncovered r.theme [] (r.styled ls.flatten)).map (warning r.theme) := by
  unfold warnings styled
  split <;> rfl

theorem styled_append (ts us : List Token) : r.styled (ts ++ us) = r.styled ts ++ r.styled us := by
  unfold styled
  split
  · rfl
  · rw [List.map_append, List.filter_append]

/-- The work goes on from `w` to `w'`, writes `html`, and warns of what there is among `used`. -/
structure Continues (w w' : Rendering) (html : String) (used : List Category) : Prop where
  html_eq : w'.html = w.html ++ html
  warned_eq : w'.warned = (uncovered r.theme w.warned used).reverse ++ w.warned
  log_eq : w'.log = w.log ++ (uncovered r.theme w.warned used).map (warning r.theme)

namespace Continues

variable {r} {w w₁ w₂ : Rendering} {html₁ html₂ : String} {used₁ used₂ : List Category}

theorem refl (w : Rendering) : r.Continues w w "" [] :=
  ⟨by rw [String.append_empty], rfl, by rw [uncovered, List.map_nil, List.append_nil]⟩

theorem trans (h₁ : r.Continues w w₁ html₁ used₁) (h₂ : r.Continues w₁ w₂ html₂ used₂) :
    r.Continues w w₂ (html₁ ++ html₂) (used₁ ++ used₂) := by
  refine ⟨?_, ?_, ?_⟩
  · rw [h₂.html_eq, h₁.html_eq, String.append_assoc]
  · rw [h₂.warned_eq, h₁.warned_eq, uncovered_append]
    simp
  · rw [h₂.log_eq, h₁.log_eq, h₁.warned_eq, uncovered_append]
    simp

theorem write (w : Rendering) (s : String) : r.Continues w (w.write s) s [] :=
  ⟨w.html_write s, rfl, by rw [uncovered, List.map_nil, List.append_nil]; rfl⟩

theorem writeLine (w : Rendering) (s : String) : r.Continues w (w.writeLine s) (s ++ "\n") [] :=
  ⟨w.html_writeLine s, rfl, by rw [uncovered, List.map_nil, List.append_nil]; rfl⟩

theorem warn (w : Rendering) (c : Category) : r.Continues w (w.warn r.theme c) "" [c] := by
  unfold Rendering.warn
  split
  · rename_i h
    have hnone : uncovered r.theme w.warned [c] = [] := by rw [uncovered, if_pos h, uncovered]
    refine ⟨by rw [String.append_empty], ?_, ?_⟩ <;> simp [hnone]
  · rename_i h
    have hone : uncovered r.theme w.warned [c] = [c] := by rw [uncovered, if_neg h, uncovered]
    refine ⟨by rw [String.append_empty]; rfl, ?_, ?_⟩ <;> simp [hone]

theorem foldl {α : Type} {step : Rendering → α → Rendering} {html : α → String}
    {used : α → List Category} (h : ∀ w a, r.Continues w (step w a) (html a) (used a)) (as : List α)
    (w : Rendering) :
    r.Continues w (as.foldl step w) (String.join (as.map html)) (as.flatMap used) := by
  induction as generalizing w with
  | nil => exact refl w
  | cons a as ih =>
    rw [List.map_cons, String.join_cons, List.flatMap_cons]
    exact (h w a).trans (ih (step w a))

end Continues

theorem styled_flatMap {α : Type} (f : α → List Token) (as : List α) :
    r.styled (as.flatMap f) = as.flatMap fun a => r.styled (f a) := by
  induction as with
  | nil =>
    unfold styled
    split <;> rfl
  | cons a as ih => rw [List.flatMap_cons, List.flatMap_cons, styled_append, ih]

theorem continues_tokenStep (w : Rendering) (t : Token) :
    r.Continues w (r.tokenStep w t) (r.token t) (r.styled [t]) := by
  unfold tokenStep token
  by_cases ht : t.category = .whitespace
  · rw [if_pos ht, if_pos ht]
    have hnone : r.styled [t] = [] := by simp [styled, ht]
    rw [hnone]
    exact .write w _
  · rw [if_neg ht, if_neg ht]
    have hspan (w : Rendering) : r.Continues w
        (((w.write ("<span " ++ r.appearance t.category ++ ">")).write (escape t.text)).write "</span>")
        ("<span " ++ r.appearance t.category ++ ">" ++ escape t.text ++ "</span>") [] :=
      ((Continues.write w _).trans (.write _ _)).trans (.write _ _)
    cases hcss : r.cssClasses with
    | true =>
      have hnone : r.styled [t] = [] := by simp [styled, hcss]
      rw [hnone]
      exact hspan w
    | false =>
      have hone : r.styled [t] = [t.category] := by simp [styled, hcss, ht]
      have hall := (Continues.warn w t.category).trans (hspan (w.warn r.theme t.category))
      rw [hone]
      rwa [String.empty_append, List.append_nil] at hall

theorem continues_lineStep (w : Rendering) (line : List Token × Nat) :
    r.Continues w (r.lineStep w line) (r.line line.2 line.1) (r.styled line.1) := by
  obtain ⟨ts, n⟩ := line
  have hopen := (Continues.write (r := r) w "<div class=\"line\">").trans (.write _ (r.lineNumber n))
  have hcontent (w : Rendering) : r.Continues w
      (ts.foldl r.tokenStep (if ts.isEmpty then w.write "<br>" else w)) (r.content ts)
      (r.styled ts) := by
    have htokens := Continues.foldl r.continues_tokenStep ts
    rw [← styled_flatMap, List.flatMap_singleton'] at htokens
    unfold content
    cases ts with
    | nil =>
      have hnone : r.styled [] = [] := by simp [styled]
      rw [hnone]
      exact .write w "<br>"
    | cons t ts => exact htokens w
  have hall := (hopen.trans (hcontent _)).trans (.writeLine _ "</div>")
  rwa [List.nil_append, List.append_nil] at hall

theorem continues_rendering (log : List Log.Record) (ls : List (List Token)) :
    r.Continues { log } (r.rendering log ls) (r.render ls) (r.styled ls.flatten) := by
  have hlines := Continues.foldl r.continues_lineStep (ls.zipIdx 1)
  have hflatten : (ls.zipIdx 1).flatMap Prod.fst = ls.flatten := by
    rw [List.flatMap_def, List.zipIdx_map_fst]
  rw [← styled_flatMap, hflatten] at hlines
  have hopen := Continues.writeLine (r := r) { log } "<pre class=\"jsxlight\">"
  have hall := (hopen.trans (hlines _)).trans (.writeLine _ "</pre>")
  rwa [List.nil_append, List.append_nil] at hall

theorem html_rendering (log : List Log.Record) (ls : List (List Token)) :
    (r.rendering log ls).html = r.render ls := by
  rw [(r.continues_rendering log ls).html_eq]
  exact String.empty_append

/-- A rendering adds its warnings to the log that it finds. -/
theorem log_rendering (log : List Log.Record) (ls : List (List Token)) :
    (r.rendering log ls).log = log ++ r.warnings ls := by
  rw [(r.continues_rendering log ls).log_eq, warnings_eq]

end Renderer

/-- Renders one after another, with one log. -/
def renderEach (log : List Log.Record) :
    List (Renderer × List (List Token)) → List String × List Log.Record
  | [] => ([], log)
  | (r, ls) :: jobs =>
    let w := r.rendering log ls
    let (htmls, log) := renderEach w.log jobs
    (w.html :: htmls, log)

theorem renderEach_eq (log : List Log.Record) (jobs : List (Renderer × List (List Token))) :
    renderEach log jobs =
      (jobs.map fun job => job.1.render job.2, log ++ jobs.flatMap fun job => job.1.warnings job.2) := by
  induction jobs generalizing log with
  | nil => simp [renderEach]
  | cons job jobs ih =>
    obtain ⟨r, ls⟩ := job
    simp [renderEach, ih, r.html_rendering, r.log_rendering]

/-! ### Exactness -/

/-- The categories of tokens, blanks apart, that a theme does not cover, each once and in the order of
their first tokens. -/
structure AreBare (theme : Theme) (ls : List (List Token)) (cs : List Category) : Prop where
  mem_iff : ∀ c, c ∈ cs ↔
    theme.covers c = false ∧ ∃ ts ∈ ls, ∃ t ∈ ts, t.category = c ∧ t.category ≠ .whitespace
  ordered : cs.Pairwise fun c d =>
    (ls.flatten.map Token.category).idxOf c < (ls.flatten.map Token.category).idxOf d

theorem AreBare.nodup {theme : Theme} {ls : List (List Token)} {cs : List Category}
    (h : AreBare theme ls cs) : cs.Nodup :=
  h.ordered.imp fun hlt heq => by simp [heq] at hlt

theorem Renderer.areBare_uncovered (theme : Theme) (ls : List (List Token)) :
    AreBare theme ls (uncovered theme []
      ((ls.flatten.map Token.category).filter fun c => c ≠ .whitespace)) where
  mem_iff c := by
    rw [mem_uncovered]
    simp only [List.mem_filter, List.mem_map, List.mem_flatten, List.not_mem_nil, not_false_eq_true,
      true_and, decide_eq_true_eq]
    constructor
    · rintro ⟨⟨⟨t, ⟨ts, hts, ht⟩, rfl⟩, hc⟩, hbare⟩
      exact ⟨hbare, ts, hts, t, ht, rfl, hc⟩
    · rintro ⟨hbare, ts, hts, t, ht, rfl, hc⟩
      exact ⟨⟨⟨t, ⟨ts, hts, ht⟩, rfl⟩, hc⟩, hbare⟩
  ordered := pairwise_uncovered theme _ [] _

/-- **Warnings are exact.** With styles, a rendering warns once of each category that some token uses
and that the theme does not cover, blanks apart, in the order of first use; with classes it does not
warn. A renderer at work writes its text and adds just these warnings to the log, whatever the log and
whatever was rendered before by it or by others. -/
theorem fallback_warnings_are_exact (theme : Theme) (showLinenos : Bool) :
    (∀ ls, ∃ cs, AreBare theme ls cs ∧
      Renderer.warnings { theme, showLinenos } ls = cs.map (Renderer.warning theme) ∧
      (Renderer.warnings { theme, showLinenos } ls).Nodup) ∧
    (∀ ls, Renderer.warnings { theme, showLinenos, cssClasses := true } ls = []) ∧
    (∀ (r : Renderer) (log : List Log.Record) (ls : List (List Token)),
      (r.rendering log ls).html = r.render ls ∧ (r.rendering log ls).log = log ++ r.warnings ls) ∧
    ∀ (log : List Log.Record) (jobs : List (Renderer × List (List Token))),
      renderEach log jobs = (jobs.map fun job => job.1.render job.2,
        log ++ jobs.flatMap fun job => job.1.warnings job.2) := by
  refine ⟨fun ls => ?_, fun ls => rfl,
    fun r log ls => ⟨r.html_rendering log ls, r.log_rendering log ls⟩, renderEach_eq⟩
  have hbare := Renderer.areBare_uncovered theme ls
  refine ⟨_, hbare, rfl, ?_⟩
  exact hbare.nodup.map fun c d h => Renderer.warning_inj theme h

end TagHighlight.Html
