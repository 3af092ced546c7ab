import TagHighlight.Json.Basic

/-!
# Tables of words

A table is a set of words, kept in ascending order of code points and without repetitions, so that
two tables with the same words are equal. Besides its words a table may have been given entries that
are no texts; they match no word, and they are kept because a table that has some cannot be joined
to one text. A word in which a surrogate stands alone matches no word of a line either, since a line
has none; it is a word like any other as long as the table is not encoded.
-/

namespace TagHighlight

/-- Puts a word into its place in an ascending list, unless it is there already. -/
def insertWord (w : LooseText) : List LooseText → List LooseText
  | [] => [w]
  | v :: vs => if w < v then w :: v :: vs else if w = v then v :: vs else v :: insertWord w vs

theorem mem_insertWord {w x : LooseText} {vs : List LooseText} :
    x ∈ insertWord w vs ↔ x = w ∨ x ∈ vs := by
  induction vs with
  | nil => simp [insertWord]
  | cons v vs ih =>
    unfold insertWord
    split
    · simp
    · split
      · rename_i h
        simp [h]
      · simp only [List.mem_cons, ih]
        exact or_left_comm

theorem pairwise_insertWord {w : LooseText} {vs : List LooseText} (h : vs.Pairwise (· < ·)) :
    (insertWord w vs).Pairwise (· < ·) := by
  induction vs with
  | nil => simp [insertWord]
  | cons v vs ih =>
    obtain ⟨hv, hvs⟩ := List.pairwise_cons.1 h
    unfold insertWord
    split
    · rename_i hlt
      refine List.pairwise_cons.2 ⟨fun x hx => ?_, h⟩
      rcases List.mem_cons.1 hx with rfl | hx
      · exact hlt
      · exact LooseText.lt_trans hlt (hv x hx)
    · split
      · exact h
      · rename_i hlt hne
        have hvw : v < w := ((LooseText.lt_or_eq_or_gt w v).resolve_left hlt).resolve_left hne
        refine List.pairwise_cons.2 ⟨fun x hx => ?_, ih hvs⟩
        rcases mem_insertWord.1 hx with rfl | hx
        · exact hvw
        · exact hv x hx

/-- The words of a list in ascending order, each once. -/
def sortWords (ws : List LooseText) : List LooseText := ws.foldr insertWord []

theorem mem_sortWords {x : LooseText} {ws : List LooseText} : x ∈ sortWords ws ↔ x ∈ ws := by
  induction ws with
  | nil => simp [sortWords]
  | cons w ws ih =>
    rw [List.mem_cons, ← ih]
    exact mem_insertWord

theorem pairwise_sortWords (ws : List LooseText) : (sortWords ws).Pairwise (· < ·) := by
  induction ws with
  | nil => exact List.Pairwise.nil
  | cons w ws ih => exact pairwise_insertWord ih

/-- A set of words. -/
structure Table where
  words : List LooseText
  /-- The entries that are no texts. -/
  others : List Json := []
  /-- The words ascend, so none occurs twice. -/
  ascending : words.Pairwise (· < ·)

namespace Table

def ofWords (ws : List LooseText) (others : List Json := []) : Table :=
  ⟨sortWords ws, others, pairwise_sortWords ws⟩

def contains (t : Table) (w : String) : Bool := t.words.contains (.ofString w)

/-- The table of the images of the words. -/
def map (f : LooseText → LooseText) (t : Table) : Table := ofWords (t.words.map f) t.others

end Table

end TagHighlight
