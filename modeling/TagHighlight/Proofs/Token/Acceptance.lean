import TagHighlight.Proofs.Token.Storing

/-!
# Which values are lines of tokens

`IsLinesObject d` says of a JSON value what its shape is when it holds lines of tokens, part by part
and without an order. The reader checks the parts one after the other and tells the first thing that
is wrong. It accepts exactly the values of that shape, keeps of them what `reducedLines` keeps, and
otherwise its error names the first line that is not of the shape. It tells so as a failure of stored
data, unless it has to show a category that holds an integer which cannot be written.

A reader of a list stops at the first item that it does not read (`exists_of_mapM_eq_error`), and it
reads the list when it reads every item (`mapM_eq_ok_iff`). So what is to be shown is about one token
(`TokenRecord.ofJson?_of_isTokenObject`, `TokenRecord.isTokenObject_of_ofJson?`).
-/

namespace TagHighlight

/-! ### Shapes -/

/-- The value is an object of a token: it has a text, the name of a category, and perhaps a natural
number as its column. -/
structure IsTokenObject (v : Json) : Prop where
  text : ∃ s : LooseText, v.get? "text" = some (.str s) ∧ s.points ≠ []
  category : ∃ c : Category, v.get? "category" = some (.str c.name)
  col : v.get? "col" = none ∨ ∃ n : Nat, v.get? "col" = some (.int n)

def IsLineList (v : Json) : Prop := ∃ items, v = .arr items ∧ ∀ item ∈ items, IsTokenObject item

def IsLinesObject (v : Json) : Prop :=
  ∃ items, v.get? "lines" = some (.arr items) ∧ ∀ item ∈ items, IsLineList item

/-- The category, the column and the text of a token object, without all its other members. A column
that is not there is zero. -/
def reducedToken (v : Json) : Json :=
  .obj [("category", (v.get? "category").getD .null), ("col", (v.get? "col").getD (.int 0)),
    ("text", (v.get? "text").getD .null)]

def mapItems (f : Json → Json) : Json → Json
  | .arr items => .arr (items.map f)
  | v => v

/-- The lines of an object, with the reduced tokens, and without all other members. -/
def reducedLines (v : Json) : Json :=
  .obj [("lines", mapItems (mapItems reducedToken) ((v.get? "lines").getD .null))]

/-! ### Tokens -/

theorem TokenRecord.ofJson?_of_isTokenObject {v : Json} (h : IsTokenObject v) (line : Nat) :
    ∃ r, ofJson? line v = .ok r := by
  obtain ⟨s, htext, hs⟩ := h.text
  obtain ⟨c, hcategory⟩ := h.category
  have hempty : s.isEmpty = false := by simpa [LooseText.isEmpty] using hs
  rcases h.col with hnone | ⟨n, hsome⟩
  · exact ⟨⟨s, c, 0⟩, ofJson?_eq_ok_iff.2
      ⟨⟨hempty, Int.le_refl 0⟩, htext, hcategory, .inl ⟨hnone, rfl⟩⟩⟩
  · exact ⟨⟨s, c, n⟩, ofJson?_eq_ok_iff.2
      ⟨⟨hempty, Int.natCast_nonneg n⟩, htext, hcategory, .inr hsome⟩⟩

/-- A value that is read is of the shape, and the record that is read is the reduced value. -/
theorem TokenRecord.isTokenObject_of_ofJson? {v : Json} {line : Nat} {r : TokenRecord}
    (h : ofJson? line v = .ok r) :
    IsTokenObject v ∧ r.Readable ∧ r.toJson = reducedToken v := by
  have hof := ofJson?_eq_ok_iff.1 h
  have hs : r.text.points ≠ [] := by simpa [LooseText.isEmpty] using hof.text
  refine ⟨⟨⟨_, hof.text_eq, hs⟩, ⟨_, hof.category_eq⟩, ?_⟩, hof.toReadable, ?_⟩
  · obtain ⟨n, hn⟩ := Int.eq_ofNat_of_zero_le hof.natural
    exact hof.col_eq.imp And.left fun hsome => ⟨n, hn ▸ hsome⟩
  · rw [reducedToken, hof.text_eq, hof.category_eq]
    rcases hof.col_eq with ⟨hnone, hzero⟩ | hsome
    · rw [hnone, TokenRecord.toJson, hzero]
      rfl
    · rw [hsome]
      rfl

/-! ### One line -/

theorem lineOfJson?_of_isLineList {v : Json} (h : IsLineList v) (line : Nat) :
    ∃ rs, lineOfJson? line v = .ok rs := by
  obtain ⟨items, rfl, hitems⟩ := h
  exact exists_mapM_eq_ok fun item hitem =>
    TokenRecord.ofJson?_of_isTokenObject (hitems item hitem) line

theorem isLineList_of_lineOfJson? {v : Json} {line : Nat} {rs : List TokenRecord}
    (h : lineOfJson? line v = .ok rs) :
    IsLineList v ∧ (∀ r ∈ rs, r.Readable) ∧
      .arr (rs.map TokenRecord.toJson) = mapItems reducedToken v := by
  cases v with
  | arr items =>
    obtain ⟨hitems, hrecords, hmap⟩ := of_mapM_eq_ok h fun item _ r hr =>
      TokenRecord.isTokenObject_of_ofJson? hr
    exact ⟨⟨items, rfl, hitems⟩, hrecords, congrArg Json.arr hmap⟩
  | null => cases h
  | bool b => cases h
  | int n => cases h
  | real x => cases h
  | str s => cases h
  | obj members => cases h

/-! ### Errors -/

def RecordError.line? : RecordError → Option Nat
  | noLines => none
  | lineNotList line | tokenNotObject line | missingField line | badText line
  | unknownCategory line _ | badCol line => some line

/-- The integers that the message shows. -/
def RecordError.shown : RecordError → List Int
  | unknownCategory _ given => given.integers
  | _ => []

theorem RecordError.exists_message_iff {e : RecordError} :
    (∃ text, e.message = .ok text) ↔ ∀ n ∈ e.shown, IsWritable n := by
  cases e with
  | unknownCategory line given => exact Json.exists_display_bind_iff
  | noLines | lineNotList _ | tokenNotObject _ | missingField _ | badText _ | badCol _ =>
    exact iff_of_true ⟨_, rfl⟩ fun n hn => absurd hn List.not_mem_nil

theorem RecordError.kind_raised_iff {e : RecordError} :
    e.raised.kind = .serialization ↔ ∀ n ∈ e.shown, IsWritable n := by
  rw [← exists_message_iff, ← exists_map_ofString_iff]
  exact Raised.kind_of_eq_iff (by decide)

theorem RecordError.message_of_line? {e : RecordError} {line : Nat} (h : e.line? = some line)
    {text : String} (htext : e.message = .ok text) :
    ∃ detail, text = s!"Line {line}: " ++ detail := by
  have happend (detail : String) :
      s!"Line {line}" ++ (": " ++ detail) = s!"Line {line}: " ++ detail := by
    simp only [String.append_assoc]
    rfl
  cases e <;> cases h
  case unknownCategory given =>
    rw [message] at htext
    cases hlook : given.display with
    | error e =>
      rw [hlook] at htext
      cases htext
    | ok look =>
      rw [hlook] at htext
      cases htext
      have hwords : ": unknown category " = ": " ++ "unknown category " := rfl
      refine ⟨"unknown category " ++ look, ?_⟩
      rw [← happend, hwords]
      simp only [String.append_assoc]
      rfl
  all_goals cases htext
  · exact ⟨_, happend "expected a list of tokens"⟩
  · exact ⟨_, happend "token must be a mapping"⟩
  · exact ⟨_, happend "token needs 'text' and 'category'"⟩
  · exact ⟨_, happend "token text must be a non-empty string"⟩
  · exact ⟨_, happend "token col must be a non-negative integer"⟩

theorem TokenRecord.line?_of_ofJson? {v : Json} {line : Nat} {e : RecordError}
    (h : ofJson? line v = .error e) : e.line? = some line := by
  unfold ofJson? at h
  repeat' split at h
  all_goals cases h <;> rfl

theorem line?_of_lineOfJson? {v : Json} {line : Nat} {e : RecordError}
    (h : lineOfJson? line v = .error e) : e.line? = some line := by
  unfold lineOfJson? at h
  split at h
  · obtain ⟨before, item, after, -, -, hitem⟩ := exists_of_mapM_eq_error h
    exact TokenRecord.line?_of_ofJson? hitem
  · cases h
    rfl

theorem TokenRecord.shown_of_ofJson? {v : Json} {line : Nat} {e : RecordError}
    (h : ofJson? line v = .error e) {n : Int} (hn : n ∈ e.shown) : n ∈ v.integers := by
  unfold ofJson? at h
  split at h
  · split at h
    · rename_i text name _ hname
      split at h
      · split at h
        · cases h
          cases hn
        · split at h
          · cases h
            exact Json.mem_integers_of_get? hname hn
          · split at h
            · cases h
              cases hn
            · cases h
      · cases h
        cases hn
    · cases h
      cases hn
  · cases h
    cases hn

theorem shown_of_lineOfJson? {v : Json} {line : Nat} {e : RecordError}
    (h : lineOfJson? line v = .error e) {n : Int} (hn : n ∈ e.shown) : n ∈ v.integers := by
  unfold lineOfJson? at h
  split at h
  · obtain ⟨before, item, after, rfl, -, hitem⟩ := exists_of_mapM_eq_error h
    rw [Json.integers, Json.mem_integersOfItems]
    exact ⟨item, by simp, TokenRecord.shown_of_ofJson? hitem hn⟩
  · cases h
    cases hn

theorem shown_of_recordsOfJson? {v : Json} {e : RecordError} (h : recordsOfJson? v = .error e)
    {n : Int} (hn : n ∈ e.shown) : n ∈ v.integers := by
  unfold recordsOfJson? at h
  split at h
  · rename_i items hlines
    obtain ⟨before, p, after, hitems, -, hline⟩ := exists_of_mapM_eq_error h
    have hp : p ∈ items.zipIdx 1 := by
      rw [hitems]
      exact List.mem_append_right _ List.mem_cons_self
    apply Json.mem_integers_of_get? hlines
    rw [Json.integers, Json.mem_integersOfItems]
    exact ⟨p.1, List.fst_mem_of_mem_zipIdx hp, shown_of_lineOfJson? hline hn⟩
  · cases h
    cases hn

/-! ### Lines -/

theorem zipIdx_eq_append_cons {α : Type} {xs : List α} {first n : Nat} {x : α}
    {before after : List (α × Nat)} (h : xs.zipIdx first = before ++ (x, n) :: after) :
    xs = before.map Prod.fst ++ x :: after.map Prod.fst ∧ n = first + before.length := by
  have hitems := congrArg (List.map Prod.fst) h
  rw [List.zipIdx_map_fst, List.map_append, List.map_cons] at hitems
  have hplace : (xs.zipIdx first)[before.length]? = some (x, n) := by
    rw [h, List.getElem?_append_right (Nat.le_refl _), Nat.sub_self]
    rfl
  rw [List.getElem?_zipIdx] at hplace
  obtain ⟨y, _, hy⟩ := Option.map_eq_some_iff.1 hplace
  exact ⟨hitems, (Prod.mk.inj hy).2.symm⟩

theorem recordsOfJson?_of_isLinesObject {v : Json} (h : IsLinesObject v) :
    ∃ rs, recordsOfJson? v = .ok rs := by
  obtain ⟨items, hlines, hitems⟩ := h
  rw [recordsOfJson?, hlines]
  exact exists_mapM_eq_ok fun p hp =>
    lineOfJson?_of_isLineList (hitems p.1 (List.fst_mem_of_mem_zipIdx hp)) p.2

theorem isLinesObject_of_recordsOfJson? {v : Json} {rs : List (List TokenRecord)}
    (h : recordsOfJson? v = .ok rs) :
    IsLinesObject v ∧ (∀ ts ∈ rs, ∀ r ∈ ts, r.Readable) ∧ recordsToJson rs = reducedLines v := by
  unfold recordsOfJson? at h
  split at h
  · rename_i items hlines
    obtain ⟨hitems, hrecords, hmap⟩ := of_mapM_eq_ok h fun p _ ts hts =>
      isLineList_of_lineOfJson? hts
    have hfst := List.zipIdx_map_fst 1 items
    refine ⟨⟨items, hlines, fun item hitem => ?_⟩, hrecords, ?_⟩
    · rw [← hfst] at hitem
      obtain ⟨p, hp, rfl⟩ := List.mem_map.1 hitem
      exact hitems p hp
    · have hall : (items.zipIdx 1).map (fun p => mapItems reducedToken p.1) =
          items.map (mapItems reducedToken) := by
        conv => rhs; rw [← hfst, List.map_map]
        rfl
      rw [hall] at hmap
      rw [recordsToJson, hmap, reducedLines, hlines]
      rfl
  · cases h

/-- The error is about the first line that is not of the shape, and its message says so. -/
def RecordError.NamesFirstBadLine (e : RecordError) (items : List Json) : Prop :=
  ∃ before item after, items = before ++ item :: after ∧ (∀ v ∈ before, IsLineList v) ∧
    ¬IsLineList item ∧ e.line? = some (before.length + 1) ∧
    ∀ text, e.message = .ok text → ∃ detail, text = s!"Line {before.length + 1}: " ++ detail

theorem namesFirstBadLine_of_recordsOfJson? {v : Json} {items : List Json} {e : RecordError}
    (hlines : v.get? "lines" = some (.arr items)) (h : recordsOfJson? v = .error e) :
    e.NamesFirstBadLine items := by
  rw [recordsOfJson?, hlines] at h
  obtain ⟨before, ⟨item, line⟩, after, hsplit, hbefore, hitem⟩ := exists_of_mapM_eq_error h
  obtain ⟨hitems, rfl⟩ := zipIdx_eq_append_cons hsplit
  have hline : e.line? = some ((before.map Prod.fst).length + 1) := by
    rw [line?_of_lineOfJson? hitem, List.length_map, Nat.add_comm]
  refine ⟨before.map Prod.fst, item, after.map Prod.fst, hitems, ?_, ?_, hline,
    fun text => RecordError.message_of_line? hline⟩
  · intro w hw
    obtain ⟨p, hp, rfl⟩ := List.mem_map.1 hw
    obtain ⟨rs, hrs⟩ := hbefore p hp
    exact (isLineList_of_lineOfJson? hrs).1
  · intro hline
    obtain ⟨rs, hrs⟩ := lineOfJson?_of_isLineList hline (1 + before.length)
    cases hrs.symm.trans hitem

/-- **Exactly the objects of lines are read, and they are read as they are.** A value of the shape is
read; written again, what is read is the value without all that is no part of a token, and it is read
again as the same. Any other value is refused, and if its lines are a list, the error is about the
first line of them that is not of the shape, counted from one. It is told as a failure of stored data
exactly when the integers that are to be shown can be written. That is so when the value holds no
others. -/
theorem objects_of_lines_are_read (v : Json) :
    (IsLinesObject v → ∃ rs, recordsOfJson? v = .ok rs ∧ recordsToJson rs = reducedLines v ∧
      recordsOfJson? (recordsToJson rs) = .ok rs) ∧
    (¬IsLinesObject v → ∃ e, recordsOfJson? v = .error e ∧
      (∀ items, v.get? "lines" = some (.arr items) → e.NamesFirstBadLine items) ∧
      (e.raised.kind = .serialization ↔ ∀ n ∈ e.shown, IsWritable n) ∧
      (e.raised.kind = .serialization ∨ e.raised.kind = .wrongValue) ∧
      ((∀ n ∈ v.integers, IsWritable n) → e.raised.kind = .serialization)) := by
  constructor
  · intro h
    obtain ⟨rs, hrs⟩ := recordsOfJson?_of_isLinesObject h
    obtain ⟨_, hreadable, hreduced⟩ := isLinesObject_of_recordsOfJson? hrs
    exact ⟨rs, hrs, hreduced, recordsOfJson?_recordsToJson hreadable⟩
  · intro h
    cases hread : recordsOfJson? v with
    | ok rs => exact absurd (isLinesObject_of_recordsOfJson? hread).1 h
    | error e =>
      refine ⟨e, rfl, fun items hlines => namesFirstBadLine_of_recordsOfJson? hlines hread,
        RecordError.kind_raised_iff, Raised.kind_of_eq_or _ _, fun hwritable => ?_⟩
      refine RecordError.kind_raised_iff.2 fun n hn => ?_
      exact hwritable n (shown_of_recordsOfJson? hread hn)

/-- A category that is an integer of 4301 digits is refused, but not as stored data that is wrong. -/
theorem oversized_category_is_passed_on :
    let token := Json.obj [("text", .str "x"), ("category", .int (10 ^ digitLimit))]
    let v := Json.obj [("lines", .arr [.arr [token]])]
    ¬IsLinesObject v ∧ ∃ e, recordsOfJson? v = .error e ∧ e.raised.kind = .wrongValue := by
  intro token v
  have hread : recordsOfJson? v = .error (.unknownCategory 1 (.int (10 ^ digitLimit))) := rfl
  refine ⟨fun h => ?_, _, hread, ?_⟩
  · obtain ⟨rs, hrs⟩ := recordsOfJson?_of_isLinesObject h
    cases hread.symm.trans hrs
  · refine (Raised.kind_of_eq_or _ _).resolve_left fun hkind => not_isWritable_pow ?_
    exact RecordError.kind_raised_iff.1 hkind _ (by simp [RecordError.shown, Json.integers])

end TagHighlight
