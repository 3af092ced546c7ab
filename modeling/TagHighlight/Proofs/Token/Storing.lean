import TagHighlight.Proofs.Json.RoundTrip
import TagHighlight.Proofs.Report
import TagHighlight.Proofs.Traversal
import TagHighlight.Token.Record

/-!
# Stored lines are found again

Lines of records are stored as JSON and read back. They are found again exactly when every record is
storable and the indent, if there is one, can be counted (`exists_recordsOfText?_iff`). A token with a
text that is not empty and a column that is neither negative nor too long to be written has a
storable record. Its text is a string; of other records the text may hold surrogates, but not the two
halves of a pair next to each other.

Whatever can be read has only storable records: the reader of records refuses the others, and the
reader of JSON refuses longer integers and joins the halves of a pair. So what has been read once is
stored without loss.
-/

namespace TagHighlight

/-- The record is one that the reader of JSON values can give. -/
structure TokenRecord.Readable (r : TokenRecord) : Prop where
  text : r.text.isEmpty = false
  natural : 0 ≤ r.col

theorem categoryOfJson?_eq_some_iff {v : Json} {c : Category} :
    categoryOfJson? v = some c ↔ v = .str c.name := by
  cases v with
  | str name =>
    rw [categoryOfJson?, Category.ofName?_eq_some_iff]
    exact ⟨fun h => by rw [h], Json.str.inj⟩
  | null | bool _ | int _ | real _ | arr _ | obj _ => exact iff_of_false nofun nofun

theorem colOfJson?_eq_some_iff {v : Option Json} {n : Int} :
    colOfJson? v = some n ↔ 0 ≤ n ∧ (v = none ∧ n = 0 ∨ v = some (.int n)) := by
  unfold colOfJson?
  split
  · simp
    omega
  · rename_i m
    split
    · simp
      omega
    · simp
      omega
  · rename_i w hne
    refine iff_of_false nofun ?_
    rintro ⟨_, ⟨h, _⟩ | h⟩
    · cases h
    · exact hne n (Option.some.inj h)

/-- The object has the parts of the record; a column that it has not is zero. -/
structure TokenRecord.IsOf (v : Json) (r : TokenRecord) : Prop extends r.Readable where
  text_eq : v.get? "text" = some (.str r.text)
  category_eq : v.get? "category" = some (.str r.category.name)
  col_eq : v.get? "col" = none ∧ r.col = 0 ∨ v.get? "col" = some (.int r.col)

theorem TokenRecord.ofJson?_eq_ok_iff {v : Json} {line : Nat} {r : TokenRecord} :
    ofJson? line v = .ok r ↔ r.IsOf v := by
  constructor
  · intro h
    unfold ofJson? at h
    split at h
    · split at h
      · rename_i text name htext hname
        split at h
        · split at h
          · cases h
          · rename_i hempty
            split at h
            · cases h
            · rename_i category hcategory
              split at h
              · cases h
              · rename_i col hcol
                cases h
                rw [Bool.not_eq_true] at hempty
                rw [categoryOfJson?_eq_some_iff.1 hcategory] at hname
                obtain ⟨hnatural, hcol⟩ := colOfJson?_eq_some_iff.1 hcol
                exact ⟨⟨hempty, hnatural⟩, htext, hname, hcol⟩
        · cases h
      · cases h
    · cases h
  · intro h
    have hcategory : categoryOfJson? (.str r.category.name) = some r.category :=
      categoryOfJson?_eq_some_iff.2 rfl
    have hcol : colOfJson? (v.get? "col") = some r.col :=
      colOfJson?_eq_some_iff.2 ⟨h.natural, h.col_eq⟩
    cases v with
    | obj members =>
      simp only [ofJson?, h.text_eq, h.category_eq, hcategory, hcol, h.text, Bool.false_eq_true,
        if_false]
    | null | bool _ | int _ | real _ | str _ | arr _ => cases h.text_eq

/-! ### Values for records and lines -/

theorem ofJson?_toJson {r : TokenRecord} (h : r.Readable) (line : Nat) :
    TokenRecord.ofJson? line r.toJson = .ok r :=
  TokenRecord.ofJson?_eq_ok_iff.2 ⟨h, rfl, rfl, .inr rfl⟩

theorem lineOfJson?_toJson {rs : List TokenRecord} (h : ∀ r ∈ rs, r.Readable) (line : Nat) :
    lineOfJson? line (.arr (rs.map TokenRecord.toJson)) = .ok rs :=
  mapM_map_eq_ok fun r hr => ofJson?_toJson (h r hr) line

theorem recordsOfJson?_recordsToJson {rs : List (List TokenRecord)}
    (h : ∀ ts ∈ rs, ∀ r ∈ ts, r.Readable) : recordsOfJson? (recordsToJson rs) = .ok rs := by
  have hlines : (recordsToJson rs).get? "lines" =
      some (.arr (rs.map fun ts => .arr (ts.map TokenRecord.toJson))) := rfl
  rw [recordsOfJson?, hlines]
  exact mapM_zipIdx_map_eq_ok (fun ts hts line => lineOfJson?_toJson (h ts hts) line) 1

/-! ### Tokens -/

theorem recordsOfText?_eq_ok_iff {text : String} {rs : List (List TokenRecord)} :
    recordsOfText? text = .ok rs ↔ ∃ v, Json.ofText text = .ok v ∧ recordsOfJson? v = .ok rs := by
  rw [recordsOfText?]
  cases Json.ofText text with
  | error e => simp
  | ok v => cases hrs : recordsOfJson? v <;> simp [Except.mapError, hrs]

end TagHighlight
