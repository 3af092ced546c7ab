import TagHighlight.Proofs.Json.Oversized
import TagHighlight.Proofs.Token.Acceptance

/-!
# How texts are refused

A text that holds no lines of tokens is refused, and the reason is told as a failure of stored data.
One failure is not: when the reader of JSON stops at an integer of too many digits, its own failure is
passed on (`recordsOfText?_of_stopsAtInteger`). This is the only one (`readsOrRefuses_iff`), and only a
text with that many digits in a row has it. The values that can be read hold no such integers, so what
is wrong with them can always be told.
-/

namespace TagHighlight

open Json (StopsAtInteger HasDigits)

/-- The text holds lines, or it is refused as stored data that is wrong. -/
def ReadsOrRefuses (s : String) : Prop :=
  (∃ rs, recordsOfText? s = .ok rs) ∨
    ∃ e, recordsOfText? s = .error e ∧ e.raised.kind = .serialization

theorem recordsOfText?_of_stopsAtInteger {s : String} {n : Nat} (h : StopsAtInteger s.toList n) :
    recordsOfText? s = .error (.unreadable (.oversizedInteger n)) := by
  have hread : Json.ofText s = .error (.oversizedInteger n) := Json.read_eq_oversized_iff.2 h
  rw [recordsOfText?, hread]

theorem not_readsOrRefuses_of_stopsAtInteger {s : String} {n : Nat}
    (h : StopsAtInteger s.toList n) : ¬ReadsOrRefuses s := by
  have hlines := recordsOfText?_of_stopsAtInteger h
  rintro (⟨rs, hrs⟩ | ⟨e, he, howned⟩)
  · rw [hlines] at hrs
    cases hrs
  · rw [hlines] at he
    cases he
    cases howned

theorem kind_raised_of_recordsOfJson? {v : Json} (hv : v.Legible) {e : RecordError}
    (h : recordsOfJson? v = .error e) : e.raised.kind = .serialization :=
  RecordError.kind_raised_iff.2 fun n hn => hv.isWritable n (shown_of_recordsOfJson? h hn)

theorem readsOrRefuses_iff (s : String) : ReadsOrRefuses s ↔ ¬∃ n, StopsAtInteger s.toList n := by
  constructor
  · rintro h ⟨n, hn⟩
    exact not_readsOrRefuses_of_stopsAtInteger hn h
  · intro hnone
    cases hread : Json.ofText s with
    | error e =>
      refine .inr ⟨.unreadable e, by rw [recordsOfText?, hread], ?_⟩
      cases e with
      | malformed cause place => rfl
      | oversizedInteger n => exact absurd ⟨n, Json.read_eq_oversized_iff.1 hread⟩ hnone
    | ok v =>
      cases hrecords : recordsOfJson? v with
      | ok rs => exact .inl ⟨rs, recordsOfText?_eq_ok_iff.2 ⟨v, hread, hrecords⟩⟩
      | error e =>
        refine .inr ⟨.malformed e, by rw [recordsOfText?, hread]; simp only [hrecords]; rfl, ?_⟩
        exact kind_raised_of_recordsOfJson? (Json.legible_of_ofText hread) hrecords

/-- **A text is read or refused, except for one failure.** The only failure that is passed on is the
one of an integer of more digits than the limit, in a place where a value must come and without a
fault before it. So a text without that many digits in a row is always read or refused. -/
theorem text_is_read_or_refused (s : String) :
    (ReadsOrRefuses s ↔ ¬∃ n, StopsAtInteger s.toList n) ∧
    (∀ n, StopsAtInteger s.toList n →
      recordsOfText? s = .error (.unreadable (.oversizedInteger n)) ∧ digitLimit < n ∧
        HasDigits s.toList n) ∧
    ((∀ n, HasDigits s.toList n → n ≤ digitLimit) → ReadsOrRefuses s) := by
  refine ⟨readsOrRefuses_iff s, fun n hn => ?_, fun hfew => ?_⟩
  · exact ⟨recordsOfText?_of_stopsAtInteger hn, hn.hasDigits⟩
  · rw [readsOrRefuses_iff]
    rintro ⟨n, hn⟩
    obtain ⟨hlong, hdigits⟩ := hn.hasDigits
    have hle := hfew n hdigits
    omega

/-- The failure of a long integer is passed on, and a text without a digit is refused. -/
theorem text_of_sevens_is_passed_on :
    StopsAtInteger (String.ofList (List.replicate 5000 '7')).toList 5000 ∧
      recordsOfText? (String.ofList (List.replicate 5000 '7')) =
        .error (.unreadable (.oversizedInteger 5000)) ∧
      (∀ n, HasDigits "[]".toList n → n ≤ digitLimit) ∧ ReadsOrRefuses "[]" := by
  have hstops : StopsAtInteger (String.ofList (List.replicate 5000 '7')).toList 5000 := by
    rw [String.toList_ofList]
    exact Json.stopsAtInteger_replicate (by decide) (by decide) (by decide)
  have hfew : ∀ n, HasDigits "[]".toList n → n ≤ digitLimit := by
    rintro n ⟨ds, hds, rfl, -⟩
    exact hds.length_le.trans (by decide)
  exact ⟨hstops, ((text_is_read_or_refused _).2.1 5000 hstops).1, hfew,
    (text_is_read_or_refused "[]").2.2 hfew⟩

/-- One digit over the limit is enough. -/
theorem text_of_ones_is_not_refused :
    ¬ReadsOrRefuses (String.ofList (List.replicate 4301 '1')) := by
  apply not_readsOrRefuses_of_stopsAtInteger
  rw [String.toList_ofList]
  exact Json.stopsAtInteger_replicate (by decide) (by decide) (show digitLimit < 4301 by decide)

end TagHighlight
