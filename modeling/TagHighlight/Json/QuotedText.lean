import TagHighlight.Json.Failure
import TagHighlight.Text.Basic
import TagHighlight.Text.Loose

/-!
# Reading JSON texts

The inside of a JSON text is read piece by piece: a plain character, an escape, or the closing
quote. Escapes of code units are joined to one character when a high surrogate is directly followed
by a low one; any other surrogate stands alone. The four digits of a code unit never end the whole
text, since a closing quote has to follow.

Every piece is shorter than what it is read from, which is why reading ends.
-/

namespace TagHighlight.Json

open TagHighlight.Text (hexValue?)

/-- A failure inside a value, with the text from the place of failure on. -/
structure Fault where
  cause : Cause
  here : List Char

/-- The code unit of four hexadecimal digits, and the text after them, which is not empty. -/
def unit? : List Char → Option (Nat × List Char)
  | a :: b :: c :: d :: next :: rest => do
    let a ← hexValue? a
    let b ← hexValue? b
    let c ← hexValue? c
    let d ← hexValue? d
    some (((a * 16 + b) * 16 + c) * 16 + d, next :: rest)
  | _ => none

/-- The low surrogate escaped at the start of the text, and the text after it. -/
def lowSurrogate? : List Char → Option (Nat × List Char)
  | '\\' :: 'u' :: rest =>
    match unit? rest with
    | some (n, rest) => if 0xDC00 ≤ n ∧ n < 0xE000 then some (n, rest) else none
    | none => none
  | _ => none

/-- The code point of the code unit `n`. A high surrogate takes a following low one with it. -/
def unitPoint (n : Nat) (rest : List Char) : CodePoint × List Char :=
  if 0xD800 ≤ n ∧ n < 0xDC00 then
    match lowSurrogate? rest with
    | some (low, rest) => (.ofNat (0x10000 + (n - 0xD800) * 0x400 + (low - 0xDC00)), rest)
    | none => (.ofNat n, rest)
  else (.ofNat n, rest)

/-- The character of a short escape. -/
def shortEscape? (c : Char) : Option Char :=
  if c = '\x22' ∨ c = '\\' ∨ c = '/' then some c
  else if c = 'b' then some '\x08'
  else if c = 'f' then some '\x0c'
  else if c = 'n' then some '\n'
  else if c = 'r' then some '\r'
  else if c = 't' then some '\t'
  else none

/-- The first piece of the inside of a text. -/
inductive Piece
  | close (rest : List Char)
  | point (p : CodePoint) (rest : List Char)
  | fault (f : Fault)

def Piece.rest : Piece → List Char
  | close rest => rest
  | point _ rest => rest
  | fault _ => []

/-- The first piece of the inside of the text that opens at `opening`. -/
def piece (opening : List Char) : List Char → Piece
  | [] => .fault ⟨.unterminatedText, opening⟩
  | c :: cs =>
    if c = '\x22' then .close cs
    else if c = '\\' then
      match cs with
      | [] => .fault ⟨.unterminatedText, opening⟩
      | e :: rest =>
        if e = 'u' then
          match unit? rest with
          | some (n, rest) => .point (unitPoint n rest).1 (unitPoint n rest).2
          | none => .fault ⟨.badUnitEscape, e :: rest⟩
        else
          match shortEscape? e with
          | some d => .point (.char d) rest
          | none => .fault ⟨.unknownEscape, c :: e :: rest⟩
    else if c < ' ' then .fault ⟨.controlCharacter, c :: cs⟩
    else .point (.char c) cs

theorem length_of_unit? {cs rest : List Char} {n : Nat} (h : unit? cs = some (n, rest)) :
    rest.length + 4 = cs.length := by
  unfold unit? at h
  split at h
  · simp only [Option.bind_eq_bind, Option.bind_eq_some_iff, Option.some.injEq,
      Prod.mk.injEq] at h
    obtain ⟨_, _, _, _, _, _, _, _, _, rfl⟩ := h
    simp
  · simp at h

theorem length_of_lowSurrogate? {cs rest : List Char} {n : Nat}
    (h : lowSurrogate? cs = some (n, rest)) : rest.length ≤ cs.length := by
  unfold lowSurrogate? at h
  split at h
  · split at h
    · rename_i hu
      have := length_of_unit? hu
      split at h
      · simp only [Option.some.injEq, Prod.mk.injEq] at h
        obtain ⟨_, rfl⟩ := h
        simp only [List.length_cons]
        omega
      · simp at h
    · simp at h
  · simp at h

theorem length_unitPoint_le (n : Nat) (cs : List Char) :
    (unitPoint n cs).2.length ≤ cs.length := by
  unfold unitPoint
  split
  · split
    · rename_i h
      exact length_of_lowSurrogate? h
    · exact Nat.le_refl _
  · exact Nat.le_refl _

theorem length_piece_lt (opening : List Char) (c : Char) (cs : List Char) :
    (piece opening (c :: cs)).rest.length < (c :: cs).length := by
  simp only [piece]
  split
  · simp [Piece.rest]
  · split
    · cases cs with
      | nil => simp [Piece.rest]
      | cons e rest =>
        simp only
        split
        · split
          · rename_i n after h
            have h4 := length_of_unit? h
            have hle := length_unitPoint_le n after
            simp only [Piece.rest, List.length_cons]
            omega
          · simp [Piece.rest]
        · split
          · simp only [Piece.rest, List.length_cons]
            omega
          · simp [Piece.rest]
    · split <;> simp [Piece.rest]

/-- The inside of the text that opens at `opening`, and what follows its closing quote. -/
def inside (opening cs : List Char) : Except Fault (List CodePoint × List Char) :=
  match _h : piece opening cs with
  | .fault f => .error f
  | .close rest => .ok ([], rest)
  | .point p rest =>
    match inside opening rest with
    | .error f => .error f
    | .ok (text, after) => .ok (p :: text, after)
termination_by cs.length
decreasing_by
  cases cs with
  | nil => simp [piece] at _h
  | cons d ds =>
    have := length_piece_lt opening d ds
    rw [_h] at this
    exact this

theorem length_of_inside {opening cs rest : List Char} {text : List CodePoint}
    (h : inside opening cs = .ok (text, rest)) : rest.length ≤ cs.length := by
  fun_induction inside opening cs generalizing text rest with
  | case1 => simp at h
  | case2 cs after hp =>
    simp only [Except.ok.injEq, Prod.mk.injEq] at h
    obtain ⟨_, rfl⟩ := h
    cases cs with
    | nil => simp [piece] at hp
    | cons d ds =>
      have := length_piece_lt opening d ds
      rw [hp] at this
      exact Nat.le_of_lt this
  | case3 => simp at h
  | case4 cs p after hp text' rest' hi ih =>
    simp only [Except.ok.injEq, Prod.mk.injEq] at h
    obtain ⟨_, rfl⟩ := h
    cases cs with
    | nil => simp [piece] at hp
    | cons d ds =>
      have hlt := length_piece_lt opening d ds
      rw [hp] at hlt
      exact Nat.le_trans (ih hi) (Nat.le_of_lt hlt)

end TagHighlight.Json
