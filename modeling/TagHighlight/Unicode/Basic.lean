/-!
# Properties of code points

A property of characters is given by a table of the code points that have it: closed ranges, or runs
that step over every second code point. Both tables ascend, so a look-up stops at the first entry
that starts beyond the code point.

Blanks separate words: the white space of all scripts and the four information separators. They are
a closed list of 29 characters, so a fact about every blank can be checked character by character.
-/

namespace TagHighlight.Unicode

/-- The code point lies in one of the closed ranges, which ascend. -/
def inRanges : List (Nat × Nat) → Nat → Bool
  | [], _ => false
  | (first, last) :: rs, n => Nat.ble first n && (Nat.ble n last || inRanges rs n)

/-- The code points `first`, `first + stride`, and so on, up to `last`. -/
structure Run where
  first : Nat
  last : Nat
  stride : Nat

def Run.contains (r : Run) (n : Nat) : Bool :=
  Nat.ble r.first n && Nat.ble n r.last && Nat.beq ((n - r.first) % r.stride) 0

/-- The code point lies in one of the runs, which ascend. -/
def inRuns : List Run → Nat → Bool
  | [], _ => false
  | r :: rs, n => Nat.ble r.first n && (r.contains n || inRuns rs n)

def blanks : List Char := [
  '\t', '\n', '\x0b', '\x0c', '\r', '\x1c', '\x1d', '\x1e', '\x1f', ' ', '\x85', '\xa0', '\u1680',
  '\u2000', '\u2001', '\u2002', '\u2003', '\u2004', '\u2005', '\u2006', '\u2007', '\u2008',
  '\u2009', '\u200a', '\u2028', '\u2029', '\u202f', '\u205f', '\u3000']

def isBlank (c : Char) : Bool := blanks.contains c

end TagHighlight.Unicode
