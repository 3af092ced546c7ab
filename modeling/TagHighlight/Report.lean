import TagHighlight.Text.Basic
import TagHighlight.Text.Loose

/-!
# Reports

What is told besides a result: a failure by its kind and a message, and a log by its records, in the
order in which they arise. All loggers stand below one root.

A message shows the integers that are given to the highlighter in decimal. An integer of more digits
than `digitLimit` cannot be written, and then that is the failure which is told. Lengths of texts,
places in them and numbers of their lines have far fewer digits and are written as they are.
-/

namespace TagHighlight

def version : String := "0.1.0"

/-! ### Failures -/

inductive ErrorKind
  | any
  | highlighter
  | partition
  | serialization
  | theme
  | wrongValue
  | unicode
  | unicodeEncoding
  | arithmetic
  | overflow
  | wrongType
  | missingAttribute
  deriving DecidableEq

namespace ErrorKind

def name : ErrorKind → String
  | any => "Exception"
  | highlighter => "JsxlightError"
  | partition => "PartitionError"
  | serialization => "SerializationError"
  | theme => "ThemeError"
  | wrongValue => "ValueError"
  | unicode => "UnicodeError"
  | unicodeEncoding => "UnicodeEncodeError"
  | arithmetic => "ArithmeticError"
  | overflow => "OverflowError"
  | wrongType => "TypeError"
  | missingAttribute => "AttributeError"

/-- The kinds that the highlighter has added to the general ones. -/
def own : List ErrorKind := [highlighter, partition, serialization, theme]

/-- The kinds that a kind is a case of, the nearest one first. -/
def ancestors : ErrorKind → List ErrorKind
  | any => []
  | highlighter | wrongValue | arithmetic | wrongType | missingAttribute => [any]
  | partition | serialization | theme => [highlighter, any]
  | unicode => [wrongValue, any]
  | unicodeEncoding => [unicode, wrongValue, any]
  | overflow => [arithmetic, any]

theorem ancestors_suffix_of_mem {k l : ErrorKind} (h : l ∈ k.ancestors) :
    l.ancestors <:+ k.ancestors := by
  revert h
  cases k <;> cases l <;> decide

end ErrorKind

/-- A failure as it is told. -/
structure Raised where
  kind : ErrorKind
  message : LooseText

/-- The failure to encode a text, with the place of the surrogates. -/
def LoneSurrogates.raised (e : LoneSurrogates) : Raised :=
  let digits := String.ofList (Text.hex 4 (0xD800 + e.first.val))
  let place :=
    if e.count = 1 then s!"character '\\u{digits}' in position {e.offset}"
    else s!"characters in position {e.offset}-{e.offset + e.count - 1}"
  ⟨.unicodeEncoding, s!"'utf-8' codec can't encode {place}: surrogates not allowed"⟩

/-! ### Integers in messages -/

/-- An integer that is read or written has at most this many digits. -/
def digitLimit : Nat := 4300

/-- The least number with more digits than the limit. -/
def leastOversized : Nat := Nat.pow 10 digitLimit

/-- An integer with more digits than the limit. -/
structure OversizedInteger where
  value : Int
  least_le : leastOversized ≤ value.natAbs

namespace OversizedInteger

def of? (n : Int) : Option OversizedInteger :=
  if h : leastOversized ≤ n.natAbs then some ⟨n, h⟩ else none

def raised (_ : OversizedInteger) : Raised :=
  ⟨.wrongValue, s!"Exceeds the limit ({digitLimit} digits) for integer string conversion; use " ++
    "sys.set_int_max_str_digits() to increase the limit"⟩

end OversizedInteger

/-- The integer has no more digits than the limit. -/
def IsWritable (n : Int) : Prop := n.natAbs < leastOversized

theorem OversizedInteger.of?_eq_none_iff {n : Int} : of? n = none ↔ IsWritable n := by
  unfold of? IsWritable
  split
  · rename_i h
    exact iff_of_false nofun (Nat.not_lt.2 h)
  · rename_i h
    exact iff_of_true rfl (Nat.not_le.1 h)

/-- A text that shows the given integers, if all of them can be written. -/
def showing (ns : List Int) (text : String) : Except OversizedInteger String :=
  match ns.findSome? OversizedInteger.of? with
  | some e => .error e
  | none => .ok text

theorem showing_of_writable {ns : List Int} (h : ∀ n ∈ ns, IsWritable n) (text : String) :
    showing ns text = .ok text := by
  have hnone : ns.findSome? OversizedInteger.of? = none :=
    List.findSome?_eq_none_iff.2 fun n hn => OversizedInteger.of?_eq_none_iff.2 (h n hn)
  rw [showing, hnone]

theorem showing_of_not_writable {ns : List Int} (h : ¬∀ n ∈ ns, IsWritable n) (text : String) :
    ∃ e, showing ns text = .error e := by
  cases hfind : ns.findSome? OversizedInteger.of? with
  | some e => exact ⟨e, by rw [showing, hfind]⟩
  | none =>
    refine absurd (fun n hn => ?_) h
    exact OversizedInteger.of?_eq_none_iff.1 (List.findSome?_eq_none_iff.1 hfind n hn)

/-- The failure of a kind, or the one of an integer that its message cannot show. -/
def Raised.of (kind : ErrorKind) : Except OversizedInteger LooseText → Raised
  | .ok message => ⟨kind, message⟩
  | .error e => e.raised

/-! ### Log records -/

namespace Log

inductive Level
  | debug
  | warning

def Level.name : Level → String
  | debug => "DEBUG"
  | warning => "WARNING"

/-- A message of a logger. -/
structure Record where
  level : Level
  logger : String
  message : String

def root : String := "jsxlight"

/-- The name of a logger with the root in front, unless it is there already. -/
def loggerName (name : String) : String :=
  if name = root ∨ (root ++ ".").toList.isPrefixOf name.toList then name else root ++ "." ++ name

end Log

end TagHighlight
