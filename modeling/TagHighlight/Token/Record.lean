import TagHighlight.Json.Display
import TagHighlight.Json.Reader
import TagHighlight.Json.Writer
import TagHighlight.Token.Basic

/-!
# Lines of tokens as JSON

Lines are kept in an object whose member `lines` is a list of lists of tokens, and a token is an
object with its category, column and text. Reading takes any JSON value and tells the first thing
that is wrong with it, with the number of its line: other members are ignored, a missing column is
zero, and a column must be an integer, not a real number that happens to be whole.

What is stored and read are records of tokens. A record is like a token, except that surrogates may
stand alone in its text, since JSON can write them.
-/

namespace TagHighlight

/-- A token as JSON can hold it. -/
structure TokenRecord where
  text : LooseText
  category : Category
  col : Int
  deriving DecidableEq

def Token.record (t : Token) : TokenRecord := ⟨t.text, t.category, t.col⟩

/-- Equal text and category, token by token. -/
def TokenRecord.linesAgree (ls ms : List (List TokenRecord)) : Bool :=
  let strip := List.map (List.map fun r : TokenRecord => (r.text, r.category))
  strip ls == strip ms

def TokenRecord.toJson (r : TokenRecord) : Json :=
  .obj [("category", .str r.category.name), ("col", .int r.col), ("text", .str r.text)]

/-- Lines of records as an object. -/
def recordsToJson (rs : List (List TokenRecord)) : Json :=
  .obj [("lines", .arr (rs.map fun ts => .arr (ts.map TokenRecord.toJson)))]

/-- Why a JSON value is not a list of lines. -/
inductive RecordError
  /-- There is no member `lines` with a list. -/
  | noLines
  | lineNotList (line : Nat)
  | tokenNotObject (line : Nat)
  /-- A token has no text or no category. -/
  | missingField (line : Nat)
  /-- The text of a token is empty or no text. -/
  | badText (line : Nat)
  | unknownCategory (line : Nat) (given : Json)
  /-- The column of a token is not a natural number. -/
  | badCol (line : Nat)

def RecordError.message : RecordError → Except OversizedInteger String
  | noLines => .ok "Expected a mapping with a 'lines' list"
  | lineNotList line => .ok s!"Line {line}: expected a list of tokens"
  | tokenNotObject line => .ok s!"Line {line}: token must be a mapping"
  | missingField line => .ok s!"Line {line}: token needs 'text' and 'category'"
  | badText line => .ok s!"Line {line}: token text must be a non-empty string"
  | unknownCategory line given => do return s!"Line {line}: unknown category {← given.display}"
  | badCol line => .ok s!"Line {line}: token col must be a non-negative integer"

def RecordError.raised (e : RecordError) : Raised := .of .serialization (e.message.map .ofString)

/-- The category that a JSON value names. -/
def categoryOfJson? : Json → Option Category
  | .str name => Category.ofName? name
  | _ => none

/-- The column that a token object gives; without one it is zero. -/
def colOfJson? : Option Json → Option Int
  | none => some 0
  | some (.int n) => if 0 ≤ n then some n else none
  | some _ => none

/-- The record of a JSON value in a line. -/
def TokenRecord.ofJson? (line : Nat) (v : Json) : Except RecordError TokenRecord :=
  match v with
  | .obj _ =>
    match v.get? "text", v.get? "category" with
    | some text, some name =>
      match text with
      | .str s =>
        if s.isEmpty then .error (.badText line)
        else
          match categoryOfJson? name with
          | none => .error (.unknownCategory line name)
          | some category =>
            match colOfJson? (v.get? "col") with
            | none => .error (.badCol line)
            | some col => .ok ⟨s, category, col⟩
      | _ => .error (.badText line)
    | _, _ => .error (.missingField line)
  | _ => .error (.tokenNotObject line)

/-- The records of a JSON value that is one line. -/
def lineOfJson? (line : Nat) : Json → Except RecordError (List TokenRecord)
  | .arr items => items.mapM (TokenRecord.ofJson? line)
  | _ => .error (.lineNotList line)

/-- The records of the lines of a JSON value. -/
def recordsOfJson? (v : Json) : Except RecordError (List (List TokenRecord)) :=
  match v.get? "lines" with
  | some (.arr items) => (items.zipIdx 1).mapM fun (item, line) => lineOfJson? line item
  | _ => .error .noLines

/-- The JSON text of lines of records. -/
def recordsToText (rs : List (List TokenRecord)) (indent : Option Int) :
    Except Json.WriteError String :=
  (recordsToJson rs).toText indent

/-- Why a text does not hold lines of tokens. -/
inductive PayloadError
  | unreadable (e : Json.ReadError)
  | malformed (e : RecordError)

/-- A text that is not JSON is refused as any other one that holds no lines. An integer of too many
digits is a failure of its own. -/
def PayloadError.raised : PayloadError → Raised
  | unreadable (.malformed cause place) =>
    ⟨.serialization, "Invalid JSON: " ++ (Json.ReadError.malformed cause place).message⟩
  | unreadable e => ⟨.wrongValue, e.message⟩
  | malformed e => e.raised

/-- The records of the lines of a JSON text. -/
def recordsOfText? (s : String) : Except PayloadError (List (List TokenRecord)) :=
  match Json.ofText s with
  | .error e => .error (.unreadable e)
  | .ok v => (recordsOfJson? v).mapError .malformed

end TagHighlight
