import TagHighlight.Json.Symbol

/-!
# Reading JSON

The symbols of a text are read in order by a machine that remembers what surrounds the value being
read and what may come next. The first symbol that cannot come next is the failure of the whole
text, so of two faults the earlier one is told.
-/

namespace TagHighlight.Json

/-- A list or an object whose next value is being read. -/
inductive Frame
  /-- A list, with the values read so far, the last one first. -/
  | list (before : List Json)
  /-- An object, with the members read so far, the last one first, and the name of the next one. -/
  | object (before : List (LooseText × Json)) (name : LooseText)

/-- What has been read and what may come next. The frames are given from the innermost on. -/
inductive State
  | value (frames : List Frame)
  /-- A list has been opened: a value or the closing bracket must come. -/
  | firstItem (frames : List Frame)
  /-- An object has been opened: a name or the closing brace must come. -/
  | firstName (frames : List Frame)
  | name (before : List (LooseText × Json)) (frames : List Frame)
  | colon (before : List (LooseText × Json)) (name : LooseText) (frames : List Frame)
  /-- A value has been read: a comma or a closing bracket must come, or the end without frames. -/
  | afterValue (v : Json) (frames : List Frame)

/-- Why reading stops, with the text from the place of failure on. -/
inductive Stop
  | fault (f : Fault)
  | oversized (digits : Nat)

def stopAt (cause : Cause) (here : List Char) : Except Stop State := .error (.fault ⟨cause, here⟩)

/-- Reads a symbol where a value must come. -/
def readValue (frames : List Frame) (p : Placed) : Except Stop State :=
  match p.symbol with
  | .openBracket => .ok (.firstItem frames)
  | .openBrace => .ok (.firstName frames)
  | .text s => .ok (.afterValue (str s) frames)
  | .scalar v => .ok (.afterValue v frames)
  | .badText f => .error (.fault f)
  | .oversized digits => .error (.oversized digits)
  | _ => stopAt .noValue p.here

/-- Reads a symbol where the name of a member must come. -/
def readName (before : List (LooseText × Json)) (frames : List Frame) (p : Placed) :
    Except Stop State :=
  match p.symbol with
  | .text s => .ok (.colon before s frames)
  | .badText f => .error (.fault f)
  | _ => stopAt .noName p.here

/-- Reads a symbol after a value. -/
def readAfter (v : Json) (frames : List Frame) (p : Placed) : Except Stop State :=
  match frames, p.symbol with
  | [], _ => stopAt .extraData p.here
  | .list before :: frames, .comma => .ok (.value (.list (v :: before) :: frames))
  | .list before :: frames, .closeBracket => .ok (.afterValue (arr (v :: before).reverse) frames)
  | .object before name :: frames, .comma => .ok (.name ((name, v) :: before) frames)
  | .object before name :: frames, .closeBrace =>
    .ok (.afterValue (ofMembers ((name, v) :: before).reverse) frames)
  | _, _ => stopAt .noComma p.here

def State.next (s : State) (p : Placed) : Except Stop State :=
  match s with
  | value frames => readValue frames p
  | firstItem frames =>
    match p.symbol with
    | .closeBracket => .ok (.afterValue (arr []) frames)
    | _ => readValue (.list [] :: frames) p
  | firstName frames =>
    match p.symbol with
    | .closeBrace => .ok (.afterValue (obj []) frames)
    | _ => readName [] frames p
  | name before frames => readName before frames p
  | colon before key frames =>
    match p.symbol with
    | .colon => .ok (.value (.object before key :: frames))
    | _ => stopAt .noColon p.here
  | afterValue v frames => readAfter v frames p

/-- The value that has been read when the text ends. -/
def State.finish : State → Except Stop Json
  | value _ => .error (.fault ⟨.noValue, []⟩)
  | firstItem _ => .error (.fault ⟨.noValue, []⟩)
  | firstName _ => .error (.fault ⟨.noName, []⟩)
  | name _ _ => .error (.fault ⟨.noName, []⟩)
  | colon _ _ _ => .error (.fault ⟨.noColon, []⟩)
  | afterValue v [] => .ok v
  | afterValue _ (_ :: _) => .error (.fault ⟨.noComma, []⟩)

def run (s : State) : List Placed → Except Stop Json
  | [] => s.finish
  | p :: ps =>
    match s.next p with
    | .ok s => run s ps
    | .error stop => .error stop

def Stop.error (text : List Char) : Stop → ReadError
  | fault f => .malformed f.cause (Place.ofOffset text (text.length - f.here.length))
  | oversized digits => .oversizedInteger digits

/-- The value of a JSON text. A byte order mark at its start is refused. -/
def read (text : List Char) : Except ReadError Json :=
  if text.head? = some '\ufeff' then .error (.malformed .byteOrderMark ⟨1, 1, 0⟩)
  else (run (.value []) (symbols text)).mapError (Stop.error text)

def ofText (s : String) : Except ReadError Json := read s.toList

end TagHighlight.Json
