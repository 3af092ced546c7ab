import TagHighlight.Text.Quoted

/-!
# Reading markup

A text in HTML is read character by character: `readItems` gives its tags, with their attributes, and
the characters that stand outside of tags. A tag begins with any `<`, whatever follows it, and ends
with the first `>` that no quoted value of an attribute holds. `document?` then builds the elements
out of the items, and there is no document when an element is closed that is not the innermost open
one, or when one is never closed.

`Reads html is` says that in front of any other text the items of `html` are `is`. Parts that read so
can be put together, and the items of elements are the elements again (`nest_itemsOf`), so a text
that reads like the items of some nodes is a document with these nodes (`Reads.document?_eq`).
-/

namespace TagHighlight.Html

open TagHighlight.Text (isQuote)

/-! ### Tags -/

inductive TagKind
  | opening
  | closing
  /-- The tag is an element by itself. -/
  | void
  deriving DecidableEq

structure Tag where
  kind : TagKind
  name : String
  attributes : List (String × String)
  deriving DecidableEq

/-- A tag, or a character outside of tags. -/
inductive Item
  | tag (t : Tag)
  | char (c : Char)
  deriving DecidableEq

def Item.tag? : Item → Option Tag
  | tag t => some t
  | char _ => none

/-- The names of elements that have no closing tag. -/
def voidNames : List (List Char) :=
  ["area".toList, "base".toList, "br".toList, "col".toList, "embed".toList, "hr".toList,
    "img".toList, "input".toList, "link".toList, "meta".toList, "source".toList, "track".toList,
    "wbr".toList]

/-! ### Reading -/

/-- What is known of a tag that is being read. -/
structure Draft where
  closing : Bool := false
  name : List Char := []
  attributes : List (String × String) := []

def Draft.finish (d : Draft) : Tag where
  kind := if d.closing then .closing else if voidNames.contains d.name then .void else .opening
  name := String.ofList d.name
  attributes := d.attributes

def Draft.add (d : Draft) (name value : List Char) : Draft :=
  { d with attributes := d.attributes ++ [(String.ofList name, String.ofList value)] }

/-- The character may stand between the parts of a tag. -/
def isGap (c : Char) : Bool :=
  c == ' ' || c == '\t' || c == '\n' || c == '\x0c' || c == '\r' || c == '/'

/-- Where the reader stands. -/
inductive Reading
  /-- Outside of tags. -/
  | text
  | name (d : Draft)
  /-- Inside a tag, between its parts. -/
  | gap (d : Draft)
  | attr (d : Draft) (name : List Char)
  /-- Behind the sign of an attribute. -/
  | value (d : Draft) (name : List Char)
  | quoted (d : Draft) (name : List Char) (quote : Char) (value : List Char)
  | bare (d : Draft) (name value : List Char)

def Reading.next (r : Reading) (c : Char) : Reading × Option Item :=
  match r with
  | text => if c = '<' then (name {}, none) else (text, some (.char c))
  | name d =>
    if c = '/' ∧ d.name = [] then (name { d with closing := true }, none)
    else if c = '>' then (text, some (.tag d.finish))
    else if isGap c then (gap d, none)
    else (name { d with name := d.name ++ [c] }, none)
  | gap d =>
    if c = '>' then (text, some (.tag d.finish))
    else if isGap c then (gap d, none)
    else (attr d [c], none)
  | attr d n =>
    if c = '>' then (text, some (.tag (d.add n []).finish))
    else if c = '=' then (value d n, none)
    else if isGap c then (gap (d.add n []), none)
    else (attr d (n ++ [c]), none)
  | value d n =>
    if c = '>' then (text, some (.tag (d.add n []).finish))
    else if isQuote c then (quoted d n c [], none)
    else if isGap c then (value d n, none)
    else (bare d n [c], none)
  | quoted d n quote v =>
    if c = quote then (gap (d.add n v), none) else (quoted d n quote (v ++ [c]), none)
  | bare d n v =>
    if c = '>' then (text, some (.tag (d.add n v).finish))
    else if isGap c then (gap (d.add n v), none)
    else (bare d n (v ++ [c]), none)

/-- The items of a text. A tag that is not finished is none. -/
def readItems (r : Reading) : List Char → List Item
  | [] => []
  | c :: cs => (r.next c).2.toList ++ readItems (r.next c).1 cs

def tags (html : String) : List Tag := (readItems .text html.toList).filterMap Item.tag?

theorem readItems_quoted {quote : Char} {cs : List Char} (h : quote ∉ cs) (d : Draft)
    (n v rest : List Char) :
    readItems (.quoted d n quote v) (cs ++ quote :: rest) =
      readItems (.gap (d.add n (v ++ cs))) rest := by
  induction cs generalizing v with
  | nil =>
    rw [List.nil_append, readItems, Reading.next, if_pos rfl, List.append_nil]
    rfl
  | cons c cs ih =>
    have hc : c ≠ quote := fun he => h (he ▸ List.mem_cons_self)
    rw [List.cons_append, readItems, Reading.next, if_neg hc]
    show readItems (.quoted d n quote (v ++ [c])) _ = _
    rw [ih fun hm => h (List.mem_cons_of_mem c hm), List.append_assoc]
    rfl

theorem readItems_text {cs : List Char} (h : '<' ∉ cs) (rest : List Char) :
    readItems .text (cs ++ rest) = cs.map .char ++ readItems .text rest := by
  induction cs with
  | nil => rfl
  | cons c cs ih =>
    have hc : c ≠ '<' := fun he => h (he ▸ List.mem_cons_self)
    rw [List.cons_append, readItems, Reading.next, if_neg hc]
    show .char c :: readItems .text (cs ++ rest) = _
    rw [ih fun hm => h (List.mem_cons_of_mem c hm)]
    rfl

/-! ### Elements -/

inductive Node
  | element (name : String) (attributes : List (String × String)) (children : List Node)
  | void (name : String) (attributes : List (String × String))
  | char (c : Char)

mutual

def Node.items : Node → List Item
  | .element name attributes children =>
    .tag ⟨.opening, name, attributes⟩ :: (itemsOf children ++ [.tag ⟨.closing, name, []⟩])
  | .void name attributes => [.tag ⟨.void, name, attributes⟩]
  | .char c => [.char c]

def itemsOf : List Node → List Item
  | [] => []
  | n :: ns => n.items ++ itemsOf ns

end

/-- An element that is open, and what precedes it, the last node first. -/
structure OpenElement where
  name : String
  attributes : List (String × String)
  before : List Node

/-- The nodes of items. The open elements are given from the innermost on, and the nodes that are done
from the last on. -/
def nest (outer : List OpenElement) (done : List Node) : List Item → Option (List Node)
  | [] => if outer.isEmpty then some done.reverse else none
  | .char c :: is => nest outer (.char c :: done) is
  | .tag ⟨.opening, name, attributes⟩ :: is => nest (⟨name, attributes, done⟩ :: outer) [] is
  | .tag ⟨.void, name, attributes⟩ :: is => nest outer (.void name attributes :: done) is
  | .tag ⟨.closing, name, _⟩ :: is =>
    match outer with
    | [] => none
    | e :: outer =>
      if e.name = name then nest outer (.element e.name e.attributes done.reverse :: e.before) is
      else none

/-- The nodes of a text, if its tags are well nested. -/
def document? (html : String) : Option (List Node) := nest [] [] (readItems .text html.toList)

theorem itemsOf_append (ns ms : List Node) : itemsOf (ns ++ ms) = itemsOf ns ++ itemsOf ms := by
  induction ns with
  | nil => rfl
  | cons n ns ih => rw [List.cons_append, itemsOf, itemsOf, ih, List.append_assoc]

mutual

theorem nest_items (n : Node) (outer : List OpenElement) (done : List Node) (rest : List Item) :
    nest outer done (n.items ++ rest) = nest outer (n :: done) rest := by
  cases n with
  | element name attributes children =>
    rw [Node.items, List.cons_append, List.append_assoc]
    show nest (⟨name, attributes, done⟩ :: outer) [] (itemsOf children ++ _) = _
    rw [nest_itemsOf children, List.append_nil]
    show (if name = name then nest outer (.element name attributes children.reverse.reverse :: done)
      rest else none) = _
    rw [if_pos rfl, List.reverse_reverse]
  | void name attributes => rfl
  | char c => rfl

theorem nest_itemsOf (ns : List Node) (outer : List OpenElement) (done : List Node)
    (rest : List Item) :
    nest outer done (itemsOf ns ++ rest) = nest outer (ns.reverse ++ done) rest := by
  cases ns with
  | nil => rfl
  | cons n ns =>
    rw [itemsOf, List.append_assoc, nest_items n, nest_itemsOf ns, List.reverse_cons,
      List.append_assoc]
    rfl

end

/-! ### Parts of a text -/

/-- In front of any other text, the items of this one are the given ones. -/
def Reads (html : String) (is : List Item) : Prop :=
  ∀ rest, readItems .text (html.toList ++ rest) = is ++ readItems .text rest

namespace Reads

theorem empty : Reads "" [] := fun _ => rfl

theorem append {html html' : String} {is is' : List Item} (h : Reads html is)
    (h' : Reads html' is') : Reads (html ++ html') (is ++ is') := by
  intro rest
  rw [String.toList_append, List.append_assoc, h, h', List.append_assoc]

theorem feed : Reads "\n" [.char '\n'] := fun _ => rfl

theorem text {s : String} (h : '<' ∉ s.toList) : Reads s (s.toList.map .char) :=
  fun rest => readItems_text h rest

theorem join {α : Type} {f : α → String} {g : α → List Node} (h : ∀ a, Reads (f a) (itemsOf (g a)))
    (as : List α) : Reads (String.join (as.map f)) (itemsOf (as.flatMap g)) := by
  induction as with
  | nil => exact empty
  | cons a as ih =>
    rw [List.map_cons, String.join_cons, List.flatMap_cons, itemsOf_append]
    exact (h a).append ih

theorem element {opening body closing name : String} {attributes : List (String × String)}
    {children after : List Node} (hopen : Reads opening [.tag ⟨.opening, name, attributes⟩])
    (hbody : Reads body (itemsOf children))
    (hclose : Reads closing (.tag ⟨.closing, name, []⟩ :: itemsOf after)) :
    Reads (opening ++ body ++ closing) (itemsOf (.element name attributes children :: after)) := by
  have hall := (hopen.append hbody).append hclose
  rw [List.append_assoc] at hall
  rwa [itemsOf, Node.items, List.cons_append, List.append_assoc]

theorem items_eq {html : String} {is : List Item} (h : Reads html is) :
    readItems .text html.toList = is := by
  have hall := h []
  rwa [List.append_nil, readItems, List.append_nil] at hall

theorem document?_eq {html : String} {ns : List Node} (h : Reads html (itemsOf ns)) :
    document? html = some ns := by
  have hnest := nest_itemsOf ns [] [] []
  rw [document?, h.items_eq]
  rw [List.append_nil, List.append_nil] at hnest
  rw [hnest, nest, List.reverse_reverse]
  rfl

end Reads

/-- Elements do not overlap. -/
example : document? "<i>a<b></i></b>" = none := by decide +kernel

end TagHighlight.Html
