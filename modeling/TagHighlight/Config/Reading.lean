import TagHighlight.Config.Basic
import TagHighlight.Report

/-!
# Reading a configuration

A configuration is given as an object; members that name no setting are ignored, and settings that
are missing keep their defaults. A table is a list of words, a single word, or an object whose
member names are the words. An entry that is neither a text nor a list nor an object is accepted as
one that matches no word, but an element name must be a text, since it is lowered.
-/

namespace TagHighlight

/-- Why a configuration is refused, or has no key. -/
inductive ConfigError
  | notAnObject (given : Json)
  | notATable (given : Json)
  | compoundEntry (given : Json)
  | elementNotText (given : Json)
  /-- A table with an entry that is not a text is not joined. -/
  | entryNotText (given : Json)
  /-- The switch for unterminated quotes is not written. -/
  | unwritableSwitch (e : OversizedInteger)
  /-- The encoding holds surrogates that stand alone. -/
  | loneSurrogates (e : LoneSurrogates)

def ConfigError.raised : ConfigError → Raised
  | notAnObject given => ⟨.missingAttribute, s!"'{given.kind}' object has no attribute 'items'"⟩
  | notATable given => ⟨.wrongType, s!"'{given.kind}' object is not iterable"⟩
  | compoundEntry given => ⟨.wrongType, s!"unhashable type: '{given.kind}'"⟩
  | elementNotText given =>
    ⟨.missingAttribute, s!"'{given.kind}' object has no attribute 'lower'"⟩
  | entryNotText given =>
    ⟨.wrongType, s!"sequence item 0: expected str instance, {given.kind} found"⟩
  | unwritableSwitch e => e.raised
  | loneSurrogates e => e.raised

/-- The value is a list or an object. -/
def Json.isCompound : Json → Bool
  | .arr _ => true
  | .obj _ => true
  | _ => false

def Json.asText? : Json → Option LooseText
  | .str s => some s
  | _ => none

def Json.isText (v : Json) : Bool := v.asText?.isSome

/-- The table of a JSON value. -/
def Table.ofJson? : Json → Except ConfigError Table
  | .str s => .ok (.ofWords [s])
  | .obj members => .ok (.ofWords (members.map Prod.fst))
  | .arr items =>
    match items.find? Json.isCompound with
    | some v => .error (.compoundEntry v)
    | none => .ok (.ofWords (items.filterMap Json.asText?) (items.filter fun v => !v.isText))
  | v => .error (.notATable v)

/-- The table under a name, or the default. -/
def Table.member? (v : Json) (name : String) (fallback : List LooseText) :
    Except ConfigError Table :=
  match v.get? name with
  | none => .ok (.ofWords fallback)
  | some given => Table.ofJson? given

/-- The configuration of a JSON value. All tables are read before element names are lowered. -/
def Config.ofJson? (v : Json) : Except ConfigError Config :=
  match v with
  | .obj _ => do
    let keywords ← Table.member? v "keywords" defaultKeywords
    let punctuation ← Table.member? v "punctuation" defaultPunctuation
    let elementNames ← Table.member? v "element_names" defaultElementNames
    match elementNames.others with
    | given :: _ => .error (.elementNotText given)
    | [] =>
      .ok (.make keywords punctuation elementNames
        ((v.get? "unterminated_string_to_eol").getD (.bool true))
        ((v.get? "strict").getD (.bool false)))
  | v => .error (.notAnObject v)

end TagHighlight
