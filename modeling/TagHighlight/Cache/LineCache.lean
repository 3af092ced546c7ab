import TagHighlight.Cache.Lru
import TagHighlight.Config.Encoding
import TagHighlight.Lexer.Run

/-!
# Caching lines

An editor classifies its text after every change, and most lines are as they were. The cache keeps
the tokens of lines under the text of the line and the key of the configuration. A line that is
found is taken as it is stored, without a check. A dropped line is told in the log.
-/

namespace TagHighlight

/-- The tokens of lines, by the line and the key of the configuration. -/
abbrev LineCache := Lru (String × String) (List Token)

namespace LineCache

def defaultCapacity : Int := 4096

/-- The empty cache of a capacity, which has to be positive. -/
def ofCapacity? (capacity : Int) : Option LineCache :=
  if h : 0 < capacity.toNat then some (Lru.empty capacity.toNat h) else none

/-- The message about a capacity that is not positive. -/
def capacityMessage (capacity : Int) : Except OversizedInteger String :=
  showing [capacity] s!"max_size must be positive, got {capacity}"

/-- The record of a dropped line: its first forty characters, quoted. -/
def evictionRecord (key : String × String) : Log.Record :=
  { level := .debug
    logger := Log.loggerName "cache"
    message := "Evicted cached line " ++ Text.quoted (String.ofList (key.1.toList.take 40)) }

def store (cache : LineCache) (key : String × String) (tokens : List Token) :
    LineCache × List Log.Record :=
  let (dropped, cache) := cache.put key tokens
  (cache, dropped.toList.map evictionRecord)

/-- What comes of classifying with a cache: the tokens, the cache after it, and the log. -/
structure Classified (α : Type) where
  result : Except PartitionError α
  cache : LineCache
  log : List Log.Record

/-- The tokens of a line, from the cache or else by classifying it and storing the tokens. -/
def classifyLine (cache : LineCache) (config : Config) (key : String) (line : String)
    (lineno : Nat) : Classified (List Token) :=
  match cache.get (line, key) with
  | (some tokens, cache) => ⟨.ok tokens, cache, []⟩
  | (none, cache) =>
    match TagHighlight.classifyLine config line (some lineno) with
    | .error e => ⟨.error e, cache, []⟩
    | .ok tokens =>
      let (cache, log) := store cache (line, key) tokens
      ⟨.ok tokens, cache, log⟩

/-- The tokens of lines that are numbered from `lineno` on. -/
def classifyLines (cache : LineCache) (config : Config) (key : String) (lineno : Nat) :
    List String → Classified (List (List Token))
  | [] => ⟨.ok [], cache, []⟩
  | line :: rest =>
    let first := classifyLine cache config key line lineno
    match first.result with
    | .error e => ⟨.error e, first.cache, first.log⟩
    | .ok tokens =>
      let others := classifyLines first.cache config key (lineno + 1) rest
      ⟨others.result.map (tokens :: ·), others.cache, first.log ++ others.log⟩

def classify (cache : LineCache) (config : Config) (key : String) (text : String) :
    Classified (List (List Token)) :=
  classifyLines cache config key 1 (Text.lines text)

end LineCache

end TagHighlight
