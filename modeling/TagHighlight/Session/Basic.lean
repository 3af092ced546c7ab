import TagHighlight.Cache.LineCache

/-!
# Sessions

A session has an active configuration, which stands in wherever none is given, and possibly a cache.
An action of a session answers or fails, and in both cases it leaves a session; what it changed
before it failed stays changed. The active configuration is scoped: however a body ends that has a
configuration of its own, or a context of its own, the configuration that was active before it is
active again after it.

A context has one cell, which holds the active configuration once one has been put there; until
then the default one is active. Contexts are entered and left like brackets: only the cell of the
context that was entered last can be read and written.
-/

namespace TagHighlight

/-! ### Contexts -/

/-- The contexts that have been entered and not been left. -/
structure Contexts where
  /-- The cell of the context that was entered last. -/
  cell : Option Config := none
  /-- The cells of the contexts around it, the nearest one first. -/
  around : List (Option Config) := []

namespace Contexts

def active (contexts : Contexts) : Config := contexts.cell.getD Config.default

def put (contexts : Contexts) (config : Config) : Contexts :=
  { contexts with cell := some config }

/-- Enters a new context, whose cell is empty. -/
def enter (contexts : Contexts) : Contexts :=
  { cell := none, around := contexts.cell :: contexts.around }

/-- Leaves the context that was entered last. The outermost one is never left. -/
def leave (contexts : Contexts) : Contexts :=
  match contexts.around with
  | [] => contexts
  | cell :: around => { cell := cell, around := around }

/-- The context that is left again leaves the ones around it as they were, whatever its own cell
holds by then. -/
theorem leave_enter (contexts : Contexts) (cell : Option Config) :
    leave { contexts.enter with cell := cell } = contexts := rfl

end Contexts

/-! ### Sessions -/

/-- Why an action of a session fails. -/
inductive SessionError
  | config (e : ConfigError)
  | partition (e : PartitionError)
  /-- A cache of this capacity is asked for. -/
  | capacity (given : Int)
  /-- A cache is asked for something, and there is none. -/
  | noCache (wanted : String)

def SessionError.raised : SessionError → Raised
  | config e => e.raised
  | partition e => e.raised
  | capacity given => .of .wrongValue ((LineCache.capacityMessage given).map .ofString)
  | noCache wanted => ⟨.missingAttribute, s!"'NoneType' object has no attribute '{wanted}'"⟩

structure Session where
  /-- The cache, once there is one. -/
  cache : Option LineCache := none
  /-- The contexts that are entered. -/
  contexts : Contexts := {}
  /-- The records that no answer has told yet. -/
  log : List Log.Record := []

namespace Session

def active (s : Session) : Config := s.contexts.active

def activate (s : Session) (config : Config) : Session :=
  { s with contexts := s.contexts.put config }

/-- Runs a body under a configuration of its own. The configuration that was active is active again
afterwards, whatever the body made active and whatever it ends with. -/
def under {α : Type} (config : Config) (body : StateM Session α) : StateM Session α := fun s =>
  let (result, after) := body (s.activate config)
  (result, after.activate s.active)

/-- Runs a body in a new context, which is left again whatever the body ends with. -/
def inNewContext {α : Type} (body : StateM Session α) : StateM Session α := fun s =>
  let (result, after) := body { s with contexts := s.contexts.enter }
  (result, { after with contexts := after.contexts.leave })

end Session

/-- An action of a session. -/
abbrev SessionM (α : Type) := ExceptT SessionError (StateM Session) α

namespace SessionM

/-- Ends with an outcome that is already known. -/
def ofExcept {ε α : Type} (cause : ε → SessionError) : Except ε α → SessionM α
  | .ok a => pure a
  | .error e => throw (cause e)

def getActive : SessionM Config := do return (← get).active

def setActive (config : Config) : SessionM Unit := modify fun s => s.activate config

def withActive {α : Type} (config : Config) (body : SessionM α) : SessionM α :=
  Session.under config body

def inNewContext {α : Type} (body : SessionM α) : SessionM α := Session.inNewContext body

def tell (records : List Log.Record) : SessionM Unit :=
  modify fun s => { s with log := s.log ++ records }

def setCache (cache : LineCache) : SessionM Unit := modify fun s => { s with cache := some cache }

/-- The cache of the session, which is wanted for something. -/
def getCache (wanted : String) : SessionM LineCache := do
  match (← get).cache with
  | some cache => return cache
  | none => throw (.noCache wanted)

/-- The configuration of a JSON value, or the given one where there is none. -/
def configOr (fallback : SessionM Config) : Option Json → SessionM Config
  | none => fallback
  | some given => ofExcept .config (Config.ofJson? given)

def keyOf (config : Config) : SessionM String := ofExcept .config config.key

/-- The tokens of each line of a text, from the cache if there is one and it is wanted. -/
def classifyText (config : Config) (cached : Bool) (text : String) :
    SessionM (List (List Token)) := do
  match cached, (← get).cache with
  | true, some cache =>
    let key ← keyOf config
    let outcome := LineCache.classify cache config key text
    setCache outcome.cache
    tell outcome.log
    ofExcept .partition outcome.result
  | _, _ => ofExcept .partition (classify config text)

end SessionM

end TagHighlight
