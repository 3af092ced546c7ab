import TagHighlight.Html.Render
import TagHighlight.Session.Basic

/-!
# Scripts of a session

A script is a list of steps, some of which hold scripts of their own: a body under another
configuration and a body in a new context. Every step is answered with its outcome
and with what can be seen of the session after it. A step that fails does not end the script, but a
step that cannot be answered ends the body it belongs to, and the step around it fails.
-/

namespace TagHighlight.Script

/-- How the key of a cached line is chosen: as it is, or by a configuration. -/
structure KeyChoice where
  key : Option String
  /-- The configuration whose key is meant; without one, the active configuration. -/
  config : Option Json

inductive Command
  | newCache (capacity : Int)
  | get (line : String) (key : KeyChoice)
  | put (line : String) (key : KeyChoice) (tokens : List Token)
  | clear
  | classify (text : String) (config : Option Json) (cached : Bool)
  | classifyLine (line : String) (config : Option Json)
  /-- Renders a text in the default theme. -/
  | highlight (text : String) (config : Option Json)
  /-- Makes a configuration the active one; without one, the default. -/
  | setConfig (config : Option Json)
  | resetConfig
  | getConfig

inductive Step
  | command (command : Command)
  /-- Runs a body under a configuration, and may leave it by an error. -/
  | withConfig (config : Option Json) (body : List Step) (leaveByError : Bool)
  | isolated (body : List Step)

mutual

inductive Outcome
  | done
  /-- The tokens found in the cache, if any. -/
  | found (tokens : Option (List Token))
  | tokens (tokens : List Token)
  | lines (lines : List (List Token))
  | html (text : String)
  | config (config : Config) (key : String)
  /-- The answers of a body. -/
  | body (answers : List Answer)
  /-- The answers of a body that was left by an error. -/
  | left (answers : List Answer)
  | failed (e : SessionError)

/-- The answer to a step: its outcome, and the cache, the key and the strictness of the active
configuration, and the log after it. -/
inductive Answer
  | mk (outcome : Outcome) (cache : Option LineCache) (activeKey : String) (strict : Json)
    (log : List Log.Record)

end

open SessionM

def keyFrom (choice : KeyChoice) : SessionM String :=
  match choice.key with
  | some key => pure key
  | none => do keyOf (← configOr getActive choice.config)

def perform : Command → SessionM Outcome
  | .newCache capacity =>
    match LineCache.ofCapacity? capacity with
    | some cache => do
      setCache cache
      return .done
    | none => throw (.capacity capacity)
  | .get line choice => do
    let cache ← getCache "get"
    let key ← keyFrom choice
    let (tokens, cache) := cache.get (line, key)
    setCache cache
    return .found tokens
  | .put line choice tokens => do
    let cache ← getCache "put"
    let key ← keyFrom choice
    let (cache, log) := LineCache.store cache (line, key) tokens
    setCache cache
    tell log
    return .done
  | .clear => do
    setCache (← getCache "clear").clear
    return .done
  | .classify text given cached => do
    let config ← configOr getActive given
    return .lines (← classifyText config cached text)
  | .classifyLine line given => do
    let config ← configOr getActive given
    return .tokens (← ofExcept .partition (classifyLine config line none))
  | .highlight text given => do
    let config ← configOr getActive given
    let lines ← classifyText config false text
    let renderer : Html.Renderer := {}
    tell (renderer.warnings lines)
    return .html (renderer.render lines)
  | .setConfig given => do
    setActive (← configOr (pure Config.default) given)
    return .done
  | .resetConfig => do
    setActive Config.default
    return .done
  | .getConfig => do
    let config ← getActive
    return .config config (← keyOf config)

/-- Runs the action of a step and answers it with the records not told yet; a failure is an answer
too. The answer itself fails when the active configuration has no key, and then the records are left
to the next answer. -/
def answer (action : SessionM Outcome) : SessionM Answer := fun s =>
  let (result, after) := action s
  let outcome := match result with
    | .ok outcome => outcome
    | .error e => .failed e
  match after.active.key with
  | .ok key =>
    (.ok (.mk outcome after.cache key after.active.strict after.log), { after with log := [] })
  | .error e => (.error (.config e), after)

mutual

def runStep : Step → SessionM Answer
  | .command command => answer (perform command)
  | .withConfig given body leaveByError =>
    answer do
      let config ← configOr (pure Config.default) given
      let answers ← withActive config (runSteps body)
      return if leaveByError then .left answers else .body answers
  | .isolated body => answer do return .body (← inNewContext (runSteps body))

def runSteps : List Step → SessionM (List Answer)
  | [] => pure []
  | s :: ss => do
    let first ← runStep s
    let others ← runSteps ss
    return first :: others

end

/-- The answers to a script, run in a new session. -/
def run (script : List Step) : Except SessionError (List Answer) := (runSteps script {}).1

end TagHighlight.Script
