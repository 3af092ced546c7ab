import TagHighlight.Session.Script

/-!
# Programs over the active configuration

A program makes configurations active, asks for what depends on the active one, and puts parts of
itself into blocks: under a configuration of their own, or in a new context. An error ends all the
blocks around it up to the first one that recovers from it. What a program has seen before it fails
it has seen all the same.
-/

namespace TagHighlight

open SessionM

/-- What a program asks for without giving a configuration. -/
inductive Query
  | config
  | classify (text : String)
  | classifyLine (line : String)

/-- What a program sees. -/
inductive Sight
  | config (config : Config)
  | outcome (outcome : Script.Outcome)

def Query.ask : Query → SessionM Sight
  | config => do return .config (← getActive)
  | classify text => do return .outcome (← Script.perform (.classify text none false))
  | classifyLine line => do return .outcome (← Script.perform (.classifyLine line none))

/-- What can be told of a run: what was seen, the first sight first, and how the run ended. -/
structure Execution where
  seen : List Sight := []
  ending : Except SessionError Unit := .ok ()

namespace Execution

/-- The execution that only sees the answer to a query. -/
def ofAnswer : Except SessionError Sight → Execution
  | .ok sight => { seen := [sight] }
  | .error e => { ending := .error e }

def followedBy (first second : Execution) : Execution :=
  { seen := first.seen ++ second.seen, ending := second.ending }

end Execution

inductive Program
  | done
  | set (config : Config)
  /-- Makes the default configuration the active one. -/
  | reset
  | ask (query : Query)
  | fail (e : SessionError)
  /-- Runs one program after another one, unless the first one fails. -/
  | andThen (first second : Program)
  /-- Runs a program, and another one after it if it fails. -/
  | recover (body handler : Program)
  | under (config : Config) (body : Program)
  | inNewContext (body : Program)

def Program.run : Program → StateM Session Execution
  | done => return {}
  | set config => do return { ending := ← (setActive config).run }
  | reset => do return { ending := (← (Script.perform .resetConfig).run).map fun _ => () }
  | ask query => do return .ofAnswer (← query.ask.run)
  | fail e => return { ending := .error e }
  | andThen first second => do
    let before ← first.run
    match before.ending with
    | .ok () => return before.followedBy (← second.run)
    | .error _ => return before
  | recover body handler => do
    let before ← body.run
    match before.ending with
    | .ok () => return before
    | .error _ => return before.followedBy (← handler.run)
  | under config body => Session.under config body.run
  | inNewContext body => Session.inNewContext body.run

end TagHighlight
