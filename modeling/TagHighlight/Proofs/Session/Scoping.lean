import TagHighlight.Session.Program

/-!
# The active configuration is scoped by the text of a program

`Program.eval` reads a program without any state: the active configuration is an argument, and the
one that is active afterwards is part of the result. A run in a session, where the active
configuration is a cell that is written into, sees and ends with what the evaluation says.

The induction is on the program (`Program.run_eq`). What carries it through new contexts is that a
run writes into no cell but its own: the contexts that are left behind when a new one is entered are
found unchanged when it is left, however deep the program went and wherever it failed.
-/

namespace TagHighlight

/-- The session with another content of the cell of its context. -/
def Session.withCell (s : Session) (cell : Option Config) : Session :=
  { s with contexts := { s.contexts with cell := cell } }

/-- The answer to a query under a configuration. -/
def Query.answer (config : Config) : Query → Except SessionError Sight
  | .config => .ok (.config config)
  | .classify text =>
    ((TagHighlight.classify config text).map fun lines =>
      .outcome (.lines lines)).mapError .partition
  | .classifyLine line =>
    ((TagHighlight.classifyLine config line none).map fun tokens =>
      .outcome (.tokens tokens)).mapError .partition

theorem Query.ask_apply (query : Query) (s : Session) :
    query.ask s = (query.answer s.active, s) := by
  cases query with
  | config => rfl
  | classify text =>
    change ((SessionM.ofExcept .partition (TagHighlight.classify s.active text) >>= fun lines =>
      pure (Script.Outcome.lines lines)) >>= fun outcome => pure (Sight.outcome outcome)) s = _
    rw [answer]
    cases TagHighlight.classify s.active text with
    | ok lines => rfl
    | error e => rfl
  | classifyLine line =>
    change ((SessionM.ofExcept .partition (TagHighlight.classifyLine s.active line none) >>=
      fun tokens => pure (Script.Outcome.tokens tokens)) >>=
        fun outcome => pure (Sight.outcome outcome)) s = _
    rw [answer]
    cases TagHighlight.classifyLine s.active line none with
    | ok tokens => rfl
    | error e => rfl

theorem Session.bind_of_eq {α β : Type} {x : StateM Session α} {f : α → StateM Session β}
    {s after : Session} {a : α} (h : x s = (a, after)) : (x >>= f) s = f a after := by
  change (x s >>= fun r => f r.1 r.2 : Id _) = _
  rw [h]
  rfl

namespace Program

/-- What a program sees and how it ends where a configuration is active, and the configuration that
is active after it. -/
def eval : Program → Config → Execution × Config
  | done, config => ({}, config)
  | set own, _ => ({}, own)
  | reset, _ => ({}, Config.default)
  | ask query, config => (.ofAnswer (query.answer config), config)
  | fail e, config => ({ ending := .error e }, config)
  | andThen first second, config =>
    let (before, between) := first.eval config
    match before.ending with
    | .ok () =>
      let (after, last) := second.eval between
      (before.followedBy after, last)
    | .error _ => (before, between)
  | recover body handler, config =>
    let (before, between) := body.eval config
    match before.ending with
    | .ok () => (before, between)
    | .error _ =>
      let (after, last) := handler.eval between
      (before.followedBy after, last)
  | under own body, config => ((body.eval own).1, config)
  | inNewContext body, config => ((body.eval Config.default).1, config)

/-! ### Runs of composed programs -/

theorem run_ask (query : Query) (s : Session) :
    (ask query).run s = (.ofAnswer (query.answer s.active), s) := by
  change (Execution.ofAnswer (query.ask s).1, (query.ask s).2) = _
  rw [query.ask_apply]

theorem run_andThen (first second : Program) {s between : Session} {before : Execution}
    (h : first.run s = (before, between)) :
    (andThen first second).run s =
      match before.ending with
      | .ok () => (before.followedBy (second.run between).1, (second.run between).2)
      | .error _ => (before, between) := by
  obtain ⟨seen, ending⟩ := before
  rw [run, Session.bind_of_eq h]
  cases ending with
  | ok _ => rfl
  | error e => rfl

theorem run_recover (body handler : Program) {s between : Session} {before : Execution}
    (h : body.run s = (before, between)) :
    (recover body handler).run s =
      match before.ending with
      | .ok () => (before, between)
      | .error _ => (before.followedBy (handler.run between).1, (handler.run between).2) := by
  obtain ⟨seen, ending⟩ := before
  rw [run, Session.bind_of_eq h]
  cases ending with
  | ok _ => rfl
  | error e => rfl

theorem run_under (config : Config) (body : Program) {s : Session} {during : Execution}
    {cell : Option Config} (h : body.run (s.activate config) = (during, s.withCell cell)) :
    (under config body).run s = (during, s.withCell (some s.active)) := by
  rw [run, Session.under, h]
  rfl

theorem run_inNewContext (body : Program) {s : Session} {during : Execution} {cell : Option Config}
    (h : body.run { s with contexts := s.contexts.enter } =
      (during, { s with contexts := { s.contexts.enter with cell := cell } })) :
    (inNewContext body).run s = (during, s) := by
  rw [run, Session.inNewContext, h]
  exact congrArg (fun contexts => (during, { s with contexts := contexts }))
    (s.contexts.leave_enter cell)

/-- A run writes into the cell of its context only; it sees what the evaluation says, and leaves the
configuration that it says. -/
theorem run_eq (p : Program) (s : Session) :
    ∃ cell : Option Config, p.run s = ((p.eval s.active).1, s.withCell cell) ∧
      (s.withCell cell).active = (p.eval s.active).2 := by
  induction p generalizing s with
  | done => exact ⟨s.contexts.cell, rfl, rfl⟩
  | set config => exact ⟨some config, rfl, rfl⟩
  | reset => exact ⟨some Config.default, rfl, rfl⟩
  | ask query => exact ⟨s.contexts.cell, run_ask query s, rfl⟩
  | fail e => exact ⟨s.contexts.cell, rfl, rfl⟩
  | andThen first second ihfirst ihsecond =>
    obtain ⟨cell, hfirst, hcell⟩ := ihfirst s
    obtain ⟨last, hsecond, hlast⟩ := ihsecond (s.withCell cell)
    rw [hcell] at hsecond hlast
    rcases heval : first.eval s.active with ⟨⟨seen, ending⟩, between⟩
    rw [heval] at hfirst hcell hsecond hlast
    rw [run_andThen first second hfirst, eval, heval]
    cases ending with
    | ok _ => exact ⟨last, by rw [hsecond]; rfl, hlast⟩
    | error e => exact ⟨cell, rfl, hcell⟩
  | recover body handler ihbody ihhandler =>
    obtain ⟨cell, hbody, hcell⟩ := ihbody s
    obtain ⟨last, hhandler, hlast⟩ := ihhandler (s.withCell cell)
    rw [hcell] at hhandler hlast
    rcases heval : body.eval s.active with ⟨⟨seen, ending⟩, between⟩
    rw [heval] at hbody hcell hhandler hlast
    rw [run_recover body handler hbody, eval, heval]
    cases ending with
    | ok _ => exact ⟨cell, rfl, hcell⟩
    | error e => exact ⟨last, by rw [hhandler]; rfl, hlast⟩
  | under config body ih =>
    obtain ⟨cell, hbody, -⟩ := ih (s.activate config)
    exact ⟨some s.active, run_under config body hbody, rfl⟩
  | inNewContext body ih =>
    obtain ⟨cell, hbody, -⟩ := ih { s with contexts := s.contexts.enter }
    exact ⟨s.contexts.cell, run_inNewContext body hbody, rfl⟩

end Program

/-- **The active configuration is lexically scoped.** Every program, with blocks and new contexts
nested in any way and with errors that leave any number of them, sees in every session what its
evaluation says under the active configuration, ends as it says, and leaves the configuration active
that it says. No other cell than that of its own context is written, and neither is the cache or the
log. -/
theorem active_configuration_is_lexical (p : Program) (s : Session) :
    (p.run s).1 = (p.eval s.active).1 ∧ (p.run s).2.active = (p.eval s.active).2 ∧
      ∃ cell, (p.run s).2 = s.withCell cell := by
  obtain ⟨cell, hrun, hactive⟩ := p.run_eq s
  rw [hrun]
  exact ⟨rfl, hactive, cell, rfl⟩

/-- An error that leaves two blocks at once leaves nothing of what was set in them. -/
example (first second inner config : Config) (e : SessionError) :
    Program.eval (.recover (.under first (.under second (.andThen (.set inner) (.fail e))))
      (.ask .config)) config = ({ seen := [.config config] }, config) := rfl

end TagHighlight
