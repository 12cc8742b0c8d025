import FieldRules.Engine.Validator

namespace FieldRules

/-- Who hears the verdict of an asynchronous run: callbacks, of which one or both do something, or
a future. -/
inductive Listener where
  | callbacks (call : Nat) (onPass onFail : Bool)
  | future
deriving DecidableEq

/-- An asynchronous run of a validator. -/
structure StartedRun where
  validator : Nat
  plan : Plan
  /-- The steps whose rules are still to be asked. -/
  pending : List Step
  listener : Listener
  run : Run := {}
  /-- The verdicts that the listener was told. -/
  verdicts : List Bool := []

/-- A handle that a rule kept. -/
structure Handle where
  run : Nat
  slot : Nat
  held : Bool
deriving DecidableEq

inductive FutureState where
  /-- Waiting for the verdict of a run, and whether to negate it. -/
  | waiting (run : Nat) (negated : Bool)
  /-- Answered or dropped. -/
  | gone
deriving DecidableEq

/-- What happens in a session. Asynchronous runs go by their numbers. -/
inductive Event where
  /-- A run of a validator began and emptied its bag; a synchronous run has no number. -/
  | began (validator : Nat) (run : Option Nat)
  /-- A directive does not count, because the value is absent. -/
  | skipped (run : Nat) (field : String) (directive : Directive)
  /-- A synchronous rule answered for its slot. -/
  | judged (run slot : Nat) (accepted : Bool)
  /-- An asynchronous rule got the handle of its slot. -/
  | called (run slot : Nat) (rule field : String)
  /-- Something was done with a run: a slot added or completed, or the run closed to questions. -/
  | operated (run : Nat) (operation : Run.Operation)
  /-- A message went into the bag of a validator. -/
  | recorded (validator : Nat) (run : Option Nat) (failure : Failure) (message : String)
  | verdict (run : Nat) (passed : Bool)
  /-- A callback was told the verdict. -/
  | finished (call : Nat) (passed : Bool)
deriving DecidableEq

/-- One context with the validators that were made in it. Runs of a validator share its bag, which
every new run empties; a handle of an older run still reports to it. -/
structure Session where
  context : Context
  validators : List Validator := []
  runs : List StartedRun := []
  handles : List Handle := []
  futures : List FutureState := []
  /-- How many calls with callbacks there were. -/
  calls : Nat := 0

namespace Session

/-- The answer to an operation. -/
inductive Answer where
  | done
  | bool (b : Bool)
  | number (n : Nat)
  | pending
  | gone
  | refused (e : RuleError)
  /-- The operation names a validator that there is not. -/
  | missing
deriving DecidableEq

/-- A call opens a run, asks its rules one by one and closes it to questions. These parts come as
operations of their own where a rule does other things in the session while it is asked. -/
inductive Operation where
  | register (name : String) (rule : CustomRule) (implicit : Bool) (message : String)
  | unregister (name : String)
  | setLanguage (language : String)
  | addLanguage (language : String) (templates : List (String × String))
  | setConfig (config : Config)
  | reset
  | create (input : Json) (rules : RawRules) (messages : List (String × String))
  | setCustom (validator : Nat) (messages : List (String × String))
  | setNames (validator : Nat) (names : List (String × String))
  | setFormatter (validator : Nat) (formatter : String → String)
  | pinLanguage (validator : Nat) (language : String)
  | hasAsync (validator : Nat)
  | check (validator : Nat)
  /-- As `check`, with the answer negated. -/
  | fails (validator : Nat)
  /-- Starts a run that tells its verdict to callbacks. -/
  | checkAsync (validator : Nat) (onPass onFail : Bool)
  /-- Starts a run with a future for its verdict, negated or not, and polls it. -/
  | future (validator : Nat) (negated : Bool)
  /-- Opens what `checkAsync` starts. -/
  | openCall (validator : Nat) (onPass onFail : Bool)
  /-- Opens what `future` starts, and makes the future. -/
  | openFuture (validator : Nat) (negated : Bool)
  /-- Asks the next rule of an open run. -/
  | ask (run : Nat)
  /-- Closes a run whose rules were all asked. -/
  | close (run : Nat)
  | poll (future : Nat)
  | dropFuture (future : Nat)
  | complete (handle : Nat) (outcome : Outcome)
  | drop (handle : Nat)

/-- Changes a validator. -/
def modifyValidator (s : Session) (index : Nat) (f : Validator → Validator) : Session :=
  { s with validators := s.validators.modify index f }

def modifyWording (s : Session) (index : Nat) (f : Wording → Wording) : Session :=
  s.modifyValidator index fun v => { v with wording := f v.wording }

/-- Changes a run. -/
def modifyRun (s : Session) (index : Nat) (f : StartedRun → StartedRun) : Session :=
  { s with runs := s.runs.modify index f }

/-- What the listener of a run tells when the verdict comes. -/
def announce (listener : Listener) (passed : Bool) : List Event :=
  match listener with
  | .callbacks call onPass onFail =>
    if (if passed then onPass else onFail) then [.finished call passed] else []
  | .future => []

/-- Acts on what a run reports: the message of a failure goes into the bag of the validator, and
the verdict to the listener. -/
def hear (s : Session) (index : Nat) (started : StartedRun) : Run.Report → Session × List Event
  | .failed f =>
    match s.validators[started.validator]? with
    | some v =>
      let message := v.word s.context f
      (s.modifyValidator started.validator (·.addMessage f.field message),
        [.recorded started.validator (some index) f message])
    | none => (s, [])
  | .verdict passed =>
    (s.modifyRun index fun started => { started with verdicts := started.verdicts ++ [passed] },
      .verdict index passed :: announce started.listener passed)

def hearAll (s : Session) (index : Nat) (started : StartedRun) (told : List Run.Report) :
    Session × List Event :=
  inTurn (fun s report => s.hear index started report) s told

/-- Does something with a run and acts on its reports. -/
def operate (s : Session) (index : Nat) (operation : Run.Operation) : Session × List Event :=
  match s.runs[index]? with
  | some started =>
    let (run, reports) := started.run.step operation
    let s := s.modifyRun index fun started => { started with run }
    let (s, events) := s.hearAll index started reports
    (s, .operated index operation :: events)
  | none => (s, [])

def completeAll (s : Session) (index slot : Nat) (outcomes : List Outcome) :
    Session × List Event :=
  inTurn (fun s outcome => s.operate index (.complete slot outcome)) s outcomes

/-- Asks the rule of a step that counts, after its slot was added. A synchronous rule completes the
slot with its answer; an asynchronous one gets the handle. -/
def question (s : Session) (index slot : Nat) (v : Validator) (plan : Plan) (step : Step) :
    Session × List Event :=
  match step.predicate with
  | .custom (.async attend) =>
    let conduct := attend s.context.clock (plan.subject v.input step)
    let s := { s with
      context := s.context.tick
      handles := s.handles ++ List.replicate conduct.kept (⟨index, slot, true⟩ : Handle) }
    let (s, events) := s.completeAll index slot conduct.outcomes
    (s, .called index slot step.directive.name step.field :: events)
  | .custom (.sync judge) => judged s judge
  | .builtin rule => judged s rule.judge
where
  judged (s : Session) (judge : Judge) : Session × List Event :=
    let (accepted, context) := s.context.consult judge (plan.subject v.input step)
    let (s, events) := { s with context }.operate index (.complete slot (.ofBool accepted))
    (s, .judged index slot accepted :: events)

/-- Goes on to the next step of an open run. -/
def ask (s : Session) (index : Nat) : Session × List Event :=
  match s.runs[index]? with
  | some started =>
    match started.pending, s.validators[started.validator]? with
    | step :: rest, some v =>
      let s := s.modifyRun index fun started => { started with pending := rest }
      let (applies, context) := started.plan.applies v.input s.context step
      let s := { s with context }
      if applies then
        let slot := started.run.slots.length
        let (s, added) := s.operate index (.add (v.failureOf step))
        let (s, events) := s.question index slot v started.plan step
        (s, added ++ events)
      else (s, [.skipped index step.field step.directive])
    | _, _ => (s, [])
  | none => (s, [])

/-- Goes on a number of times. -/
def askAll (s : Session) (index count : Nat) : Session × List Event :=
  inTurn ask s (List.replicate count index)

/-- Closes an open run, if all its rules were asked. -/
def close (s : Session) (index : Nat) : Session × List Event :=
  match s.runs[index]? with
  | some started =>
    if started.pending.isEmpty && !started.run.armed then s.operate index .arm else (s, [])
  | none => (s, [])

/-- Asks the rules of an open run that are still to be asked, and closes it. -/
def schedule (s : Session) (index : Nat) : Session × List Event :=
  let count := match s.runs[index]? with
    | some started => started.pending.length
    | none => 0
  let (s, asked) := s.askAll index count
  let (s, closed) := s.close index
  (s, asked ++ closed)

/-- Opens a run of a validator; the new run is the last one. -/
def openRun (s : Session) (index : Nat) (v : Validator) (listener : Listener) :
    Except RuleError (Session × List Event) := do
  let plan ← v.plan s.context
  let cleared := s.modifyValidator index Validator.clear
  return ({ cleared with
      runs := s.runs ++ [{ validator := index, plan, pending := plan.steps, listener }] },
    [.began index (some s.runs.length)])

/-- A synchronous run, which leaves its bag to the validator. -/
def check (s : Session) (index : Nat) (v : Validator) :
    Session × Except RuleError Bool × List Event :=
  match v.check s.context with
  | .ok (passed, scene) =>
    ({ s with context := scene.context }.modifyValidator index fun v => { v with bag := scene.bag },
      .ok passed,
      .began index none :: scene.log.map fun (f, message) => .recorded index none f message)
  | .error e => (s, .error e, [])

/-- Whether some handle of a run is still held. -/
def isHeld (s : Session) (run : Nat) : Bool :=
  s.handles.any fun handle => handle.held && handle.run == run

/-- The answer of a future that waits for a run. -/
def futureAnswer (s : Session) (run : Nat) (negated : Bool) : Answer :=
  match s.runs[run]?.bind (·.verdicts.head?) with
  | some passed => .bool (passed != negated)
  | none => if s.isHeld run then .pending else .refused .abandoned

/-- Asks a future; once it has answered it is gone. -/
def poll (s : Session) (future : Nat) : Session × Answer :=
  match s.futures[future]? with
  | some (.waiting run negated) =>
    match s.futureAnswer run negated with
    | .pending => (s, .pending)
    | answer => ({ s with futures := s.futures.set future .gone }, answer)
  | _ => (s, .gone)

/-- Completes the slot of a held handle. -/
def complete (s : Session) (handle : Nat) (outcome : Outcome) : Session × List Event :=
  match s.handles[handle]? with
  | some ⟨run, slot, true⟩ => s.operate run (.complete slot outcome)
  | _ => (s, [])

def ofResult : Except RuleError Bool → Answer
  | .ok b => .bool b
  | .error e => .refused e

/-- Does something with a validator, if it is there. -/
def withValidator (s : Session) (index : Nat)
    (act : Validator → Session × Answer × List Event) : Session × Answer × List Event :=
  match s.validators[index]? with
  | some v => act v
  | none => (s, .missing, [])

/-- Opens a run with callbacks. The call is counted even if it is refused. -/
def openCall (s : Session) (index : Nat) (v : Validator) (onPass onFail : Bool) :
    Session × Answer × List Event :=
  let counted := { s with calls := s.calls + 1 }
  match counted.openRun index v (.callbacks s.calls onPass onFail) with
  | .ok (opened, events) => (opened, .number s.calls, events)
  | .error e => (counted, .refused e, [])

/-- Opens a run with a future. The future is counted even if the run is refused. -/
def openFuture (s : Session) (index : Nat) (v : Validator) (negated : Bool) :
    Session × Answer × List Event :=
  match s.openRun index v .future with
  | .ok (opened, events) =>
    ({ opened with futures := s.futures ++ [.waiting s.runs.length negated] }, .done, events)
  | .error e => ({ s with futures := s.futures ++ [.gone] }, .refused e, [])

/-- Opens a run and does what is left of it; one that was refused has nothing left. -/
def scheduled (s : Session) (opened : Session × Answer × List Event) :
    Session × Answer × List Event :=
  let (after, events) := opened.1.schedule s.runs.length
  (after, opened.2.1, opened.2.2 ++ events)

/-- Starts a run with a future and polls it. -/
def startFuture (s : Session) (index : Nat) (v : Validator) (negated : Bool) :
    Session × Answer × List Event :=
  match s.scheduled (s.openFuture index v negated) with
  | (after, .refused e, events) => (after, .refused e, events)
  | (after, _, events) =>
    let (polled, answer) := after.poll s.futures.length
    (polled, answer, events)

def step (s : Session) : Operation → Session × Answer × List Event
  | .register name rule implicit message =>
    ({ s with context := s.context.register name rule implicit message }, .done, [])
  | .unregister name =>
    ({ s with context := s.context.unregister name }, .bool (s.context.registry.contains name), [])
  | .setLanguage language => ({ s with context := s.context.setLanguage language }, .done, [])
  | .addLanguage language templates =>
    ({ s with context := s.context.addLanguage language templates }, .done, [])
  | .setConfig config => ({ s with context := s.context.setConfig config }, .done, [])
  | .reset => ({ s with context := s.context.reset }, .done, [])
  | .create input rules messages =>
    match Validator.create s.context input rules with
    | .ok v =>
      let v := { v with wording := v.wording.setCustom messages }
      ({ s with validators := s.validators ++ [v] }, .number s.validators.length, [])
    | .error e => (s, .refused e, [])
  | .setCustom index messages => (s.modifyWording index (·.setCustom messages), .done, [])
  | .setNames index names => (s.modifyWording index (·.setNames names), .done, [])
  | .setFormatter index formatter =>
    (s.modifyWording index fun w => { w with formatter := some formatter }, .done, [])
  | .pinLanguage index language =>
    (s.modifyWording index fun w => { w with language := some language }, .done, [])
  | .hasAsync index => s.withValidator index fun v => (s, ofResult (v.hasAsync s.context), [])
  | .check index => s.withValidator index fun v =>
    let (s, result, events) := s.check index v
    (s, ofResult result, events)
  | .fails index => s.withValidator index fun v =>
    let (s, result, events) := s.check index v
    (s, ofResult (result.map (!·)), events)
  | .checkAsync index onPass onFail => s.withValidator index fun v =>
    s.scheduled (s.openCall index v onPass onFail)
  | .future index negated => s.withValidator index fun v => s.startFuture index v negated
  | .openCall index onPass onFail => s.withValidator index fun v => s.openCall index v onPass onFail
  | .openFuture index negated => s.withValidator index fun v => s.openFuture index v negated
  | .ask run =>
    let (s, events) := s.ask run
    (s, .done, events)
  | .close run =>
    let (s, events) := s.close run
    (s, .done, events)
  | .poll future =>
    let (s, answer) := s.poll future
    (s, answer, [])
  | .dropFuture future =>
    let there := match s.futures[future]? with
      | some (.waiting _ _) => true
      | _ => false
    ({ s with futures := s.futures.set future .gone }, .bool there, [])
  | .complete handle outcome =>
    let (s, events) := s.complete handle outcome
    (s, .done, events)
  | .drop handle =>
    ({ s with handles := s.handles.modify handle fun h => { h with held := false } }, .done, [])

/-- The operations one after the other, with all that happens. -/
def steps (s : Session) (operations : List Operation) : Session × List Event :=
  inTurn (fun s operation => let (s, _, events) := s.step operation; (s, events)) s operations

end Session

end FieldRules
