import FieldRules.Proofs.Session.Isolation
import FieldRules.Proofs.Session.Recent
import FieldRules.Proofs.Session.Source

namespace FieldRules.Session

/-- A run that begins has a new number. -/
theorem Move.fresh {s s' : Session} {events : List Event} (h : Move s s' events) :
    s.runs.length ≤ s'.runs.length ∧
      ∀ i run, .began i (some run) ∈ events → run = s.runs.length := by
  have hstrokes {s' : Session} {events : List Event} (h : Strokes s s' events) :
      s.runs.length ≤ s'.runs.length ∧
        ∀ i run, .began i (some run) ∈ events → run = s.runs.length := by
    rw [← length_hosts s', h.hosts, length_hosts]
    exact ⟨le_rfl, fun i run hm => absurd hm (h.began i (some run))⟩
  cases h with
  | aside _ _ runs => exact ⟨by rw [runs], by simp⟩
  | reworded | created => exact ⟨le_rfl, by simp⟩
  | checked index v _ =>
    unfold Session.check
    split
    · exact ⟨le_rfl, by simp⟩
    · exact ⟨le_rfl, by simp⟩
  | opened index v listener _ _ _ accepted =>
    obtain ⟨plan, -, rfl, hruns, -⟩ := openRun_ok accepted
    exact ⟨by simp [hruns], by simp⟩
  | asked run => exact hstrokes (ask_strokes s run)
  | closed run => exact hstrokes (close_strokes s run)
  | completed run slot outcome => exact hstrokes (Stroke.operated run _).strokes

theorem Moves.fresh {s s' : Session} {events : List Event} (h : Moves s s' events) :
    s.runs.length ≤ s'.runs.length ∧
      ∀ i run, .began i (some run) ∈ events → s.runs.length ≤ run := by
  induction h with
  | none => exact ⟨le_rfl, by simp⟩
  | snoc _ last ih =>
    obtain ⟨hlength, hbegan⟩ := ih
    refine ⟨hlength.trans last.fresh.1, ?_⟩
    intro i run hm
    rcases List.mem_append.1 hm with hm | hm
    · exact hbegan i run hm
    · rw [last.fresh.2 i run hm]
      exact hlength

/-- Operations in a session, and operations after them that are looked at. -/
structure Excerpt where
  context : Context
  validators : List Validator
  before : List Operation
  during : List Operation

namespace Excerpt

variable (x : Excerpt)

/-- The session when the operations begin that are looked at. -/
def start : Session := (steps { context := x.context, validators := x.validators } x.before).1

/-- What happened before. -/
def earlier : List Event := (steps { context := x.context, validators := x.validators } x.before).2

def ended : Session := (x.start.steps x.during).1

def events : List Event := (x.start.steps x.during).2

theorem steps_eq :
    steps { context := x.context, validators := x.validators } (x.before ++ x.during) =
      (x.ended, x.earlier ++ x.events) :=
  steps_append _ _ _

theorem start_ledger : Ledger x.start x.earlier := steps_ledger x.context x.validators x.before

theorem ledger : Ledger x.ended (x.earlier ++ x.events) := by
  have h := steps_ledger x.context x.validators (x.before ++ x.during)
  rwa [steps_eq] at h

theorem sourced : Sourced x.ended (x.earlier ++ x.events) := by
  have h := steps_sourced x.context x.validators (x.before ++ x.during)
  rwa [steps_eq] at h

theorem moves : Moves x.start x.ended x.events := steps_moves x.start x.during

end Excerpt

/-- An asynchronous run that nothing disturbs, with its verdict. -/
structure LoneRun extends Excerpt where
  index : Nat
  validator : Validator
  run : Nat
  /-- What happens after the run began. -/
  since : List Event
  /-- What happens until the verdict. -/
  past : List Event
  passed : Bool
  there : toExcerpt.start.validators[index]? = some validator
  began : toExcerpt.events = .began index (some run) :: since
  /-- No other run of the validator begins. -/
  alone : ∀ other, .began index other ∉ since
  /-- A slot that is completed is not one of another run of the validator. -/
  undisturbed : ∀ other slot outcome, .operated other (.complete slot outcome) ∈ since →
    toExcerpt.ended.hosts[other]? = some index → other = run
  /-- What the messages of the validator are made of stays, also in the middle of calls. -/
  steady : ∀ first, first <+: toExcerpt.start.inParts during →
    (toExcerpt.start.steps first).1.voice index = toExcerpt.start.voice index
  verdict : past ++ [.verdict run passed] <+: toExcerpt.events

namespace LoneRun

variable (r : LoneRun)

/-- The bag of the validator at the verdict. -/
def bag : MessageBag := r.past.foldl (Event.onBag r.index) (r.start.bagOf r.index)

/-- The message for a failure of the run. -/
def message (f : Failure) : String := r.validator.word r.start.context f

theorem nothing_earlier : operations r.run r.earlier = [] ∧ reports r.run r.earlier = [] := by
  have hge := r.moves.fresh.2 r.index r.run (by rw [r.began]; exact List.mem_cons_self)
  rw [← length_outlines] at hge
  have hops := (r.start_ledger.faithful.orderly.unopened r.run hge).1
  have hsteps := r.start_ledger.faithful.alone.steps r.run
  rw [hops] at hsteps
  exact ⟨hops, (Prod.mk.inj hsteps).2.symm⟩

theorem operations_earlier (events : List Event) :
    operations r.run (r.earlier ++ events) = operations r.run events := by
  rw [operations_append, r.nothing_earlier.1, List.nil_append]

theorem prefix_all : (r.earlier ++ r.past) ++ [.verdict r.run r.passed] <+:
    r.earlier ++ r.events := by
  rw [List.append_assoc]
  exact List.prefix_append_right_inj _ |>.2 r.verdict

theorem due : Due r.run r.passed (r.earlier ++ r.past) :=
  r.ledger.faithful.alone.prompt _ _ r.prefix_all r.run r.passed rfl

theorem settled : Run.Settled (operations r.run r.past) := by
  have h := r.due.settled
  rwa [operations_earlier] at h

theorem passed_iff : r.passed = true ↔ Run.failedSlots (operations r.run r.past) = [] := by
  rw [← Run.unfailed_iff_failedSlots, ← r.operations_earlier]
  exact r.due.2

/-- What the run is after all events. -/
theorem steps_events : Run.steps {} (operations r.run r.events) =
    (r.ended.runOf r.run, reports r.run r.events) := by
  have h := r.ledger.faithful.alone.steps r.run
  rwa [operations_earlier, reports_append, r.nothing_earlier.2, List.nil_append] at h

theorem slotCount_past : slotCount r.run r.past = slotCount r.run r.events := by
  have hprefix := (List.prefix_append (r.earlier ++ r.past) _).trans r.prefix_all
  have harmed : .arm ∈ operations r.run (r.earlier ++ r.past) := r.due.settled.1
  have h := r.ledger.faithful.slotCount_eq hprefix harmed
  rwa [slotCount, slotCount, operations_earlier, operations_earlier] at h

/-- Nothing that counts for a slot comes after the verdict. -/
theorem firstCompletion_events (slot : Nat) :
    Run.firstCompletion (operations r.run r.events) slot =
      Run.firstCompletion (operations r.run r.past) slot := by
  obtain ⟨rest, hsplit⟩ := r.verdict
  have hops : operations r.run r.events =
      operations r.run r.past ++ operations r.run ([.verdict r.run r.passed] ++ rest) := by
    rw [← hsplit, List.append_assoc, operations_append]
  cases hf : Run.firstCompletion (operations r.run r.events) slot with
  | none =>
    cases hp : Run.firstCompletion (operations r.run r.past) slot with
    | none => rfl
    | some outcome =>
      rw [hops, Run.firstCompletion_append hp] at hf
      simp at hf
  | some outcome =>
    have hlt := Run.firstCompletion_lt hf
    have hcount : slot < (Run.completions (operations r.run r.past)).length := by
      have heq := r.slotCount_past
      rw [slotCount, slotCount] at heq
      omega
    obtain ⟨first, hp⟩ := Run.settled_firstCompletion r.settled hcount
    rw [hops, Run.firstCompletion_append hp] at hf
    rw [hp, hf]

theorem exists_rest : ∃ rest, r.events = r.past ++ .verdict r.run r.passed :: rest ∧
    operations r.run r.events = operations r.run r.past ++ operations r.run rest ∧
    reports r.run r.events =
      reports r.run r.past ++ .verdict r.passed :: reports r.run rest := by
  obtain ⟨rest, hsplit⟩ := r.verdict
  rw [List.append_assoc, List.singleton_append] at hsplit
  refine ⟨rest, hsplit.symm, ?_, ?_⟩
  · rw [← hsplit, operations_append, operations_cons]
    rfl
  · rw [← hsplit, reports_append]
    simp [reports, Event.report?]

/-- There is no verdict before the verdict. -/
theorem verdict_not_mem_past (passed : Bool) : .verdict passed ∉ reports r.run r.past := by
  obtain ⟨rest, -, -, hreports⟩ := r.exists_rest
  have hlength := r.ledger.faithful.length_verdicts r.run
  rw [verdicts_eq, reports_append, r.nothing_earlier.2, List.nil_append, hreports] at hlength
  intro hm
  obtain ⟨before, after, hsplit⟩ := List.append_of_mem hm
  simp [hsplit, Run.verdicts, Run.Report.verdict?] at hlength
  omega

/-- All failures of the run are told before the verdict. -/
theorem failures_past :
    Run.failuresTold (reports r.run r.past) = Run.failures (operations r.run r.past) := by
  obtain ⟨rest, -, hopsRest, hreports⟩ := r.exists_rest
  obtain ⟨⟨ops, op, hops, hfirst⟩, -⟩ := r.due
  rw [operations_earlier] at hops
  obtain ⟨told, passed, htold, hquiet⟩ := Run.steps_of_firstSettled hfirst
  have hall := congrArg Prod.snd r.steps_events
  rw [hopsRest, hops, Run.steps_append, htold, hreports] at hall
  -- both sides are cut at the first verdict
  have hcut := congrArg (List.takeWhile fun report => report.verdict?.isNone) hall
  have htake (reports : List Run.Report) (h : ∀ passed, .verdict passed ∉ reports)
      (passed : Bool) (more : List Run.Report) :
      (reports ++ .verdict passed :: more).takeWhile (fun report => report.verdict?.isNone) =
        reports := by
    rw [List.takeWhile_append_of_pos]
    · simp [Run.Report.verdict?]
    · intro report hm
      cases report with
      | failed f => rfl
      | verdict given => exact absurd hm (h given)
  simp only [List.append_assoc, List.singleton_append] at hcut
  rw [htake told hquiet, htake _ r.verdict_not_mem_past] at hcut
  rw [← hcut, hops, ← Run.failuresTold_steps, htold, Run.failuresTold_append]
  exact (List.append_nil _).symm

/-- The run tells no failure after its verdict. -/
theorem no_failure_later {rest : List Event}
    (hrest : r.events = r.past ++ .verdict r.run r.passed :: rest) :
    Run.failuresTold (reports r.run rest) = [] := by
  have hall : Run.failuresTold (reports r.run r.events) =
      Run.failures (operations r.run r.events) := by
    rw [← Run.failuresTold_steps, r.steps_events]
  have hlength : (Run.failures (operations r.run r.events)).length =
      (Run.failures (operations r.run r.past)).length := by
    rw [Run.length_failures, Run.length_failures]
    exact (Run.failedSlots_perm r.firstCompletion_events).length_eq
  rw [← hall, ← r.failures_past, hrest, reports_append, Run.failuresTold_append,
    List.length_append] at hlength
  have hnone := List.length_eq_zero_iff.1 (Nat.add_eq_left.1 hlength)
  simpa [reports, Event.report?, Run.failuresTold, Run.Report.failure?] using hnone

/-- What is recorded for the validator is of the run, and worded as at first. -/
theorem recorded_since {owner : Option Nat} {f : Failure} {message : String}
    (h : .recorded r.index owner f message ∈ r.since) :
    owner = some r.run ∧ message = r.message f := by
  have hledger := r.ledger
  rw [r.began] at hledger
  constructor
  · refine (hledger.all_recent_iff r.alone).2 ?_ (owner, f, message) (mem_recordedIn.2 h)
    intro hstale
    obtain ⟨older, hne, hbegan, slot, outcome, hnone, hsome, -⟩ := hstale
    rw [operations_append] at hsome
    have hcomplete := mem_operations.1 (Run.exists_complete hnone hsome)
    have hhost := (hledger.began_iff r.index older).1 hbegan
    have hm := (List.mem_cons.1 hcomplete).resolve_left (by simp)
    exact hne (congrArg some (r.undisturbed older slot outcome hm hhost))
  · have hm : .recorded r.index owner f message ∈ (r.start.steps (r.start.inParts r.during)).2 := by
      rw [steps_inParts]
      show _ ∈ r.events
      rw [r.began]
      exact List.mem_cons_of_mem _ h
    have hcheck : .began r.index none ∉ (r.start.steps (r.start.inParts r.during)).2 := by
      rw [steps_inParts]
      show _ ∉ r.events
      rw [r.began, List.mem_cons, not_or]
      exact ⟨by simp, r.alone none⟩
    have hphrase := recorded_steps (fun _ hpart => isCall_of_mem_inParts hpart) r.steady hcheck hm
    rw [phrase_eq r.there] at hphrase
    exact (Option.some.inj hphrase).symm

theorem host : r.ended.hosts[r.run]? = some r.index := by
  rw [← r.ledger.began_iff, r.began]
  simp

/-- The messages that are recorded for the validator are those for the failures that the run tells. -/
theorem recordedIn_eq {events : List Event} (h : ∀ e ∈ events, e ∈ r.since) :
    (recordedIn r.index events).map (·.2) =
      (Run.failuresTold (reports r.run events)).map fun f => (f, r.message f) := by
  unfold recordedIn Run.failuresTold reports
  rw [List.map_filterMap, List.filterMap_filterMap, List.map_filterMap]
  apply List.filterMap_congr
  intro e he
  cases e with
  | recorded i owner f message =>
    by_cases hi : i = r.index
    · subst hi
      obtain ⟨rfl, rfl⟩ := r.recorded_since (h _ he)
      simp [Event.report?, Run.Report.failure?]
    · have howner : owner ≠ some r.run := by
        intro howner
        subst howner
        have hm : .recorded i (some r.run) f message ∈ r.earlier ++ r.events := by
          rw [r.began]
          exact List.mem_append_right _ (List.mem_cons_of_mem _ (h _ he))
        have hhost := r.ledger.hosted i r.run f message hm
        rw [r.host] at hhost
        exact hi (Option.some.inj hhost).symm
      cases owner with
      | none => simp [hi, Event.report?]
      | some other =>
        have hne : other ≠ r.run := fun he => howner (congrArg some he)
        simp [hi, hne, Event.report?]
  | verdict other passed =>
    by_cases ho : other = r.run <;> simp [Event.report?, Run.Report.failure?, ho]
  | _ => simp [Event.report?]

/-- The messages for the failures of the run, with their fields, in the order of the failures. -/
def messages : List (String × String) :=
  (Run.failures (operations r.run r.past)).map fun f => (f.field, r.message f)

theorem exists_past : ∃ middle rest, r.past = .began r.index (some r.run) :: middle ∧
    r.since = middle ++ .verdict r.run r.passed :: rest ∧
    r.events = r.past ++ .verdict r.run r.passed :: rest := by
  obtain ⟨rest, hsplit, -, -⟩ := r.exists_rest
  have hbegan := r.began
  rw [hsplit] at hbegan
  cases hpast : r.past with
  | nil => simp [hpast] at hbegan
  | cons first middle =>
    rw [hpast, List.cons_append] at hbegan
    obtain ⟨rfl, hsince⟩ := List.cons.inj hbegan
    exact ⟨middle, rest, rfl, hsince.symm, by rw [hsplit, hpast]⟩

/-- At the verdict the bag has the messages of the failures, and nothing else. -/
theorem bag_eq : r.bag = MessageBag.ofPairs r.messages := by
  obtain ⟨middle, rest, hpast, hsince, -⟩ := r.exists_past
  have hmiddle : ∀ e ∈ middle, e ∈ r.since := fun e he => by simp [hsince, he]
  have hfailures := r.failures_past
  have hreports : reports r.run r.past = reports r.run middle := by
    rw [hpast]
    rfl
  rw [hreports] at hfailures
  have hempty : Event.onBag r.index (r.start.bagOf r.index) (.began r.index (some r.run)) =
      MessageBag.empty := if_pos rfl
  rw [bag, hpast, List.foldl_cons, foldl_onBag fun other hm => r.alone other (hmiddle _ hm),
    r.recordedIn_eq hmiddle, hfailures, hempty]
  show MessageBag.ofLog _ = _
  rw [MessageBag.ofLog_eq_ofPairs, List.map_map]
  rfl

/-- After the verdict the bag stays. -/
theorem bagOf_ended : r.ended.bagOf r.index = r.bag := by
  obtain ⟨middle, rest, -, hsince, hevents⟩ := r.exists_past
  have hrest : ∀ e ∈ rest, e ∈ r.since := fun e he => by simp [hsince, he]
  have hfollows : r.ended.bagOf r.index = r.events.foldl (Event.onBag r.index)
      (r.start.bagOf r.index) := steps_bag r.start r.during r.index
  rw [hfollows, hevents, List.foldl_append, List.foldl_cons,
    foldl_onBag fun other hm => r.alone other (hrest _ hm), r.recordedIn_eq hrest,
    r.no_failure_later hevents]
  rfl

/-- The validator is there in the end, with its input and its rules. -/
theorem exists_validator_ended : ∃ v, r.ended.validators[r.index]? = some v ∧
    v.input = r.validator.input ∧ v.rules = r.validator.rules :=
  r.moves.keeps r.index r.validator r.there

/-- All directives of the validator were considered before the verdict, each once and in order. -/
theorem considered_past : considered r.run r.past = r.validator.rules.directives := by
  have horderly := r.ledger.faithful.orderly
  obtain ⟨v, hv, -, hrules⟩ := r.exists_validator_ended
  have hspec : r.ended.specs[r.index]? = some r.validator.rules := by
    rw [specs, List.getElem?_map, hv, ← hrules]
    rfl
  have hbegan : .began r.index (some r.run) ∈ r.earlier ++ r.events := by simp [r.began]
  obtain ⟨pending, ho⟩ := (horderly.began r.run r.index).1 hbegan
  obtain ⟨rules, hs, hall⟩ := horderly.considered r.run r.index pending ho
  obtain rfl : r.validator.rules = rules := by simpa [hspec] using hs
  have hnone : considered r.run r.earlier = [] := by
    refine (r.start_ledger.faithful.orderly.unopened r.run ?_).2
    rw [length_outlines]
    exact r.moves.fresh.2 r.index r.run (by rw [r.began]; exact List.mem_cons_self)
  -- the run was closed with everything considered, and there is no more than everything
  obtain ⟨before, after, hclosed⟩ := List.append_of_mem (mem_operations.1 r.due.settled.1)
  have hprefix : before ++ [.operated r.run .arm] <+: r.earlier ++ r.events :=
    List.IsPrefix.trans ⟨after ++ [.verdict r.run r.passed], by simp [hclosed]⟩ r.prefix_all
  obtain ⟨-, i, rules, hb, hs', hbefore⟩ := horderly.scheduled before _ hprefix r.run rfl
  have hsubset := (List.prefix_append before [.operated r.run .arm]).trans hprefix
  have hhost := (r.ledger.began_iff i r.run).1 (hsubset.subset hb)
  obtain rfl : r.index = i := by simpa [r.host] using hhost
  obtain rfl : r.validator.rules = rules := by simpa [hspec] using hs'
  have hpast : considered r.run r.past =
      r.validator.rules.directives ++ considered r.run (.operated r.run .arm :: after) := by
    have heq := congrArg (considered r.run) hclosed
    rwa [considered_append, hnone, List.nil_append, considered_append, hbefore] at heq
  obtain ⟨rest, hsplit, -, -⟩ := r.exists_rest
  rw [hsplit, considered_append, hnone, List.nil_append, considered_append, hpast] at hall
  have hlength := congrArg List.length hall
  simp only [List.length_append] at hlength
  have hmore : considered r.run (.operated r.run .arm :: after) = [] :=
    List.length_eq_zero_iff.1 (by omega)
  rw [hpast, hmore, List.append_nil]

/-- A slot is added with what the validator says of its directive. -/
theorem failureFor_of_added {f : Failure} (h : f ∈ Run.added (operations r.run r.past)) :
    f = r.validator.failureFor (f.field, f.directive) := by
  have hadd : .add f ∈ operations r.run r.past := by
    obtain ⟨operation, hm, heq⟩ := List.mem_filterMap.1 h
    cases operation with
    | add other =>
      obtain rfl := Option.some.inj heq
      exact hm
    | arm | complete => simp at heq
  obtain ⟨rest, hsplit, -, -⟩ := r.exists_rest
  have hm : .operated r.run (.add f) ∈ r.earlier ++ r.events := by
    rw [hsplit]
    simp [mem_operations.1 hadd]
  obtain ⟨host, v, hhost, hv, hf⟩ := r.sourced.slots r.run f hm
  obtain rfl : r.index = host := by simpa [r.host] using hhost
  obtain ⟨v', hv', hinput, hrules⟩ := r.exists_validator_ended
  obtain rfl : v = v' := by simpa [hv] using hv'
  rwa [Validator.failureFor, hinput, hrules] at hf

theorem judged_past {slot : Nat} {accepted : Bool} (h : .judged r.run slot accepted ∈ r.past) :
    Run.firstCompletion (operations r.run r.past) slot = some (.ofBool accepted) := by
  obtain ⟨rest, hsplit, -, -⟩ := r.exists_rest
  have hm : .judged r.run slot accepted ∈ r.earlier ++ r.events := by simp [hsplit, h]
  have hfirst := r.ledger.faithful.orderly.judged r.run slot accepted hm
  rwa [operations_earlier, firstCompletion_events] at hfirst

/-- At every moment the run goes by what was done with its own slots. -/
theorem isolated (first : List Operation) :
    Isolated r.run (r.start.steps first).1 (r.earlier ++ (r.start.steps first).2) := by
  have h := acts_isolated r.context r.validators ((r.before ++ first).map .operation) r.run
  rwa [acts_operations, steps_append] at h

end LoneRun

/-- At the verdict of a run that nothing disturbs, the bag has exactly one message for each slot
whose first completion fails, in the order of these completions. Another such run with the same
first completions has the same verdict and for each field the same messages in some order. -/
theorem messages_of_lone_run (r : LoneRun) :
    let ops := operations r.run r.past
    (considered r.run r.past = r.validator.rules.directives ∧
      (∀ first, Isolated r.run (r.start.steps first).1
        (r.earlier ++ (r.start.steps first).2)) ∧
      (∀ f ∈ Run.added ops, f = r.validator.failureFor (f.field, f.directive)) ∧
      ∀ slot accepted, .judged r.run slot accepted ∈ r.past →
        Run.firstCompletion ops slot = some (.ofBool accepted)) ∧
    (∀ slot, slot ∈ Run.failedSlots ops ↔
      ∃ outcome, Run.firstCompletion ops slot = some outcome ∧ outcome.passed = false) ∧
    (Run.failedSlots ops).Pairwise (Run.CompletedBefore ops) ∧
    (Run.failures ops).map some = (Run.failedSlots ops).map (Run.failureAt ops) ∧
    r.bag.entries =
      MessageBag.grouped ((Run.failures ops).map fun f => (f.field, r.message f)) ∧
    (r.passed = true ↔ Run.failedSlots ops = []) ∧
    r.ended.bagOf r.index = r.bag ∧
    ∀ other : LoneRun,
      Run.added (operations other.run other.past) = Run.added ops →
      (∀ slot, Run.firstCompletion (operations other.run other.past) slot =
        Run.firstCompletion ops slot) →
      other.message = r.message →
        other.passed = r.passed ∧ ∀ field, (other.bag.get field).Perm (r.bag.get field) := by
  intro ops
  refine ⟨⟨r.considered_past, r.isolated, fun f hm => r.failureFor_of_added hm,
    fun slot accepted hm => r.judged_past hm⟩, fun slot => Run.mem_failedSlots,
    Run.failedSlots_pairwise ops, Run.map_some_failures ops, ?_, r.passed_iff, r.bagOf_ended, ?_⟩
  · rw [r.bag_eq, MessageBag.entries_ofPairs]
    rfl
  · intro other hadded hfirst hmessage
    constructor
    · have hslots := Run.failedSlots_perm hfirst
      have hiff : other.passed = true ↔ r.passed = true := by
        rw [other.passed_iff, r.passed_iff, ← List.length_eq_zero_iff, ← List.length_eq_zero_iff,
          hslots.length_eq]
      exact Bool.eq_iff_iff.2 hiff
    · intro field
      rw [other.bag_eq, r.bag_eq, MessageBag.get_ofPairs, MessageBag.get_ofPairs, LoneRun.messages,
        LoneRun.messages, hmessage]
      exact (((Run.failures_perm hadded hfirst).map _).filter _).map _

/-- Two rules of a field wait for their handles, and the one of another field fails at once. The
handles fail in the order of the directives, or the other way round and one of them twice. -/
def lateExcerpt (turned : Bool) : Excerpt where
  context := (Context.initial.register "later" (.async fun _ _ => ⟨[], 1⟩) true "").register
    "never" (.pure fun _ => false) true ""
  validators := [{
    input := []
    rules := Dict.ofList [("a", [⟨"later", none⟩, ⟨"later", some "2"⟩]), ("b", [⟨"never", none⟩])]
    wording := Wording.setCustom {} [("later", ":attribute is late."), ("never", "Never :attribute.")]
    bag := MessageBag.empty }]
  before := []
  during := .checkAsync 0 true true ::
    if turned then
      [.complete 1 (.failWith "Own :attribute."), .complete 1 .pass, .complete 0 .fail]
    else [.complete 0 .fail, .complete 1 (.failWith "Own :attribute.")]

theorem lateExcerpt_steady (turned : Bool) :
    let s := (lateExcerpt turned).start
    ∀ first, first <+: s.inParts (lateExcerpt turned).during →
      (s.steps first).1.voice 0 = s.voice 0 := by
  intro s first hfirst
  rw [← List.mem_inits] at hfirst
  cases turned with
  | false =>
    have hparts : s.inParts (lateExcerpt false).during = [.openCall 0 true true, .ask 0, .ask 0,
      .ask 0, .close 0, .complete 0 .fail, .complete 1 (.failWith "Own :attribute.")] := rfl
    rw [hparts] at hfirst
    simp only [List.inits, List.map_cons, List.map_nil, List.mem_cons, List.not_mem_nil,
      or_false] at hfirst
    rcases hfirst with rfl | rfl | rfl | rfl | rfl | rfl | rfl | rfl <;> rfl
  | true =>
    have hparts : s.inParts (lateExcerpt true).during = [.openCall 0 true true, .ask 0, .ask 0,
      .ask 0, .close 0, .complete 1 (.failWith "Own :attribute."), .complete 1 .pass,
      .complete 0 .fail] := rfl
    rw [hparts] at hfirst
    simp only [List.inits, List.map_cons, List.map_nil, List.mem_cons, List.not_mem_nil,
      or_false] at hfirst
    rcases hfirst with rfl | rfl | rfl | rfl | rfl | rfl | rfl | rfl | rfl <;> rfl

theorem lateExcerpt_began (turned : Bool) :
    (lateExcerpt turned).events = .began 0 (some 0) :: (lateExcerpt turned).events.tail := by
  cases turned <;> decide +kernel

theorem lateExcerpt_alone (turned : Bool) (other : Option Nat) :
    Event.began 0 other ∉ (lateExcerpt turned).events.tail := by
  intro hm
  have hnone : ∀ e ∈ (lateExcerpt turned).events.tail, e.began? 0 = none := by
    cases turned <;> decide +kernel
  simpa [Event.began?] using hnone _ hm

theorem lateExcerpt_host (turned : Bool) {other : Nat}
    (hhost : (lateExcerpt turned).ended.hosts[other]? = some 0) : other = 0 := by
  have hhosts : (lateExcerpt turned).ended.hosts = [0] := by cases turned <;> decide +kernel
  have hlt := (List.getElem?_eq_some_iff.1 hhost).1
  simp only [hhosts, List.length_singleton] at hlt
  omega

theorem lateExcerpt_verdict (turned : Bool) :
    (lateExcerpt turned).events.takeWhile (· ≠ .verdict 0 false) ++ [.verdict 0 false] <+:
      (lateExcerpt turned).events := by
  cases turned <;> decide +kernel

/-- The only run of a session with one validator. -/
def lateRun (turned : Bool) : LoneRun where
  toExcerpt := lateExcerpt turned
  index := 0
  validator := (lateExcerpt turned).validators.head (by simp [lateExcerpt])
  run := 0
  since := (lateExcerpt turned).events.tail
  past := (lateExcerpt turned).events.takeWhile (· ≠ .verdict 0 false)
  passed := false
  there := rfl
  began := lateExcerpt_began turned
  alone := lateExcerpt_alone turned
  undisturbed _ _ _ _ := lateExcerpt_host turned
  steady := lateExcerpt_steady turned
  verdict := lateExcerpt_verdict turned

/-- The message of the synchronous rule comes first, and the others in the order of completion. -/
theorem messages_of_late_runs :
    (lateRun false).bag.entries = [("b", ["Never b."]), ("a", ["a is late.", "Own a."])] ∧
      (lateRun true).bag.entries = [("b", ["Never b."]), ("a", ["Own a.", "a is late."])] ∧
      (lateRun true).passed = (lateRun false).passed ∧
      ((lateRun true).bag.get "a").Perm ((lateRun false).bag.get "a") := by
  obtain ⟨-, -, -, -, hforward, -, -, hother⟩ := messages_of_lone_run (lateRun false)
  obtain ⟨-, -, -, -, hturned, -⟩ := messages_of_lone_run (lateRun true)
  have hadded : Run.added (operations 0 (lateRun true).past) =
      Run.added (operations 0 (lateRun false).past) := by decide +kernel
  have hfirst (slot : Nat) : Run.firstCompletion (operations 0 (lateRun true).past) slot =
      Run.firstCompletion (operations 0 (lateRun false).past) slot := by
    have hforward : Run.completions (operations 0 (lateRun false).past) =
        [[.fail], [.failWith "Own :attribute."], [.fail]] := by decide +kernel
    have hturned : Run.completions (operations 0 (lateRun true).past) =
        [[.fail], [.failWith "Own :attribute.", .pass], [.fail]] := by decide +kernel
    rw [Run.firstCompletion, Run.firstCompletion, hforward, hturned]
    rcases slot with _ | _ | _ | slot <;> rfl
  obtain ⟨hpassed, hperm⟩ := hother (lateRun true) hadded hfirst rfl
  refine ⟨hforward.trans ?_, hturned.trans ?_, hpassed, hperm "a"⟩
  · decide +kernel
  · decide +kernel

end FieldRules.Session
