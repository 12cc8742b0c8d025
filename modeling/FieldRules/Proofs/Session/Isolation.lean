import FieldRules.Proofs.Session.Callbacks
import FieldRules.Proofs.Session.Told

namespace FieldRules

/-- A run when it is opened, with the whole plan before it. -/
def StartedRun.fresh (validator : Nat) (plan : Plan) (listener : Listener) : StartedRun :=
  { validator, plan, pending := plan.steps, listener }

namespace Session

/-- The listener of a run is told its verdict at once if it acts on that, and callbacks that listen to
the run are told nothing else. -/
structure Heard (run : Nat) (started : StartedRun) (events : List Event) : Prop where
  kept : started.verdicts = verdicts run events
  announced : ∀ past passed rest call, events = past ++ .verdict run passed :: rest →
    started.listener.Hears call passed → ∃ later, rest = .finished call passed :: later
  only : ∀ past call passed rest onPass onFail, events = past ++ .finished call passed :: rest →
    started.listener = .callbacks call onPass onFail →
      started.listener.Hears call passed ∧ ∃ earlier, past = earlier ++ [.verdict run passed]

/-- A run in a session with its history goes by what was done with its own slots. -/
structure Isolated (run : Nat) (s : Session) (events : List Event) : Prop where
  once : (verdicts run events).length ≤ 1
  /-- The verdict comes right after the operation with which the run is for the first time closed to
  questions and all its slots have a completion. -/
  prompt : ∀ past passed, past ++ [.verdict run passed] <+: events →
    (∃ earlier op, operations run past = earlier ++ [op] ∧ Run.FirstSettled earlier op) ∧
      (passed = true ↔ Passing run past)
  given : Run.Settled (operations run events) → ∃ passed, .verdict run passed ∈ events
  heard : ∀ started, s.runs[run]? = some started → Heard run started events
  scheduled : ∀ past, past ++ [.operated run .arm] <+: events → Scheduled s.specs run past
  final : ∀ past operation, past ++ [.operated run operation] <+: events →
    IsScheduling operation → .arm ∉ operations run past
  judged : ∀ slot accepted, .judged run slot accepted ∈ events →
    Run.firstCompletion (operations run events) slot = some (.ofBool accepted)
  asked : ∀ started step rest v, s.runs[run]? = some started → started.pending = step :: rest →
    s.validators[started.validator]? = some v →
      AskedRightly run (slotCount run events) v started.plan s step
  closed : operations run (s.close run).2 = [] ∨ operations run (s.close run).2 = [.arm]
  /-- All else that is done with the run is done through its handles that are held. -/
  through : run < s.runs.length → ∀ deed, deed ≠ .operation (.ask run) →
    deed ≠ .operation (.close run) → operations run (s.act deed).2 = s.through run deed
  owned : ∀ handle ∈ s.handles, handle.run = run →
    ∃ rule field, .called run handle.slot rule field ∈ events

section Isolated

variable {s : Session} {events : List Event} {run : Nat}

theorem Faithful.prompt (h : Faithful s events) {past : List Event} {passed : Bool}
    (hp : past ++ [.verdict run passed] <+: events) :
    (∃ earlier op, operations run past = earlier ++ [op] ∧ Run.FirstSettled earlier op) ∧
      (passed = true ↔ Passing run past) := by
  have hdue := h.alone.prompt past _ hp run passed rfl
  have hpast : past <+: events := (List.prefix_append past _).trans hp
  rw [← h.unfailed_iff hpast hdue.settled]
  exact hdue

theorem heard_of_announced (hevents : Announced s.audience.1 events) (hnumbered : s.Numbered)
    {started : StartedRun} (hs : s.runs[run]? = some started)
    (hkept : started.verdicts = verdicts run events) : Heard run started events := by
  have hlistens : s.audience.1[run]? = some started.listener := by
    rw [audience, List.getElem?_map, hs]
    rfl
  refine { kept := hkept, announced := ?announced, only := ?only }
  case announced =>
    intro past passed rest call hsplit hhears
    obtain ⟨listener, hthere, later, htold⟩ := hevents.after_verdict hsplit
    obtain rfl : started.listener = listener := by simpa [hlistens] using hthere
    rw [announce_of_hears hhears, List.singleton_append] at htold
    exact ⟨later, htold.symm⟩
  case only =>
    intro past call passed rest onPass onFail hsplit hcall
    obtain ⟨earlier, other, listener, rfl, hthere, hhears⟩ := hevents.before_finished hsplit
    obtain ⟨onPass', onFail', hlistener, -⟩ := id hhears
    -- the callbacks of a call listen to one run only
    obtain rfl : run = other :=
      hnumbered.apart run other call _ _ onPass' onFail' (by rw [hlistens, hcall])
        (by rw [hthere, hlistener])
    obtain rfl : started.listener = listener := by simpa [hlistens] using hthere
    exact ⟨hhears, earlier, rfl⟩

theorem operations_close (s : Session) (run : Nat) :
    operations run (s.close run).2 = [] ∨ operations run (s.close run).2 = [.arm] := by
  rcases close_cases s run with heq | heq
  · exact .inl (by rw [heq, operations_nil])
  · rw [heq, operations_operate]
    split
    · exact .inr rfl
    · exact .inl rfl

end Isolated

theorem acts_isolated (context : Context) (validators : List Validator) (deeds : List Deed)
    (run : Nat) :
    Isolated run (acts { context, validators } deeds).1 (acts { context, validators } deeds).2 := by
  have h := acts_faithful context validators deeds
  have hkept := acts_verdictsOf context validators deeds run
  have hannounced := (acts_moves { context, validators } deeds).announced
  have howned := acts_owned context validators deeds
  refine {
    once := h.length_verdicts run
    prompt := fun past passed hp => h.prompt hp
    given := fun hsettled => (h.settled_iff run).1 ⟨_, List.prefix_rfl, hsettled⟩
    heard := fun started hs => ?heard
    scheduled := fun past hp => h.orderly.scheduled past _ hp run rfl
    final := fun past operation hp => h.orderly.final past _ hp run operation rfl
    judged := h.orderly.judged run
    asked := fun started step rest v hs hp hv => h.askedRightly hs hp hv
    closed := operations_close _ run
    through := fun hlt deed hask hclose => operations_act hlt hask hclose
    owned := ?owned }
  case heard =>
    rw [verdictsOf, hs] at hkept
    exact heard_of_announced hannounced (acts_numbered context validators deeds) hs hkept
  case owned =>
    rintro handle hm rfl
    exact howned handle hm

/-- A call that is not refused opens a run, for the callbacks of the number that it answers or for a
future. -/
theorem step_opens_fresh {s : Session} {index : Nat} {v : Validator} {plan : Plan}
    (there : s.validators[index]? = some v) (hplan : v.plan s.context = .ok plan)
    (onPass onFail negated : Bool) :
    let call := s.step (.openCall index onPass onFail)
    let future := s.step (.openFuture index negated)
    (call.2.1 = .number s.calls ∧
      call.1.runs = s.runs ++ [.fresh index plan (.callbacks s.calls onPass onFail)]) ∧
    (future.1.runs = s.runs ++ [.fresh index plan .future] ∧
      future.1.futures = s.futures ++ [.waiting s.runs.length negated]) := by
  simp [step, withValidator, there, openCall_underway s index hplan onPass onFail,
    openFuture_underway s index hplan negated, underway, StartedRun.fresh]

/-- Two runs of one validator whose rule keeps its handle; the later run is completed first. -/
def overlappingDeeds : List Deed :=
  [.operation (.register "later" (.async fun _ _ => ⟨[], 1⟩) false "Late."),
    .operation (.create (.object [("a", .string "x")]) (Dict.ofList [("a", .piped "later")]) []),
    .operation (.checkAsync 0 true true),
    .operation (.checkAsync 0 true true),
    .operation (.complete 1 .fail),
    .operation (.complete 0 .pass)]

end Session

end FieldRules
