import FieldRules.Proofs.Session.Move
import FieldRules.Proofs.Session.Operate

namespace FieldRules

/-- Whether the event only notes how a step of a plan was asked. -/
def Event.isNote : Event → Bool
  | skipped _ _ _ | judged _ _ _ | called _ _ _ _ => true
  | _ => false

namespace Session

/-- The session with the next step taken from the plan of a run, after its value was looked at. -/
def advance (s : Session) (index : Nat) (rest : List Step) (context : Context) : Session :=
  { s.modifyRun index fun started => { started with pending := rest } with context }

section Advance

variable (s : Session) (index : Nat) (rest : List Step) (context : Context)

theorem outlines_advance :
    (s.advance index rest context).outlines = s.outlines.modify index fun o => (o.1, rest) := by
  apply List.ext_getElem?
  intro run
  simp only [List.getElem?_modify, getElem?_outlines, advance, modifyRun]
  cases s.runs[run]? with
  | none => rfl
  | some started => by_cases hr : index = run <;> simp [hr]

theorem hosts_advance : (s.advance index rest context).hosts = s.hosts := by
  apply List.ext_getElem?
  intro run
  rw [hosts, hosts, outlines_advance, List.getElem?_map, List.getElem?_map, List.getElem?_modify]
  cases s.outlines[run]? with
  | none => rfl
  | some o => by_cases hr : index = run <;> simp [hr]

theorem runOf_advance (run : Nat) : (s.advance index rest context).runOf run = s.runOf run := by
  show (s.modifyRun index fun started => { started with pending := rest }).runOf run = _
  apply runOf_modifyRun
  intro started
  rfl

theorem exists_run_advance {started : StartedRun} (hs : s.runs[index]? = some started) :
    ∃ started', (s.advance index rest context).runs[index]? = some started' := by
  simp [advance, modifyRun, hs]

end Advance

/-- There is nothing to ask, or the step does not count, or its rule is asked. -/
theorem ask_cases (s : Session) (index : Nat) :
    (s.ask index = (s, []) ∧ ∀ started step rest, s.runs[index]? = some started →
      started.pending = step :: rest → s.validators[started.validator]? = none) ∨
    ∃ started step rest v context, s.runs[index]? = some started ∧
      started.pending = step :: rest ∧ s.validators[started.validator]? = some v ∧
      ((started.plan.applies v.input s.context step = (false, context) ∧
        s.ask index = (s.advance index rest context, [.skipped index step.field step.directive])) ∨
      (started.plan.applies v.input s.context step = (true, context) ∧
        s.ask index =
          (let (added, told) := (s.advance index rest context).operate index
            (.add (v.failureOf step))
          let (after, events) := added.question index started.run.slots.length v started.plan step
          (after, told ++ events)))) := by
  unfold ask
  split
  · next started hs =>
    split
    · next step rest v hp hv =>
      refine .inr ⟨started, step, rest, v, (started.plan.applies v.input s.context step).2,
        hs, hp, hv, ?_⟩
      cases ha : (started.plan.applies v.input s.context step).1 with
      | false => exact .inl ⟨Prod.ext ha rfl, by simp [advance, modifyRun, ha]⟩
      | true => exact .inr ⟨Prod.ext ha rfl, by simp [advance, modifyRun, ha]⟩
    · next hnone =>
      refine .inl ⟨rfl, fun started' step rest hs' hp => ?_⟩
      obtain rfl : started = started' := by simpa [hs] using hs'
      cases hv : s.validators[started.validator]? with
      | none => rfl
      | some v => exact absurd hv (hnone step rest v hp)
  · next hs => exact .inl ⟨rfl, by simp [hs]⟩

/-- Adding a slot tells nothing. -/
theorem operate_add {s : Session} {index : Nat} {started : StartedRun}
    (hs : s.runs[index]? = some started) (failure : Failure) :
    s.operate index (.add failure) =
      (s.strike index (.add failure) started, [.operated index (.add failure)]) := by
  rw [operate_eq s index _ hs]
  rfl

theorem completeAll_cons (s : Session) (index slot : Nat) (outcome : Outcome)
    (rest : List Outcome) :
    s.completeAll index slot (outcome :: rest) =
      (((s.operate index (.complete slot outcome)).1.completeAll index slot rest).1,
        (s.operate index (.complete slot outcome)).2 ++
          ((s.operate index (.complete slot outcome)).1.completeAll index slot rest).2) := rfl

/-- A small step of a session. Nothing but the last kind does something with a run. -/
inductive Stroke (s : Session) : Session → List Event → Prop where
  | turned (index : Nat) (rest : List Step) (context : Context) :
      Stroke s (s.advance index rest context) []
  | handed (context : Context) (handles : List Handle) : Stroke s { s with context, handles } []
  | noted (e : Event) (note : e.isNote = true) : Stroke s s [e]
  | operated (index : Nat) (operation : Run.Operation) :
      Stroke s (s.operate index operation).1 (s.operate index operation).2

abbrev Strokes : Session → Session → List Event → Prop := Trail Stroke

theorem Stroke.strokes {s s' : Session} {events : List Event} (h : Stroke s s' events) :
    Strokes s s' events := Trail.single h

theorem completeAll_strokes (s : Session) (index slot : Nat) (outcomes : List Outcome) :
    Strokes s (s.completeAll index slot outcomes).1 (s.completeAll index slot outcomes).2 :=
  .inTurn fun _ outcome _ => (Stroke.operated index (.complete slot outcome)).strokes

theorem judged_strokes (s : Session) (index slot : Nat) (v : Validator) (plan : Plan)
    (step : Step) (judge : Judge) :
    Strokes s (question.judged index slot v plan step s judge).1
      (question.judged index slot v plan step s judge).2 := by
  unfold question.judged
  obtain ⟨accepted, context⟩ := s.context.consult judge (plan.subject v.input step)
  have hasked : Strokes s { s with context } [.judged index slot accepted] :=
    (Stroke.handed context s.handles).strokes.trans (Stroke.noted _ rfl).strokes
  exact hasked.trans (Stroke.operated index (.complete slot (.ofBool accepted))).strokes

theorem called_strokes (s : Session) (context : Context) (handles : List Handle)
    (index slot : Nat) (rule field : String) (outcomes : List Outcome) :
    Strokes s ({ s with context, handles }.completeAll index slot outcomes).1
      (.called index slot rule field ::
        ({ s with context, handles }.completeAll index slot outcomes).2) := by
  have hcalled : Strokes s { s with context, handles } [.called index slot rule field] :=
    (Stroke.handed context handles).strokes.trans (Stroke.noted _ rfl).strokes
  exact hcalled.trans (completeAll_strokes _ index slot outcomes)

theorem question_strokes (s : Session) (index slot : Nat) (v : Validator) (plan : Plan)
    (step : Step) :
    Strokes s (s.question index slot v plan step).1 (s.question index slot v plan step).2 := by
  unfold question
  split
  · exact called_strokes s s.context.tick _ index slot _ _ _
  · exact judged_strokes s index slot v plan step _
  · exact judged_strokes s index slot v plan step _

theorem ask_strokes (s : Session) (index : Nat) :
    Strokes s (s.ask index).1 (s.ask index).2 := by
  rcases ask_cases s index with ⟨heq, -⟩ | ⟨started, step, rest, v, context, -, -, -, hcase⟩
  · rw [heq]
    exact .none
  · have hturned := (Stroke.turned (s := s) index rest context).strokes
    rcases hcase with ⟨-, heq⟩ | ⟨-, heq⟩
    · rw [heq]
      exact hturned.trans (Stroke.noted _ rfl).strokes
    · have hadded := hturned.trans (Stroke.operated index (.add (v.failureOf step))).strokes
      rw [heq]
      exact hadded.trans (question_strokes _ index _ v started.plan step)

/-- A run is closed or left alone. -/
theorem close_cases (s : Session) (index : Nat) :
    s.close index = (s, []) ∨ s.close index = s.operate index .arm := by
  unfold close
  split
  · split
    · exact .inr rfl
    · exact .inl rfl
  · exact .inl rfl

theorem close_strokes (s : Session) (index : Nat) :
    Strokes s (s.close index).1 (s.close index).2 := by
  rcases close_cases s index with heq | heq
  · rw [heq]
    exact .none
  · rw [heq]
    exact (Stroke.operated index .arm).strokes

theorem Stroke.hosts {s s' : Session} {events : List Event} (h : Stroke s s' events) :
    s'.hosts = s.hosts := by
  cases h with
  | turned index rest context => exact hosts_advance s index rest context
  | handed | noted => rfl
  | operated index operation => rw [Session.hosts, outlines_operate, Session.hosts]

theorem Stroke.specs {s s' : Session} {events : List Event} (h : Stroke s s' events) :
    s'.specs = s.specs := by
  cases h with
  | turned | handed | noted => rfl
  | operated index operation => exact specs_operate s index operation

theorem Strokes.hosts {s s' : Session} {events : List Event} (h : Strokes s s' events) :
    s'.hosts = s.hosts := by
  induction h with
  | none => rfl
  | snoc _ last ih => rw [last.hosts, ih]

end Session

end FieldRules
