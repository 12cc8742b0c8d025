import FieldRules.Proofs.Session.Faithful
import FieldRules.Proofs.Session.Parts

namespace FieldRules.Session

theorem operated_mem_operate {s : Session} {index run : Nat} {operation other : Run.Operation}
    (h : .operated run other ∈ (s.operate index operation).2) :
    run = index ∧ other = operation := by
  rcases operate_events s index operation with hnone | ⟨told, heq, htold⟩
  · simp [hnone] at h
  · rw [heq, List.mem_cons] at h
    rcases h with he | hm
    · exact Event.operated.inj he
    · have := htold _ hm
      simp [Event.isReport] at this

theorem operated_mem_completeAll {s : Session} {index slot run : Nat} {outcomes : List Outcome}
    {operation : Run.Operation}
    (h : .operated run operation ∈ (s.completeAll index slot outcomes).2) :
    run = index ∧ ∃ outcome, operation = .complete slot outcome := by
  have hall : ∀ e ∈ (s.completeAll index slot outcomes).2, e = .operated run operation →
      run = index ∧ ∃ outcome, operation = .complete slot outcome := by
    apply forall_mem_inTurn
    intro s outcome _ e he heq
    obtain ⟨hrun, hoperation⟩ := operated_mem_operate (heq ▸ he)
    exact ⟨hrun, outcome, hoperation⟩
  exact hall _ h rfl

theorem operated_mem_judged {s : Session} {index slot run : Nat} {v : Validator} {plan : Plan}
    {step : Step} {judge : Judge} {operation : Run.Operation}
    (h : .operated run operation ∈ (question.judged index slot v plan step s judge).2) :
    run = index ∧ ∃ outcome, operation = .complete slot outcome := by
  simp only [question.judged, List.mem_cons, reduceCtorEq, false_or] at h
  obtain ⟨hrun, he⟩ := operated_mem_operate h
  exact ⟨hrun, _, he⟩

/-- The rule of a slot does nothing but complete it. -/
theorem operated_mem_question {s : Session} {index slot run : Nat} {v : Validator} {plan : Plan}
    {step : Step} {operation : Run.Operation}
    (h : .operated run operation ∈ (s.question index slot v plan step).2) :
    run = index ∧ ∃ outcome, operation = .complete slot outcome := by
  unfold question at h
  split at h
  · simp only [List.mem_cons, reduceCtorEq, false_or] at h
    exact operated_mem_completeAll h
  · exact operated_mem_judged h
  · exact operated_mem_judged h

/-- Asking adds the slot of the next step and completes it, and does nothing else with a run. -/
theorem operated_mem_ask {s : Session} {index run : Nat} {operation : Run.Operation}
    (h : .operated run operation ∈ (s.ask index).2) :
    run = index ∧ ((∃ slot outcome, operation = .complete slot outcome) ∨
      ∃ started step rest v, s.runs[index]? = some started ∧ started.pending = step :: rest ∧
        s.validators[started.validator]? = some v ∧ operation = .add (v.failureOf step)) := by
  rcases ask_cases s index with ⟨heq, -⟩ | ⟨started, step, rest, v, context, hs, hp, hv, hcase⟩
  · simp [heq] at h
  · rcases hcase with ⟨-, heq⟩ | ⟨-, heq⟩
    · simp [heq] at h
    · rw [heq] at h
      rcases List.mem_append.1 h with h | h
      · obtain ⟨hrun, he⟩ := operated_mem_operate h
        exact ⟨hrun, .inr ⟨started, step, rest, v, hs, hp, hv, he⟩⟩
      · obtain ⟨hrun, outcome, he⟩ := operated_mem_question h
        exact ⟨hrun, .inl ⟨_, outcome, he⟩⟩

/-- Asking does not close a run to questions. -/
theorem arm_not_mem_ask (s : Session) (index run : Nat) :
    .operated run .arm ∉ (s.ask index).2 := by
  intro h
  obtain ⟨-, hcase⟩ := operated_mem_ask h
  rcases hcase with ⟨slot, outcome, he⟩ | ⟨started, step, rest, v, -, -, -, he⟩ <;> simp at he

theorem outlines_judged (s : Session) (index slot : Nat) (v : Validator) (plan : Plan)
    (step : Step) (judge : Judge) :
    (question.judged index slot v plan step s judge).1.outlines = s.outlines := by
  unfold question.judged
  obtain ⟨accepted, context⟩ := s.context.consult judge (plan.subject v.input step)
  exact outlines_operate { s with context } index _

theorem outlines_question (s : Session) (index slot : Nat) (v : Validator) (plan : Plan)
    (step : Step) : (s.question index slot v plan step).1.outlines = s.outlines := by
  unfold question
  split
  · exact unoperated_outlines.completeAll _ index slot _
  · exact outlines_judged s index slot v plan step _
  · exact outlines_judged s index slot v plan step _

theorem length_runs_ask (s : Session) (index : Nat) :
    (s.ask index).1.runs.length = s.runs.length := by
  rw [← length_hosts, (ask_strokes s index).hosts, length_hosts]

/-- In a faithful session the next step of an open run can be asked. -/
theorem Faithful.outlines_ask {s : Session} {events : List Event} (h : Faithful s events)
    {index validator : Nat} {step : Step} {rest : List Step}
    (ho : s.outlines[index]? = some (validator, step :: rest)) :
    (s.ask index).1.outlines = s.outlines.set index (validator, rest) := by
  obtain ⟨started, hs, hstarted⟩ := Option.map_eq_some_iff.1 (getElem?_outlines s index ▸ ho)
  obtain ⟨rfl, hp⟩ := Prod.mk.inj hstarted
  have hhost : s.hosts[index]? = some started.validator := by
    rw [getElem?_hosts, hs]
    rfl
  have hlt : started.validator < s.validators.length := by
    simpa using h.alone.present _ (List.mem_of_getElem? hhost)
  have hadvance (context : Context) : (s.advance index rest context).outlines =
      s.outlines.set index (started.validator, rest) := by
    rw [outlines_advance, List.modify_eq_set, ho]
    rfl
  rcases ask_cases s index with ⟨-, hidle⟩ | ⟨started', step', rest', v, context, hs', hp', -, hcase⟩
  · have hnone := hidle started step rest hs hp
    rw [List.getElem?_eq_getElem hlt] at hnone
    exact absurd hnone (by simp)
  · obtain rfl : started = started' := by simpa [hs] using hs'
    obtain ⟨rfl, rfl⟩ := List.cons.inj (hp.symm.trans hp')
    rcases hcase with ⟨-, heq⟩ | ⟨-, heq⟩
    · rw [heq, hadvance]
    · rw [heq]
      simp only [outlines_question, outlines_operate, hadvance]

/-- As many questions as there are steps leave nothing of the plan. -/
theorem Faithful.outlines_askAll {s : Session} {events : List Event} (h : Faithful s events)
    {index validator : Nat} {pending : List Step}
    (ho : s.outlines[index]? = some (validator, pending)) :
    (s.askAll index pending.length).1.outlines[index]? = some (validator, []) := by
  induction pending generalizing s events with
  | nil => exact ho
  | cons step rest ih =>
    rw [List.length_cons, askAll_succ]
    apply ih (h.asked index)
    rw [h.outlines_ask ho]
    exact List.getElem?_set_self (List.getElem?_eq_some_iff.1 ho).1

theorem arm_not_mem_askAll (s : Session) (index count run : Nat) :
    .operated run .arm ∉ (s.askAll index count).2 := by
  have hall : ∀ e ∈ (s.askAll index count).2, e ≠ .operated run .arm := by
    apply forall_mem_inTurn
    intro s index _ e he heq
    exact arm_not_mem_ask s index run (heq ▸ he)
  exact fun hm => hall _ hm rfl

theorem length_runs_askAll (s : Session) (index count : Nat) :
    (s.askAll index count).1.runs.length = s.runs.length :=
  inTurn_unchanged (f := fun s : Session => s.runs.length) fun s index _ => length_runs_ask s index

theorem length_runs_close (s : Session) (index : Nat) :
    (s.close index).1.runs.length = s.runs.length := by
  rw [← length_hosts, (close_strokes s index).hosts, length_hosts]

theorem length_runs_schedule (s : Session) (index : Nat) :
    (s.schedule index).1.runs.length = s.runs.length :=
  (length_runs_close _ index).trans (length_runs_askAll s index _)

/-- A run with nothing left of its plan, not closed before, is closed. -/
theorem Faithful.mem_close {s : Session} {events : List Event} (h : Faithful s events)
    {index validator : Nat} (ho : s.outlines[index]? = some (validator, []))
    (hnew : .arm ∉ operations index events) : .operated index .arm ∈ (s.close index).2 := by
  obtain ⟨started, hs, hstarted⟩ := Option.map_eq_some_iff.1 (getElem?_outlines s index ▸ ho)
  have hpending : started.pending = [] := (Prod.mk.inj hstarted).2
  have harmed : started.run.armed = false := by
    have hrun : s.runOf index = started.run := by simp only [runOf, hs]
    rw [← hrun, ← Bool.not_eq_true, h.alone.armed_iff]
    exact hnew
  unfold close
  simp only [hs, hpending, harmed]
  rw [operate_eq s index .arm hs]
  exact List.mem_cons_self

/-- Scheduling an open run closes it to questions. -/
theorem Faithful.mem_schedule {s : Session} {events : List Event} (h : Faithful s events)
    {index validator : Nat} {pending : List Step}
    (ho : s.outlines[index]? = some (validator, pending))
    (hnew : .arm ∉ operations index events) : .operated index .arm ∈ (s.schedule index).2 := by
  obtain ⟨started, hs, hstarted⟩ := Option.map_eq_some_iff.1 (getElem?_outlines s index ▸ ho)
  have hpending : started.pending = pending := (Prod.mk.inj hstarted).2
  have hasked := h.moves (askAll_moves s index pending.length)
  have hstill : .arm ∉ operations index (events ++ (s.askAll index pending.length).2) := by
    rw [operations_append, List.mem_append, not_or]
    exact ⟨hnew, fun hm => arm_not_mem_askAll s index _ index (mem_operations.1 hm)⟩
  have hclose := hasked.mem_close (h.outlines_askAll ho) hstill
  simp only [schedule, hs, hpending, List.mem_append]
  exact .inr hclose

/-- Nothing was opened, or a run was. -/
def Opens (s s' : Session) : Prop :=
  s'.runs = s.runs ∨ ∃ started : StartedRun, s'.runs = s.runs ++ [started] ∧ started.run = {}

theorem openCall_opens (s : Session) (index : Nat) (v : Validator) (onPass onFail : Bool) :
    Opens s (s.openCall index v onPass onFail).1 := by
  unfold openCall
  simp only
  split
  · next opened events accepted =>
    obtain ⟨plan, -, -, hruns, -⟩ := openRun_ok accepted
    exact .inr ⟨_, hruns, rfl⟩
  · exact .inl rfl

theorem openFuture_opens (s : Session) (index : Nat) (v : Validator) (negated : Bool) :
    Opens s (s.openFuture index v negated).1 := by
  unfold openFuture
  split
  · next opened events accepted =>
    obtain ⟨plan, -, -, hruns, -⟩ := openRun_ok accepted
    exact .inr ⟨_, hruns, rfl⟩
  · exact .inl rfl

theorem Faithful.scheduled_armed {s : Session} {events : List Event} (h : Faithful s events)
    {opened : Session × Answer × List Event} (hmoves : Moves s opened.1 opened.2.2)
    (hopens : Opens s opened.1) {run : Nat} (hold : s.runs.length ≤ run)
    (hnew : run < (s.scheduled opened).1.runs.length) :
    .operated run .arm ∈ (s.scheduled opened).2.2 := by
  have hlength : (s.scheduled opened).1.runs.length = opened.1.runs.length :=
    length_runs_schedule opened.1 s.runs.length
  rw [hlength] at hnew
  rcases hopens with hruns | ⟨started, hruns, hrun⟩
  · rw [hruns] at hnew
    omega
  · rw [hruns, List.length_append, List.length_singleton] at hnew
    obtain rfl : run = s.runs.length := by omega
    have ho : opened.1.outlines[s.runs.length]? = some (started.validator, started.pending) := by
      rw [getElem?_outlines, hruns, List.getElem?_concat_length]
      rfl
    have hfaithful := h.moves hmoves
    have hfresh : .arm ∉ operations s.runs.length (events ++ opened.2.2) := by
      have hrunOf : opened.1.runOf s.runs.length = {} := by
        simp only [runOf, hruns, List.getElem?_concat_length, hrun]
      rw [← hfaithful.alone.armed_iff, hrunOf]
      simp
    exact List.mem_append_right _ (hfaithful.mem_schedule ho hfresh)

theorem startFuture_scheduled (s : Session) (index : Nat) (v : Validator) (negated : Bool) :
    (s.startFuture index v negated).1.runs =
        (s.scheduled (s.openFuture index v negated)).1.runs ∧
      (s.startFuture index v negated).2.2 =
        (s.scheduled (s.openFuture index v negated)).2.2 := by
  unfold startFuture
  split
  · next heq => simp [heq]
  · next after _ events _ heq => simp [heq, (poll_aside after s.futures.length).2]

/-- A call closes the run that it starts. -/
theorem Faithful.call_armed {s : Session} {events : List Event} (h : Faithful s events)
    {op : Operation} (hcall : op.isCall = true) {run : Nat} (hold : s.runs.length ≤ run)
    (hnew : run < (s.step op).1.runs.length) : .operated run .arm ∈ (s.step op).2.2 := by
  cases op with
  | checkAsync index onPass onFail =>
    simp only [step, withValidator] at hnew ⊢
    split at hnew
    · next v there =>
      exact h.scheduled_armed (openCall_moves there onPass onFail)
        (openCall_opens s index v onPass onFail) hold hnew
    · simp only at hnew
      omega
  | future index negated =>
    simp only [step, withValidator] at hnew ⊢
    split at hnew
    · next v there =>
      have hsame := startFuture_scheduled s index v negated
      rw [hsame.1] at hnew
      simp only [hsame.2]
      exact h.scheduled_armed (openFuture_moves there negated)
        (openFuture_opens s index v negated) hold hnew
    · simp only at hnew
      omega
  | _ => simp [Operation.isCall] at hcall

end FieldRules.Session
