import FieldRules.Proofs.Session.Parts
import FieldRules.Proofs.Session.Stroke

namespace FieldRules.Session

/-- The session with other futures. -/
def withFutures (s : Session) (futures : List FutureState) : Session := { s with futures }

section Frame

variable (s : Session) (futures : List FutureState)

theorem hear_withFutures (index : Nat) (started : StartedRun) (report : Run.Report) :
    (s.withFutures futures).hear index started report =
      ((s.hear index started report).1.withFutures futures, (s.hear index started report).2) := by
  cases report with
  | failed f =>
    have hvalidators : (s.withFutures futures).validators = s.validators := rfl
    simp only [hear, hvalidators]
    cases s.validators[started.validator]? <;> rfl
  | verdict passed => rfl

theorem hearAll_withFutures (index : Nat) (started : StartedRun) (told : List Run.Report) :
    (s.withFutures futures).hearAll index started told =
      ((s.hearAll index started told).1.withFutures futures, (s.hearAll index started told).2) := by
  apply inTurn_comm (g := fun s : Session => s.withFutures futures)
  intro s report _
  exact hear_withFutures s futures index started report

theorem operate_withFutures (index : Nat) (operation : Run.Operation) :
    (s.withFutures futures).operate index operation =
      ((s.operate index operation).1.withFutures futures, (s.operate index operation).2) := by
  cases hs : s.runs[index]? with
  | none =>
    rw [operate_missing s index operation hs]
    exact operate_missing (s.withFutures futures) index operation hs
  | some started =>
    have hstrike : (s.withFutures futures).strike index operation started =
        (s.strike index operation started).withFutures futures := rfl
    rw [operate_eq s index operation hs,
      operate_eq (s.withFutures futures) index operation hs, hstrike, hearAll_withFutures]

theorem completeAll_withFutures (index slot : Nat) (outcomes : List Outcome) :
    (s.withFutures futures).completeAll index slot outcomes =
      ((s.completeAll index slot outcomes).1.withFutures futures,
        (s.completeAll index slot outcomes).2) := by
  apply inTurn_comm (g := fun s : Session => s.withFutures futures)
  intro s outcome _
  exact operate_withFutures s futures index (.complete slot outcome)

theorem judged_withFutures (index slot : Nat) (v : Validator) (plan : Plan) (step : Step)
    (judge : Judge) :
    question.judged index slot v plan step (s.withFutures futures) judge =
      ((question.judged index slot v plan step s judge).1.withFutures futures,
        (question.judged index slot v plan step s judge).2) := by
  unfold question.judged
  have hcontext : (s.withFutures futures).context = s.context := rfl
  rw [hcontext]
  obtain ⟨accepted, context⟩ := s.context.consult judge (plan.subject v.input step)
  have hasked := operate_withFutures { s with context } futures index
    (.complete slot (.ofBool accepted))
  exact congrArg (fun r : Session × List Event => (r.1, .judged index slot accepted :: r.2)) hasked

theorem question_withFutures (index slot : Nat) (v : Validator) (plan : Plan) (step : Step) :
    (s.withFutures futures).question index slot v plan step =
      ((s.question index slot v plan step).1.withFutures futures,
        (s.question index slot v plan step).2) := by
  unfold question
  split
  · next attend _ =>
    let conduct := attend s.context.clock (plan.subject v.input step)
    have hcompleted := completeAll_withFutures { s with
      context := s.context.tick
      handles := s.handles ++ List.replicate conduct.kept (⟨index, slot, true⟩ : Handle) } futures
      index slot conduct.outcomes
    exact congrArg (fun r : Session × List Event =>
      (r.1, .called index slot step.directive.name step.field :: r.2)) hcompleted
  · exact judged_withFutures s futures index slot v plan step _
  · exact judged_withFutures s futures index slot v plan step _

theorem ask_withFutures (index : Nat) :
    (s.withFutures futures).ask index =
      ((s.ask index).1.withFutures futures, (s.ask index).2) := by
  rcases ask_cases s index with ⟨heq, hidle⟩ | ⟨started, step, rest, v, context, hs, hp, hv, hcase⟩
  · rcases ask_cases (s.withFutures futures) index with ⟨heq', -⟩ | ⟨_, _, _, _, _, hs, hp, hv, -⟩
    · rw [heq, heq']
    · cases (hidle _ _ _ hs hp).symm.trans hv
  · rcases ask_cases (s.withFutures futures) index with
      ⟨-, hidle⟩ | ⟨started', step', rest', v', context', hs', hp', hv', hcase'⟩
    · cases (hidle _ _ _ hs hp).symm.trans hv
    · obtain rfl : started = started' := Option.some.inj (hs.symm.trans hs')
      obtain ⟨rfl, rfl⟩ := List.cons.inj (hp.symm.trans hp')
      obtain rfl : v = v' := Option.some.inj (hv.symm.trans hv')
      have hadvance : (s.withFutures futures).advance index rest context' =
          (s.advance index rest context').withFutures futures := rfl
      rcases hcase with ⟨happlies, heq⟩ | ⟨happlies, heq⟩ <;>
        rcases hcase' with ⟨happlies', heq'⟩ | ⟨happlies', heq'⟩ <;>
        obtain ⟨ha, rfl⟩ := Prod.mk.inj (happlies.symm.trans happlies')
      · rw [heq, heq', hadvance]
      · simp at ha
      · simp at ha
      · rw [heq, heq', hadvance]
        simp only [operate_withFutures, question_withFutures]

theorem askAll_withFutures (index count : Nat) :
    (s.withFutures futures).askAll index count =
      ((s.askAll index count).1.withFutures futures, (s.askAll index count).2) := by
  apply inTurn_comm (g := fun s : Session => s.withFutures futures)
  intro s index _
  exact ask_withFutures s futures index

theorem close_withFutures (index : Nat) :
    (s.withFutures futures).close index =
      ((s.close index).1.withFutures futures, (s.close index).2) := by
  have hruns : (s.withFutures futures).runs = s.runs := rfl
  simp only [close, hruns]
  cases s.runs[index]? with
  | none => rfl
  | some started =>
    simp only [operate_withFutures]
    split <;> rfl

theorem schedule_withFutures (index : Nat) :
    (s.withFutures futures).schedule index =
      ((s.schedule index).1.withFutures futures, (s.schedule index).2) := by
  have hruns : (s.withFutures futures).runs = s.runs := rfl
  simp only [schedule, hruns, askAll_withFutures, close_withFutures]

end Frame

theorem futures_of_withFutures {s : Session} {done : Session × List Event}
    (h : done = (done.1.withFutures s.futures, done.2)) : done.1.futures = s.futures := by
  rw [h]
  rfl

section Futures

variable (s : Session) (index : Nat)

theorem futures_operate (operation : Run.Operation) :
    (s.operate index operation).1.futures = s.futures :=
  futures_of_withFutures (operate_withFutures s s.futures index operation)

theorem futures_ask : (s.ask index).1.futures = s.futures :=
  futures_of_withFutures (ask_withFutures s s.futures index)

theorem futures_close : (s.close index).1.futures = s.futures :=
  futures_of_withFutures (close_withFutures s s.futures index)

theorem futures_schedule : (s.schedule index).1.futures = s.futures :=
  futures_of_withFutures (schedule_withFutures s s.futures index)

end Futures

/-- The sessions differ by their futures at most. -/
def Alike (s s' : Session) : Prop := ∃ futures, s' = s.withFutures futures

theorem Alike.refl (s : Session) : Alike s s := ⟨s.futures, rfl⟩

theorem Alike.symm {s s' : Session} (h : Alike s s') : Alike s' s := by
  obtain ⟨futures, rfl⟩ := h
  exact ⟨s.futures, rfl⟩

theorem Alike.trans {s s' s'' : Session} (h : Alike s s') (h' : Alike s' s'') : Alike s s'' := by
  obtain ⟨futures, rfl⟩ := h
  obtain ⟨others, rfl⟩ := h'
  exact ⟨others, rfl⟩

/-- The same happened, and the sessions after it differ by their futures at most. -/
def Agree (first second : Session × Answer × List Event) : Prop :=
  Alike first.1 second.1 ∧ second.2.2 = first.2.2

theorem poll_alike (s : Session) (future : Nat) : Alike s (s.poll future).1 := poll_futures s future

theorem Alike.withValidator {s s' : Session} (h : Alike s s') {index : Nat}
    {act act' : Validator → Session × Answer × List Event} (hact : ∀ v, Agree (act v) (act' v)) :
    Agree (s.withValidator index act) (s'.withValidator index act') := by
  obtain ⟨futures, rfl⟩ := h
  have hvalidators : (s.withFutures futures).validators = s.validators := rfl
  simp only [Session.withValidator, hvalidators]
  cases s.validators[index]? with
  | none => exact ⟨⟨futures, rfl⟩, rfl⟩
  | some v => exact hact v

theorem Alike.scheduled {s s' : Session} (h : Alike s s')
    {opened opened' : Session × Answer × List Event} (hopened : Agree opened opened') :
    Agree (s.scheduled opened) (s'.scheduled opened') := by
  obtain ⟨futures, rfl⟩ := h
  obtain ⟨⟨others, hafter⟩, hevents⟩ := hopened
  have hlength : (s.withFutures futures).runs.length = s.runs.length := rfl
  have hschedule := schedule_withFutures opened.1 others s.runs.length
  rw [← hafter] at hschedule
  simp only [Agree, Session.scheduled, hlength, hschedule, hevents]
  exact ⟨⟨others, rfl⟩, trivial⟩

section Calls

variable {s s' : Session} (h : Alike s s') (index : Nat) (v : Validator)
include h

theorem Alike.openCall (onPass onFail : Bool) :
    Agree (s.openCall index v onPass onFail) (s'.openCall index v onPass onFail) := by
  obtain ⟨futures, rfl⟩ := h
  have hplan : v.plan (s.withFutures futures).context = v.plan s.context := rfl
  simp only [Session.openCall, openRun, hplan]
  cases v.plan s.context with
  | error e => exact ⟨⟨futures, rfl⟩, rfl⟩
  | ok plan => exact ⟨⟨futures, rfl⟩, rfl⟩

/-- What a future was made for is seen in the future only. -/
theorem Alike.openFuture (negated negated' : Bool) :
    Agree (s.openFuture index v negated) (s'.openFuture index v negated') := by
  obtain ⟨futures, rfl⟩ := h
  have hplan : v.plan (s.withFutures futures).context = v.plan s.context := rfl
  simp only [Session.openFuture, openRun, hplan]
  cases v.plan s.context with
  | error e => exact ⟨⟨_, rfl⟩, rfl⟩
  | ok plan => exact ⟨⟨_, rfl⟩, rfl⟩

theorem Alike.startFuture (negated negated' : Bool) :
    Agree (s.startFuture index v negated) (s'.startFuture index v negated') := by
  have hscheduled := h.scheduled (h.openFuture index v negated negated')
  obtain ⟨hafter, hevents⟩ := startFuture_eq s index v negated
  obtain ⟨hafter', hevents'⟩ := startFuture_eq s' index v negated'
  rw [Agree, hafter, hafter', hevents, hevents']
  have hpolled := hscheduled.1.trans (poll_alike _ s'.futures.length)
  exact ⟨(poll_alike _ _).symm.trans hpolled, hscheduled.2⟩

end Calls

/-- An operation does the same to sessions that differ by their futures. -/
theorem Alike.step {s s' : Session} (h : Alike s s') (op : Operation) :
    Agree (s.step op) (s'.step op) := by
  cases op with
  | checkAsync index onPass onFail =>
    exact h.withValidator fun v => h.scheduled (h.openCall index v onPass onFail)
  | future index negated => exact h.withValidator fun v => h.startFuture index v negated negated
  | openCall index onPass onFail => exact h.withValidator fun v => h.openCall index v onPass onFail
  | openFuture index negated => exact h.withValidator fun v => h.openFuture index v negated negated
  | poll future =>
    have hpolled := h.trans (poll_alike s' future)
    exact ⟨(poll_alike s future).symm.trans hpolled, rfl⟩
  | dropFuture future =>
    obtain ⟨futures, rfl⟩ := h
    exact ⟨⟨_, rfl⟩, rfl⟩
  | ask run =>
    obtain ⟨futures, rfl⟩ := h
    simp only [Agree, Session.step, ask_withFutures]
    exact ⟨⟨futures, rfl⟩, trivial⟩
  | close run =>
    obtain ⟨futures, rfl⟩ := h
    simp only [Agree, Session.step, close_withFutures]
    exact ⟨⟨futures, rfl⟩, trivial⟩
  | complete handle outcome =>
    obtain ⟨futures, rfl⟩ := h
    have hhandles : (s.withFutures futures).handles = s.handles := rfl
    simp only [Agree, Session.step, complete, hhandles]
    split
    · rw [operate_withFutures]
      exact ⟨⟨futures, rfl⟩, rfl⟩
    · exact ⟨⟨futures, rfl⟩, rfl⟩
  | create input rules messages =>
    obtain ⟨futures, rfl⟩ := h
    have hcontext : (s.withFutures futures).context = s.context := rfl
    simp only [Agree, Session.step, hcontext]
    split <;> exact ⟨⟨futures, rfl⟩, rfl⟩
  | hasAsync index => exact h.withValidator fun v => ⟨h, rfl⟩
  | check index | fails index =>
    apply h.withValidator
    intro v
    obtain ⟨futures, rfl⟩ := h
    have hcontext : (s.withFutures futures).context = s.context := rfl
    simp only [Session.check, hcontext]
    split <;> exact ⟨⟨futures, rfl⟩, rfl⟩
  | _ =>
    obtain ⟨futures, rfl⟩ := h
    exact ⟨⟨futures, rfl⟩, rfl⟩

end FieldRules.Session
