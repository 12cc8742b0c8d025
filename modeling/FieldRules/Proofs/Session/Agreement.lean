import FieldRules.Proofs.Reference

namespace FieldRules

namespace Run

/-- A run that is not armed and has all its slots resolved. -/
def calm (slots failed : Nat) : Run :=
  { slots := List.replicate slots .resolved, resolved := slots, failed }

/-- A slot that is added to such a run and completed leaves one. -/
theorem complete_calm (slots failed : Nat) (failure : Failure) (outcome : Outcome) :
    ((calm slots failed).add failure).complete slots outcome =
      (calm (slots + 1) (failed + (!outcome.passed).toNat), failedReports failure outcome) := by
  have hwaiting : ((calm slots failed).add failure).slots[slots]? = some (.waiting failure) := by
    simp [calm, add]
  have hresolved : ((calm slots failed).add failure).slots.set slots .resolved =
      List.replicate (slots + 1) .resolved := by
    simp only [calm, add]
    rw [List.set_append_right _ _ (by simp), List.length_replicate, Nat.sub_self,
      List.replicate_succ']
    rfl
  obtain ⟨other, hother, heq⟩ | ⟨hnone, -⟩ :=
    ((calm slots failed).add failure).complete_cases slots outcome
  · obtain rfl : failure = other := by simpa [hwaiting] using hother
    have hquiet : (((calm slots failed).add failure).resolve slots outcome).fireIfDone =
        (calm (slots + 1) (failed + (!outcome.passed).toNat), []) := by
      simp only [fireIfDone, resolve, hresolved]
      rfl
    rw [heq, hquiet, List.append_nil]
  · exact absurd hwaiting (hnone failure)

/-- Such a run has its verdict as soon as it is armed. -/
theorem arm_calm (slots failed : Nat) :
    (calm slots failed).arm =
      ({ calm slots failed with armed := true, fired := true }, [.verdict (failed == 0)]) := by
  simp [arm, fireIfDone, calm]

end Run

/-- Whether the event tells a verdict. -/
def Event.isEnding : Event → Bool
  | verdict _ _ | finished _ _ => true
  | _ => false

namespace Session

/-- What the callbacks were told: the number of the call, and the verdict. -/
def told (events : List Event) : List (Nat × Bool) :=
  events.filterMap fun
    | .finished call passed => some (call, passed)
    | _ => none

section Quiet

variable {events : List Event} (h : ∀ e ∈ events, e.isEnding = false)
include h

theorem told_of_quiet (others : List Event) : told (events ++ others) = told others := by
  have hnone : told events = [] := by
    rw [told, List.filterMap_eq_nil_iff]
    intro e he
    have hquiet := h e he
    cases e <;> simp_all [Event.isEnding]
  rw [told, List.filterMap_append]
  exact congrArg (· ++ told others) hnone

theorem verdicts_of_quiet (run : Nat) (others : List Event) :
    verdicts run (events ++ others) = verdicts run others := by
  have hnone : verdicts run events = [] := by
    rw [verdicts, List.filterMap_eq_nil_iff]
    intro e he
    have hquiet := h e he
    cases e <;> simp_all [Event.isEnding, Event.verdict?]
  rw [verdicts, List.filterMap_append]
  exact congrArg (· ++ verdicts run others) hnone

end Quiet

/-- A session whose last run is of a validator and in the middle of its plan. All slots so far are
resolved, and the bag of the validator has the messages of the failures so far. -/
def underway (s : Session) (index : Nat) (plan : Plan) (listener : Listener) (context : Context)
    (rest : List Step) (run : Run) (log : List (Failure × String)) : Session :=
  { s with
    context
    validators := s.validators.modify index fun v => { v with bag := MessageBag.ofLog log }
    runs := s.runs ++ [{ validator := index, plan, pending := rest, listener, run }] }

section Underway

variable (s : Session) (index : Nat) (plan : Plan) (listener : Listener) (context : Context)
  (rest : List Step) (run : Run) (log : List (Failure × String))

theorem modify_concat_length {α : Type} (l : List α) (a : α) (f : α → α) :
    (l ++ [a]).modify l.length f = l ++ [f a] := by
  induction l with
  | nil => rfl
  | cons b rest ih => simp [ih]

/-- Doing something with the last run changes only that, before its reports are heard. -/
theorem operate_underway (operation : Run.Operation) :
    let started : StartedRun := { validator := index, plan, pending := rest, listener, run }
    let after := s.underway index plan listener context rest (run.step operation).1 log
    (s.underway index plan listener context rest run log).operate s.runs.length operation =
      ((after.hearAll s.runs.length started (run.step operation).2).1,
        .operated s.runs.length operation ::
          (after.hearAll s.runs.length started (run.step operation).2).2) := by
  intro started after
  have hs : (s.underway index plan listener context rest run log).runs[s.runs.length]? =
      some started := List.getElem?_concat_length
  have hstrike : (s.underway index plan listener context rest run log).strike s.runs.length
      operation started = after := by
    simp only [strike, modifyRun, underway, modify_concat_length]
    rfl
  rw [operate_eq _ _ operation hs, hstrike]

theorem add_underway (f : Failure) :
    (s.underway index plan listener context rest run log).operate s.runs.length (.add f) =
      (s.underway index plan listener context rest (run.add f) log,
        [.operated s.runs.length (.add f)]) :=
  operate_underway s index plan listener context rest run log (.add f)

theorem advance_underway (context' : Context) (step : Step) :
    (s.underway index plan listener context (step :: rest) run log).advance s.runs.length rest
        context' =
      s.underway index plan listener context' rest run log := by
  simp only [advance, modifyRun, underway, modify_concat_length]

variable {s index}

theorem validator_underway {v : Validator} (there : s.validators[index]? = some v) :
    (s.underway index plan listener context rest run log).validators[index]? =
      some { v with bag := MessageBag.ofLog log } := by
  simp [underway, there]

/-- A failure that is heard adds its message to the log. -/
theorem hear_underway {v : Validator} (there : s.validators[index]? = some v) (f : Failure)
    (started : StartedRun) (hstarted : started.validator = index) :
    (s.underway index plan listener context rest run log).hear s.runs.length started (.failed f) =
      (s.underway index plan listener context rest run (log ++ [(f, v.word context f)]),
        [.recorded index (some s.runs.length) f (v.word context f)]) := by
  have hv := validator_underway plan listener context rest run log there
  simp only [hear, hstarted, hv]
  refine Prod.ext ?_ rfl
  simp only [modifyValidator, underway, List.modify_modify_eq, MessageBag.ofLog_snoc]
  rfl

end Underway

/-- A rule that answers at once is asked for its judgement. -/
theorem question_judged (s : Session) (index slot : Nat) (v : Validator) (plan : Plan) {step : Step}
    {judge : Judge} (h : step.predicate.judge? = some judge) :
    s.question index slot v plan step = question.judged index slot v plan step s judge := by
  unfold question
  cases hp : step.predicate with
  | builtin rule =>
    rw [hp] at h
    rw [← Option.some.inj h]
  | custom rule =>
    rw [hp] at h
    cases rule with
    | sync other =>
      rw [← Option.some.inj h]
    | async attend => simp [Predicate.judge?] at h

/-- Asking for the judgement after the slot was added resolves the slot, and a failure goes to the
log. -/
theorem judged_underway {s : Session} {index : Nat} {v : Validator}
    (there : s.validators[index]? = some v) {judge : Judge} {accepts : Subject → Bool}
    (hanswer : Answers judge accepts) (plan : Plan) (listener : Listener) (context : Context)
    (time : Nat) (rest : List Step) (slots : Nat) (log : List (Failure × String)) (step : Step)
    (bag : MessageBag) :
    let log' := log ++ if accepts (plan.subject v.input step) then []
      else [(v.failureOf step, v.word context (v.failureOf step))]
    ∃ events,
      question.judged s.runs.length slots { v with bag } plan step
          (s.underway index plan listener (context.atTime time) rest
            ((Run.calm slots log.length).add (v.failureOf step)) log) judge =
        (s.underway index plan listener (context.atTime (time + 1)) rest
          (.calm (slots + 1) log'.length) log', events) ∧
      ∀ e ∈ events, e.isEnding = false := by
  intro log'
  have hconsult := hanswer.consult context time (plan.subject v.input step)
  have hcontext : (s.underway index plan listener (context.atTime time) rest
      ((Run.calm slots log.length).add (v.failureOf step)) log).context = context.atTime time := rfl
  have hturn : { s.underway index plan listener (context.atTime time) rest
      ((Run.calm slots log.length).add (v.failureOf step)) log with
        context := context.atTime (time + 1) } =
      s.underway index plan listener (context.atTime (time + 1)) rest
        ((Run.calm slots log.length).add (v.failureOf step)) log := rfl
  simp only [question.judged, hcontext, hconsult, hturn, operate_underway, Run.step]
  cases haccepts : accepts (plan.subject v.input step) with
  | true =>
    have hcomplete : ((Run.calm slots log.length).add (v.failureOf step)).complete slots
        (.ofBool true) = (.calm (slots + 1) log.length, []) := Run.complete_calm ..
    refine ⟨_, Prod.ext ?_ rfl, ?_⟩
    · simp [hcomplete, hearAll, log', haccepts]
    · simp [hcomplete, hearAll, Event.isEnding]
  | false =>
    have hcomplete : ((Run.calm slots log.length).add (v.failureOf step)).complete slots
        (.ofBool false) = (.calm (slots + 1) (log.length + 1), [.failed (v.failureOf step)]) :=
      Run.complete_calm ..
    have hheard := hear_underway plan listener (context.atTime (time + 1)) rest
      (.calm (slots + 1) (log.length + 1)) log there (v.failureOf step)
      { validator := index, plan, pending := rest, listener,
        run := (Run.calm slots log.length).add (v.failureOf step) } rfl
    refine ⟨_, Prod.ext ?_ rfl, ?_⟩
    · simp only [hcomplete, hearAll, inTurn_cons, inTurn_nil, hheard, log', haccepts,
        List.length_append]
      rfl
    · simp [hcomplete, hearAll, inTurn_cons, hheard, Event.isEnding]

section Pure

variable {s : Session} {index : Nat} {v : Validator} {plan : Plan} {context : Context}

/-- Asking the rule of a step adds its failure, if it is one, to the log. -/
theorem ask_underway (there : s.validators[index]? = some v) (hpure : context.registry.IsPure)
    (hpresence : plan.presence = context.registry.presence)
    (htrim : plan.trim = context.config.trim) {entry : String × Directive} {step : Step}
    (hstep : IsStep context v.rules entry step) (hsync : step.predicate.isAsync = false)
    (listener : Listener) (time : Nat) (rest : List Step) (slots : Nat)
    (log : List (Failure × String)) :
    ∃ later slots' events,
      let log' := log ++ if v.isFailing context entry then [v.failureEntry context entry] else []
      (s.underway index plan listener (context.atTime time) (step :: rest)
          (.calm slots log.length) log).ask s.runs.length =
        (s.underway index plan listener (context.atTime later) rest (.calm slots' log'.length) log',
          events) ∧
      ∀ e ∈ events, e.isEnding = false := by
  obtain ⟨judge, hjudge, hanswer⟩ := hpure.make hstep.predicate hsync
  obtain ⟨asked, happlies⟩ := Validator.applies_reference (v := v) hpure hpresence htrim hstep time
  have hs : (s.underway index plan listener (context.atTime time) (step :: rest)
      (.calm slots log.length) log).runs[s.runs.length]? = some
        { validator := index, plan, pending := step :: rest, listener,
          run := .calm slots log.length } := List.getElem?_concat_length
  have hv := validator_underway plan listener (context.atTime time) (step :: rest)
    (.calm slots log.length) log there
  rcases ask_cases (s.underway index plan listener (context.atTime time) (step :: rest)
      (.calm slots log.length) log) s.runs.length with
    ⟨-, hidle⟩ | ⟨started, step', rest', v', c, hs', hp, hv', hcase⟩
  · have hnone := hidle _ _ _ hs rfl
    rw [hv] at hnone
    exact absurd hnone (by simp)
  · obtain rfl := Option.some.inj (hs.symm.trans hs')
    obtain ⟨rfl, rfl⟩ := List.cons.inj hp
    obtain rfl := Option.some.inj (hv.symm.trans hv')
    rcases hcase with ⟨hskip, heq⟩ | ⟨hcount, heq⟩
    · obtain ⟨hinapplicable, rfl⟩ := Prod.mk.inj (happlies.symm.trans hskip)
      rw [heq, advance_underway]
      refine ⟨asked, slots, [.skipped s.runs.length step.field step.directive], ?_,
        by simp [Event.isEnding]⟩
      simp [Validator.isFailing, hinapplicable]
    · obtain ⟨happlicable, rfl⟩ := Prod.mk.inj (happlies.symm.trans hcount)
      obtain ⟨events, hjudged, hquiet⟩ :=
        judged_underway there hanswer plan listener context asked rest slots log step
          (MessageBag.ofLog log)
      have hslots : (Run.calm slots log.length).slots.length = slots := by simp [Run.calm]
      have hlog : (if context.registry.answer entry.2.name (plan.subject v.input step) then []
          else [(v.failureOf step, v.word context (v.failureOf step))]) =
          if v.isFailing context entry then [v.failureEntry context entry] else [] := by
        rw [Validator.subject_reference htrim hstep, ← Validator.failure_reference hstep context.clock,
          Validator.isFailing, happlicable]
        cases context.registry.answer entry.2.name (v.subjectOf context entry) <;> rfl
      have hfailure : { v with bag := MessageBag.ofLog log }.failureOf step = v.failureOf step := rfl
      rw [hlog] at hjudged
      rw [heq, advance_underway, hfailure, add_underway]
      simp only [hslots, question_judged _ _ _ _ _ hjudge, hjudged]
      refine ⟨asked + 1, slots + 1, _, rfl, ?_⟩
      simp only [List.singleton_append, List.forall_mem_cons]
      exact ⟨rfl, hquiet⟩

/-- Asking the rules of the steps one after the other adds their failures to the log, in order. -/
theorem askAll_underway (there : s.validators[index]? = some v) (hpure : context.registry.IsPure)
    (hpresence : plan.presence = context.registry.presence)
    (htrim : plan.trim = context.config.trim) {entries : List (String × Directive)}
    {steps : List Step} (hsteps : List.Forall₂ (IsStep context v.rules) entries steps)
    (hsync : ∀ step ∈ steps, step.predicate.isAsync = false) (listener : Listener) (time : Nat)
    (slots : Nat) (log : List (Failure × String)) :
    ∃ later slots' events,
      let log' := log ++ (entries.filter (v.isFailing context)).map (v.failureEntry context)
      (s.underway index plan listener (context.atTime time) steps
          (.calm slots log.length) log).askAll s.runs.length steps.length =
        (s.underway index plan listener (context.atTime later) [] (.calm slots' log'.length) log',
          events) ∧
      ∀ e ∈ events, e.isEnding = false := by
  induction hsteps generalizing time slots log with
  | nil => exact ⟨time, slots, [], by simp [askAll], by simp⟩
  | @cons entry step entries steps hstep _ ih =>
    obtain ⟨hfirst, hrest⟩ := List.forall_mem_cons.1 hsync
    obtain ⟨asked, slots', events, hask, hquiet⟩ :=
      ask_underway there hpure hpresence htrim hstep hfirst listener time steps slots log
    obtain ⟨later, slots'', others, hall, hothers⟩ := ih hrest asked slots'
      (log ++ if v.isFailing context entry then [v.failureEntry context entry] else [])
    have hlog : (log ++ if v.isFailing context entry then [v.failureEntry context entry] else []) ++
        (entries.filter (v.isFailing context)).map (v.failureEntry context) =
        log ++ ((entry :: entries).filter (v.isFailing context)).map (v.failureEntry context) := by
      cases hfailing : v.isFailing context entry <;> simp [hfailing]
    rw [hlog] at hall
    refine ⟨later, slots'', events ++ others, ?_, ?_⟩
    · rw [List.length_cons, askAll_succ, hask]
      simp only [hall]
    · intro e he
      exact (List.mem_append.1 he).elim (hquiet e) (hothers e)

/-- Closing the run to questions gives the verdict, whether the log is empty. -/
theorem close_underway (s : Session) (index : Nat) (plan : Plan) (listener : Listener)
    (context : Context) (slots : Nat) (log : List (Failure × String)) :
    ∃ started : StartedRun, started.verdicts = [log.isEmpty] ∧
      (s.underway index plan listener context [] (.calm slots log.length) log).close s.runs.length =
        ({ s.underway index plan listener context [] (.calm slots log.length) log with
            runs := s.runs ++ [started] },
          .operated s.runs.length .arm :: .verdict s.runs.length log.isEmpty ::
            announce listener log.isEmpty) := by
  have hs : (s.underway index plan listener context [] (.calm slots log.length) log).runs[
      s.runs.length]? = some
        { validator := index, plan, pending := [], listener, run := .calm slots log.length } :=
    List.getElem?_concat_length
  have hempty : (log.length == 0) = log.isEmpty := by cases log <;> rfl
  have hopen : (([] : List Step).isEmpty && !(Run.calm slots log.length).armed) = true := rfl
  simp only [close, hs, if_pos hopen, operate_underway, Run.step, Run.arm_calm, hempty, hearAll,
    inTurn_cons, inTurn_nil, hear, List.append_nil]
  let ended : Run := { Run.calm slots log.length with armed := true, fired := true }
  refine ⟨{ validator := index, plan, pending := [], listener, run := ended,
            verdicts := [log.isEmpty] }, rfl, Prod.ext ?_ rfl⟩
  simp only [modifyRun, underway, modify_concat_length, ended]
  rfl

theorem verdicts_announce (listener : Listener) (passed : Bool) (run : Nat) :
    verdicts run (announce listener passed) = [] := by
  cases listener with
  | callbacks call onPass onFail =>
    by_cases h : (if passed then onPass else onFail) = true <;>
      simp [announce, h, verdicts, Event.verdict?]
  | future => rfl

theorem told_announce (call : Nat) (onPass onFail passed : Bool) :
    told (announce (.callbacks call onPass onFail) passed) =
      if (if passed then onPass else onFail) then [(call, passed)] else [] := by
  by_cases h : (if passed then onPass else onFail) = true <;> simp [announce, h, told]

/-- Scheduling a run that was opened finds the failures that a synchronous run would find. -/
theorem schedule_underway (there : s.validators[index]? = some v) (hpure : s.context.registry.IsPure)
    (hready : v.IsReady s.context) (hplan : v.plan s.context = .ok plan) (listener : Listener) :
    ∃ after events, let log := v.failures s.context
      (s.underway index plan listener s.context plan.steps {} []).schedule s.runs.length =
        (after, events) ∧
      after.bagOf index = MessageBag.ofLog log ∧ after.futures = s.futures ∧
      after.runs[s.runs.length]?.bind (·.verdicts.head?) = some log.isEmpty ∧
      verdicts s.runs.length events = [log.isEmpty] ∧
      told events = told (announce listener log.isEmpty) := by
  obtain ⟨plan', hplan', hasync, hsteps, hpresence, htrim⟩ := hready.plan
  obtain rfl : plan = plan' := Except.ok.inj (hplan.symm.trans hplan')
  have hsync : ∀ step ∈ plan.steps, step.predicate.isAsync = false := by
    simpa [Plan.hasAsync] using hasync
  obtain ⟨later, slots, events, hasked, hquiet⟩ := askAll_underway there hpure hpresence htrim hsteps
    hsync listener s.context.clock 0 []
  obtain ⟨started, hverdicts, hclosed⟩ := close_underway s index plan listener
    (s.context.atTime later) slots (v.failures s.context)
  have hs : (s.underway index plan listener s.context plan.steps {} []).runs[s.runs.length]? = some
      { validator := index, plan, pending := plan.steps, listener } := List.getElem?_concat_length
  have hall : (s.underway index plan listener s.context plan.steps {} []).askAll s.runs.length
      plan.steps.length = (s.underway index plan listener (s.context.atTime later) []
        (.calm slots (v.failures s.context).length) (v.failures s.context), events) := hasked
  simp only [schedule, hs, hall, hclosed]
  refine ⟨_, _, rfl, ?_, rfl, ?_, ?_, ?_⟩
  · simp [bagOf, underway, there]
  · simp [hverdicts]
  · have hannounced := verdicts_announce listener (v.failures s.context).isEmpty s.runs.length
    rw [verdicts_of_quiet hquiet]
    simp only [verdicts, List.filterMap_cons, Event.verdict?] at hannounced ⊢
    simp [hannounced]
  · rw [told_of_quiet hquiet]
    rfl

end Pure

variable {s : Session} {index : Nat} {v : Validator}

theorem openRun_underway (s : Session) (index : Nat) {plan : Plan}
    (hplan : v.plan s.context = .ok plan) (listener : Listener) :
    s.openRun index v listener =
      .ok (s.underway index plan listener s.context plan.steps {} [],
        [.began index (some s.runs.length)]) := by
  rw [openRun, hplan]
  rfl

theorem openRun_refused (s : Session) (index : Nat) {e : RuleError}
    (hplan : v.plan s.context = .error e) (listener : Listener) :
    s.openRun index v listener = .error e := by
  rw [openRun, hplan]
  rfl

theorem openCall_underway (s : Session) (index : Nat) {plan : Plan}
    (hplan : v.plan s.context = .ok plan) (onPass onFail : Bool) :
    let counted : Session := { s with calls := s.calls + 1 }
    s.openCall index v onPass onFail =
      (counted.underway index plan (.callbacks s.calls onPass onFail) s.context plan.steps {} [],
        .number s.calls, [.began index (some s.runs.length)]) := by
  intro counted
  have hopened := openRun_underway counted index hplan (.callbacks s.calls onPass onFail)
  simp only [openCall, hopened, counted]

theorem openCall_refused (s : Session) (index : Nat) {e : RuleError}
    (hplan : v.plan s.context = .error e) (onPass onFail : Bool) :
    s.openCall index v onPass onFail = ({ s with calls := s.calls + 1 }, .refused e, []) := by
  have hopened := openRun_refused { s with calls := s.calls + 1 } index hplan
    (.callbacks s.calls onPass onFail)
  simp only [openCall, hopened]

theorem openFuture_underway (s : Session) (index : Nat) {plan : Plan}
    (hplan : v.plan s.context = .ok plan) (negated : Bool) :
    s.openFuture index v negated =
      ({ s.underway index plan .future s.context plan.steps {} [] with
          futures := s.futures ++ [.waiting s.runs.length negated] },
        .done, [.began index (some s.runs.length)]) := by
  simp only [openFuture, openRun_underway s index hplan .future]

theorem openFuture_refused (s : Session) (index : Nat) {e : RuleError}
    (hplan : v.plan s.context = .error e) (negated : Bool) :
    s.openFuture index v negated = ({ s with futures := s.futures ++ [.gone] }, .refused e, []) := by
  simp only [openFuture, openRun_refused s index hplan .future]

/-- A call is refused and counted, or its run is opened. -/
theorem openCall_cases (s : Session) (index : Nat) (v : Validator) (onPass onFail : Bool) :
    let counted : Session := { s with calls := s.calls + 1 }
    (∃ e, s.openCall index v onPass onFail = (counted, .refused e, [])) ∨
    ∃ plan, s.openCall index v onPass onFail =
      (counted.underway index plan (.callbacks s.calls onPass onFail) s.context plan.steps {} [],
        .number s.calls, [.began index (some s.runs.length)]) := by
  cases hplan : v.plan s.context with
  | error e => exact .inl ⟨e, openCall_refused s index hplan onPass onFail⟩
  | ok plan => exact .inr ⟨plan, openCall_underway s index hplan onPass onFail⟩

/-- A future is refused and counted, or its run is opened. -/
theorem openFuture_cases (s : Session) (index : Nat) (v : Validator) (negated : Bool) :
    (∃ e, s.openFuture index v negated =
      ({ s with futures := s.futures ++ [.gone] }, .refused e, [])) ∨
    ∃ plan, s.openFuture index v negated =
      ({ s.underway index plan .future s.context plan.steps {} [] with
          futures := s.futures ++ [.waiting s.runs.length negated] },
        .done, [.began index (some s.runs.length)]) := by
  cases hplan : v.plan s.context with
  | error e => exact .inl ⟨e, openFuture_refused s index hplan negated⟩
  | ok plan => exact .inr ⟨plan, openFuture_underway s index hplan negated⟩

/-- A call is a run that was opened and then scheduled. -/
theorem step_checkAsync (there : s.validators[index]? = some v) {plan : Plan}
    (hplan : v.plan s.context = .ok plan) (onPass onFail : Bool) :
    let counted : Session := { s with calls := s.calls + 1 }
    let opened := counted.underway index plan (.callbacks s.calls onPass onFail) s.context
      plan.steps {} []
    s.step (.checkAsync index onPass onFail) =
      ((opened.schedule s.runs.length).1, .number s.calls,
        .began index (some s.runs.length) :: (opened.schedule s.runs.length).2) := by
  simp only [step, withValidator, there, openCall_underway s index hplan onPass onFail, scheduled]
  rfl

theorem step_checkAsync_refused (there : s.validators[index]? = some v) {e : RuleError}
    (hplan : v.plan s.context = .error e) (onPass onFail : Bool) :
    s.step (.checkAsync index onPass onFail) =
      ({ s with calls := s.calls + 1 }, .refused e, []) := by
  have hnone : ({ s with calls := s.calls + 1 } : Session).runs[s.runs.length]? = none := by simp
  simp only [step, withValidator, there, scheduled, openCall_refused s index hplan onPass onFail,
    schedule_missing hnone]
  rfl

/-- A future is a run that was opened and then scheduled, of which the verdict is asked. -/
theorem step_future (there : s.validators[index]? = some v) {plan : Plan}
    (hplan : v.plan s.context = .ok plan) (negated : Bool) :
    let waiting : Session := { s with futures := s.futures ++ [.waiting s.runs.length negated] }
    let opened := waiting.underway index plan .future s.context plan.steps {} []
    let scheduled := (opened.schedule s.runs.length).1
    s.step (.future index negated) =
      ((scheduled.poll s.futures.length).1, (scheduled.poll s.futures.length).2,
        .began index (some s.runs.length) :: (opened.schedule s.runs.length).2) := by
  simp only [step, withValidator, there, startFuture, Session.scheduled,
    openFuture_underway s index hplan negated]
  rfl

theorem step_future_refused (there : s.validators[index]? = some v) {e : RuleError}
    (hplan : v.plan s.context = .error e) (negated : Bool) :
    s.step (.future index negated) =
      ({ s with futures := s.futures ++ [.gone] }, .refused e, []) := by
  have hnone : ({ s with futures := s.futures ++ [.gone] } : Session).runs[s.runs.length]? =
      none := by simp
  simp only [step, withValidator, there, startFuture, scheduled,
    openFuture_refused s index hplan negated, schedule_missing hnone]
  rfl

/-- A future whose run has its verdict answers with it. -/
theorem poll_of_verdict {run future : Nat} {negated passed : Bool}
    (hwaiting : s.futures[future]? = some (.waiting run negated))
    (hverdict : s.runs[run]?.bind (·.verdicts.head?) = some passed) :
    (s.poll future).2 = .bool (passed != negated) := by
  simp only [poll, hwaiting, futureAnswer, hverdict]

theorem step_fails (there : s.validators[index]? = some v) :
    (s.step (.fails index)).2.1 = ofResult ((s.check index v).2.1.map (!·)) := by
  simp only [step, withValidator, there]

section Finds

variable (there : s.validators[index]? = some v) (hpure : s.context.registry.IsPure)
  (hready : v.IsReady s.context) {plan : Plan} (hplan : v.plan s.context = .ok plan)
include there hpure hready hplan

/-- A call finds the failures that a synchronous run would find, and tells its verdict. -/
theorem checkAsync_finds (onPass onFail : Bool) :
    let called := s.step (.checkAsync index onPass onFail)
    let passed := (v.failures s.context).isEmpty
    called.1.bagOf index = MessageBag.ofLog (v.failures s.context) ∧
      called.2.1 = .number s.calls ∧ verdicts s.runs.length called.2.2 = [passed] ∧
      told called.2.2 = if (if passed then onPass else onFail) then [(s.calls, passed)] else [] := by
  intro called passed
  obtain ⟨after, events, hschedule, hbag, -, -, hverdict, htold⟩ :=
    schedule_underway (s := { s with calls := s.calls + 1 }) there hpure hready hplan
      (.callbacks s.calls onPass onFail)
  have hcalled : called =
      (after, .number s.calls, [.began index (some s.runs.length)] ++ events) := by
    simp only [called, step_checkAsync there hplan]
    rw [hschedule]
    rfl
  have hquiet : ∀ e ∈ [Event.began index (some s.runs.length)], e.isEnding = false := by
    simp [Event.isEnding]
  rw [hcalled]
  refine ⟨hbag, rfl, ?_, ?_⟩
  · rw [verdicts_of_quiet hquiet]
    exact hverdict
  · rw [told_of_quiet hquiet, htold, told_announce]

/-- A future finds these failures as well, and answers at once. -/
theorem future_finds (negated : Bool) :
    let waited := s.step (.future index negated)
    waited.1.bagOf index = MessageBag.ofLog (v.failures s.context) ∧
      waited.2.1 = .bool ((v.failures s.context).isEmpty != negated) := by
  intro waited
  obtain ⟨after, events, hschedule, hbag, hfutures, hruns, -, -⟩ :=
    schedule_underway (s := { s with futures := s.futures ++ [.waiting s.runs.length negated] })
      there hpure hready hplan .future
  have hwaited : waited = ((after.poll s.futures.length).1, (after.poll s.futures.length).2,
      .began index (some s.runs.length) :: events) := by
    simp only [waited, step_future there hplan]
    rw [hschedule]
  have hwaiting : after.futures[s.futures.length]? = some (.waiting s.runs.length negated) := by
    rw [hfutures]
    exact List.getElem?_concat_length
  rw [hwaited]
  refine ⟨?_, poll_of_verdict hwaiting hruns⟩
  rw [bagOf_congr (poll_aside after s.futures.length).1, hbag]

end Finds

/-- If the registered rules only look at their subjects and no directive has an asynchronous rule, a
run with callbacks or a future agrees with a synchronous one: it is refused with the same error, or
gives the same verdict before the call returns and leaves the same bag. -/
theorem asynchronous_run_agrees (there : s.validators[index]? = some v)
    (pure : s.context.registry.IsPure)
    (sync : ∀ entry ∈ v.rules.directives, s.context.registry.isAsync entry.2.name = false) :
    let checked := s.step (.check index)
    ∃ result : Except RuleError Bool,
      checked.2.1 = ofResult result ∧
      (result.isOk = true ↔
        ∀ entry ∈ v.rules.directives, s.context.registry.knows entry.2.name = true) ∧
      (∀ onPass onFail,
        let called := s.step (.checkAsync index onPass onFail)
        called.1.bagOf index = checked.1.bagOf index ∧
        match result with
        | .ok passed =>
          called.2.1 = .number s.calls ∧ verdicts s.runs.length called.2.2 = [passed] ∧
            told called.2.2 = if (if passed then onPass else onFail) then [(s.calls, passed)] else []
        | .error e => called.2.1 = .refused e ∧ called.2.2 = []) ∧
      ∀ negated,
        let waited := s.step (.future index negated)
        waited.1.bagOf index = checked.1.bagOf index ∧
        waited.2.1 = (s.step (if negated then .fails index else .check index)).2.1 := by
  intro checked
  cases hplan : v.plan s.context with
  | error e =>
    have hcheck : s.check index v = (s, .error e, []) := by
      rw [Session.check, Validator.check, hplan]
      rfl
    have hchecked : checked = (s, .refused e, []) := by
      simp only [checked, step, withValidator, there, hcheck, ofResult]
    refine ⟨.error e, by rw [hchecked]; rfl, ?_, ?_, ?_⟩
    · rw [← Plan.exists_make_iff]
      constructor
      · intro h
        simp [Except.isOk, Except.toBool] at h
      · intro h
        obtain ⟨plan, hother⟩ := h
        rw [Validator.plan, hother] at hplan
        cases hplan
    · intro onPass onFail
      rw [hchecked, step_checkAsync_refused there hplan]
      exact ⟨rfl, rfl, rfl⟩
    · intro negated
      rw [hchecked, step_future_refused there hplan]
      refine ⟨rfl, ?_⟩
      cases negated with
      | true => simp [step_fails there, hcheck, ofResult, Except.map]
      | false => simp [step, withValidator, there, hcheck, ofResult]
  | ok plan =>
    have hknown := (Plan.exists_make_iff s.context v.rules).1 ⟨plan, hplan⟩
    have hready : v.IsReady s.context := Validator.isReady_of_plan hplan sync
    obtain ⟨later, hcheck⟩ := Validator.check_eq pure hready
    obtain ⟨hanswer, hafter⟩ := step_check there hcheck
    have hbag : checked.1.bagOf index = MessageBag.ofLog (v.failures s.context) := by
      rw [hafter, bagOf_modifyValidator (s := { s with context := s.context.atTime later }) there,
        if_pos rfl]
    refine ⟨.ok (v.failures s.context).isEmpty, hanswer, ⟨fun _ => hknown, fun _ => rfl⟩, ?_, ?_⟩
    · intro onPass onFail called
      obtain ⟨hcalledBag, htold⟩ := checkAsync_finds there pure hready hplan onPass onFail
      exact ⟨hcalledBag.trans hbag.symm, htold⟩
    · intro negated waited
      obtain ⟨hwaitedBag, hwaited⟩ := future_finds there pure hready hplan negated
      refine ⟨hwaitedBag.trans hbag.symm, hwaited.trans ?_⟩
      cases negated with
      | true => simp [step_fails there, Session.check, hcheck, ofResult, Except.map]
      | false => simp [hanswer]

/-- Two directives fail in a session with one validator: of two callbacks the second is told so, and
the negated future answers that some directive fails. -/
theorem asynchronous_run_agrees_given :
    let s : Session := { context := givenContext, validators := [givenValidator] }
    s.context.registry.IsPure ∧
      (∀ entry ∈ givenValidator.rules.directives, s.context.registry.isAsync entry.2.name = false) ∧
      told (s.step (.checkAsync 0 true true)).2.2 = [(0, false)] ∧
      (s.step (.future 0 true)).2.1 = .bool true ∧
      (s.step (.checkAsync 0 true true)).1.bagOf 0 = (s.step (.check 0)).1.bagOf 0 := by
  intro s
  have pure : s.context.registry.IsPure :=
    Registry.IsPure.register (Registry.judges_initial _) "given" _ false
  have sync : ∀ entry ∈ givenValidator.rules.directives,
      s.context.registry.isAsync entry.2.name = false := by decide +kernel
  obtain ⟨result, hchecked, -, hcalled, hwaited⟩ :=
    @asynchronous_run_agrees s 0 givenValidator rfl pure sync
  have hanswer : (s.step (.check 0)).2.1 = .bool false := by decide +kernel
  have hfails : (s.step (.fails 0)).2.1 = .bool true := by decide +kernel
  obtain ⟨hbag, htold⟩ := hcalled true true
  cases result with
  | error e => simp [hanswer, ofResult] at hchecked
  | ok passed =>
    obtain rfl : false = passed := by simpa [hanswer, ofResult] using hchecked
    exact ⟨pure, sync, htold.2.2, (hwaited true).2.trans hfails, hbag⟩

end Session

end FieldRules
