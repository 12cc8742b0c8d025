import FieldRules.Proofs.Session.Akin
import FieldRules.Proofs.Session.Handles

namespace FieldRules.Session

variable {way : Leeway} {s s' : Session}

section Ask

variable (h : s.Akin way s')
include h

theorem Akin.judged (index slot : Nat) {v v' : Validator} {plan plan' : Plan} {step step' : Step}
    (hsubject : plan'.subject v'.input step' = plan.subject v.input step) {judge judge' : Judge}
    (judges : JudgesAkin way judge judge') :
    Done way (question.judged index slot v plan step s judge)
      (question.judged index slot v' plan' step' s' judge') := by
  obtain ⟨haccepted, hcontext⟩ := h.context.consult judges (plan.subject v.input step)
  simp only [question.judged, hsubject, haccepted]
  exact ((h.withContext hcontext).operate index (.refl _)).cons (.refl _)

theorem Akin.question (index slot : Nat) {v v' : Validator} (hv : v.Akin way v')
    {plan plan' : Plan} (hplan : plan.Akin way plan') {step step' : Step}
    (hstep : step.Akin way step') :
    Done way (s.question index slot v plan step) (s'.question index slot v' plan' step') := by
  have hsubject : plan'.subject v'.input step' = plan.subject v.input step := by
    rw [hv.input, hplan.subject hstep]
  obtain ⟨judge, judge', hjudge, hjudge', judges⟩ | ⟨attend, attend', hattend, hattend', hakin⟩ :=
    hstep.predicate.cases
  · rw [question_judged _ _ _ _ _ hjudge, question_judged _ _ _ _ _ hjudge']
    exact h.judged index slot hsubject judges
  · simp only [Session.question, hattend, hattend', hsubject, h.context.clock, hakin.kept, h.handles,
      hstep.directive, hstep.field]
    have hcalled : Akin way
        { s with
          context := s.context.tick
          handles := s.handles ++ List.replicate
            (attend s.context.clock (plan.subject v.input step)).kept (⟨index, slot, true⟩ : Handle) }
        { s' with
          context := s'.context.tick
          handles := s.handles ++ List.replicate
            (attend s.context.clock (plan.subject v.input step)).kept
              (⟨index, slot, true⟩ : Handle) } :=
      ⟨h.context.tick, h.validators, h.runs, rfl, h.futures, h.calls⟩
    exact (hcalled.completeAll index slot (hakin.outcomes _ _)).cons (.refl _)

theorem Akin.advance (index : Nat) {rest rest' : List Step}
    (hrest : List.Forall₂ (Step.Akin way) rest rest') {c c' : Context}
    (hc : Context.Akin way c c') :
    Akin way (s.advance index rest c) (s'.advance index rest' c') := by
  refine (h.modifyRun index fun r r' hr => ?_).withContext hc
  exact ⟨hr.validator, hr.plan, hrest, hr.listener, hr.run, hr.verdicts⟩

omit h in
/-- A run without its validator is left alone. -/
theorem ask_missing {index : Nat} {started : StartedRun} (hs : s.runs[index]? = some started)
    (hgone : s.validators[started.validator]? = none) : s.ask index = (s, []) := by
  rcases ask_cases s index with ⟨heq, -⟩ | ⟨other, _, _, v, _, hother, -, hv, -⟩
  · exact heq
  · obtain rfl : started = other := Option.some.inj (hs.symm.trans hother)
    simp [hgone] at hv

omit h in
/-- What becomes of the next step of a run. -/
theorem ask_next {index : Nat} {started : StartedRun} {step : Step} {rest : List Step}
    {v : Validator} (hs : s.runs[index]? = some started) (hp : started.pending = step :: rest)
    (hv : s.validators[started.validator]? = some v) :
    let asked := started.plan.applies v.input s.context step
    let turned := s.advance index rest asked.2
    let added := turned.operate index (.add (v.failureOf step))
    let after := added.1.question index started.run.slots.length v started.plan step
    s.ask index = if asked.1 then (after.1, added.2 ++ after.2)
      else (turned, [.skipped index step.field step.directive]) := by
  simp only [Session.ask, hs, hp, hv]
  rfl

/-- The next rule of a run is asked alike. -/
theorem Akin.ask (index : Nat) : Done way (s.ask index) (s'.ask index) := by
  obtain ⟨hnone, hnone'⟩ | ⟨started, started', hs, hs', hstarted⟩ := forall₂_getElem? h.runs index
  · simp only [Session.ask, hnone, hnone']
    exact .idle h
  obtain ⟨hgone, hgone'⟩ | ⟨v, v', hv, hv', hakin⟩ :=
    forall₂_getElem? h.validators started.validator
  · rw [ask_missing hs hgone, ask_missing hs' (hstarted.validator ▸ hgone')]
    exact .idle h
  have hpending := hstarted.pending
  cases hp : started.pending with
  | nil =>
    rw [hp, List.forall₂_nil_left_iff] at hpending
    simp only [Session.ask, hs, hs', hp, hpending]
    exact .idle h
  | cons step rest =>
    rw [hp, List.forall₂_cons_left_iff] at hpending
    obtain ⟨step', rest', hstep, hrest, hp'⟩ := hpending
    obtain ⟨hcounts, hcontext⟩ := hstarted.plan.applies hstep h.context v.input
    have hadvanced := h.advance index hrest hcontext
    rw [ask_next hs hp hv, ask_next hs' hp' (hstarted.validator ▸ hv')]
    simp only [hakin.input, hcounts, hstarted.run, hakin.failureOf hstep, hstep.field,
      hstep.directive]
    split
    · have hadded := hadvanced.operate index (.refl (.add (v.failureOf step)))
      exact hadded.append (hadded.akin.question index _ hakin hstarted.plan hstep)
    · exact ⟨hadvanced, .cons (.refl _) .nil⟩

theorem Akin.askAll (index count : Nat) : Done way (s.askAll index count) (s'.askAll index count) := by
  induction count generalizing s s' with
  | zero => exact .idle h
  | succ count ih =>
    have hasked := h.ask index
    exact hasked.append (ih hasked.akin)

theorem Akin.close (index : Nat) : Done way (s.close index) (s'.close index) := by
  obtain ⟨hnone, hnone'⟩ | ⟨started, started', hs, hs', hstarted⟩ := forall₂_getElem? h.runs index
  · simp only [Session.close, hnone, hnone']
    exact .idle h
  · have hempty : started'.pending.isEmpty = started.pending.isEmpty := by
      rw [Bool.eq_iff_iff, List.isEmpty_iff, List.isEmpty_iff, ← List.length_eq_zero_iff,
        ← List.length_eq_zero_iff, hstarted.pending.length_eq]
    simp only [Session.close, hs, hs', hempty, hstarted.run]
    split
    · exact h.operate index (.refl _)
    · exact .idle h

theorem Akin.schedule (index : Nat) : Done way (s.schedule index) (s'.schedule index) := by
  have hcount (count : Nat) : Done way
      (((s.askAll index count).1.close index).1,
        (s.askAll index count).2 ++ ((s.askAll index count).1.close index).2)
      (((s'.askAll index count).1.close index).1,
        (s'.askAll index count).2 ++ ((s'.askAll index count).1.close index).2) :=
    (h.askAll index count).append ((h.askAll index count).akin.close index)
  obtain ⟨hnone, hnone'⟩ | ⟨started, started', hs, hs', hstarted⟩ := forall₂_getElem? h.runs index
  · simp only [Session.schedule, hnone, hnone']
    exact hcount 0
  · simp only [Session.schedule, hs, hs', ← hstarted.pending.length_eq]
    exact hcount started.pending.length

end Ask

/-- The same answer, and the same happened. -/
structure Answered (way : Leeway) (result result' : Session × Answer × List Event) : Prop where
  answer : result'.2.1 = result.2.1
  done : Done way (result.1, result.2.2) (result'.1, result'.2.2)

theorem Done.answered {done done' : Session × List Event} (h : Done way done done')
    (answer : Answer) : Answered way (done.1, answer, done.2) (done'.1, answer, done'.2) :=
  ⟨rfl, h⟩

section Call

variable (h : s.Akin way s')
include h

theorem Akin.withValidator (index : Nat) {act act' : Validator → Session × Answer × List Event}
    (hact : ∀ v v', v.Akin way v' → Answered way (act v) (act' v')) :
    Answered way (s.withValidator index act) (s'.withValidator index act') := by
  obtain ⟨hnone, hnone'⟩ | ⟨v, v', hv, hv', hakin⟩ := forall₂_getElem? h.validators index
  · simp only [Session.withValidator, hnone, hnone']
    exact (Done.idle h).answered _
  · simp only [Session.withValidator, hv, hv']
    exact hact v v' hakin

theorem Akin.length_runs : s'.runs.length = s.runs.length := h.runs.length_eq.symm

theorem Akin.openRun (index : Nat) {v v' : Validator} (hv : v.Akin way v') (listener : Listener) :
    Agreed (Done way) (s.openRun index v listener) (s'.openRun index v' listener) := by
  unfold Session.openRun Validator.plan
  rw [hv.rules, h.length_runs]
  refine (h.context.makePlan v.rules).bind fun plan plan' hplan => .ok ⟨?_, .cons (.refl _) .nil⟩
  have hclear (w w' : Validator) (hw : w.Akin way w') : w.clear.Akin way w'.clear :=
    ⟨hw.input, hw.rules, hw.wording, rfl⟩
  have hcleared := h.modifyValidator index hclear
  exact ⟨hcleared.context, hcleared.validators,
    List.rel_append h.runs (.cons ⟨rfl, hplan, hplan.steps, rfl, rfl, rfl⟩ .nil), h.handles,
    h.futures, h.calls⟩

theorem Akin.check (index : Nat) {v v' : Validator} (hv : v.Akin way v') :
    (s'.check index v').2.1 = (s.check index v).2.1 ∧
      Done way ((s.check index v).1, (s.check index v).2.2)
        ((s'.check index v').1, (s'.check index v').2.2) := by
  have hcheck := hv.check h.context
  unfold Session.check
  generalize v.check s.context = result, v'.check s'.context = result' at hcheck ⊢
  cases hcheck with
  | error e => exact ⟨rfl, .idle h⟩
  | @ok result result' hakin =>
    obtain ⟨passed, scene⟩ := result
    obtain ⟨passed', scene'⟩ := result'
    obtain ⟨hpassed, hscene⟩ := hakin
    obtain rfl : passed' = passed := hpassed
    refine ⟨rfl, ?_, .cons (.refl _) ?_⟩
    · exact (h.withContext hscene.context).modifyValidator index fun w w' hw =>
        ⟨hw.input, hw.rules, hw.wording, hscene.shape⟩
    · rw [List.forall₂_map_left_iff, List.forall₂_map_right_iff]
      exact hscene.log.imp fun _ _ htold => .recorded index none htold

theorem Akin.scheduled {opened opened' : Session × Answer × List Event}
    (hopened : Answered way opened opened') :
    Answered way (s.scheduled opened) (s'.scheduled opened') := by
  simp only [Session.scheduled, h.length_runs, hopened.answer]
  exact ⟨rfl, hopened.done.append (hopened.done.akin.schedule _)⟩

theorem Akin.openCall (index : Nat) {v v' : Validator} (hv : v.Akin way v') (onPass onFail : Bool) :
    Answered way (s.openCall index v onPass onFail) (s'.openCall index v' onPass onFail) := by
  have hcounted : Akin way { s with calls := s.calls + 1 } { s' with calls := s.calls + 1 } :=
    ⟨h.context, h.validators, h.runs, h.handles, h.futures, rfl⟩
  have hopened := hcounted.openRun index hv (.callbacks s.calls onPass onFail)
  simp only [Session.openCall, h.calls]
  generalize Session.openRun { s with calls := s.calls + 1 } index v
    (.callbacks s.calls onPass onFail) = opened, Session.openRun { s' with calls := s.calls + 1 }
      index v' (.callbacks s.calls onPass onFail) = opened' at hopened ⊢
  cases hopened with
  | error e => exact (Done.idle hcounted).answered _
  | ok hdone => exact hdone.answered _

theorem Akin.openFuture (index : Nat) {v v' : Validator} (hv : v.Akin way v') (negated : Bool) :
    Answered way (s.openFuture index v negated) (s'.openFuture index v' negated) := by
  have hopened := h.openRun index hv .future
  simp only [Session.openFuture, h.futures, h.length_runs]
  generalize s.openRun index v .future = opened, s'.openRun index v' .future = opened' at hopened ⊢
  cases hopened with
  | error e =>
    exact ⟨rfl, ⟨h.context, h.validators, h.runs, h.handles, rfl, h.calls⟩, .nil⟩
  | @ok opened opened' hdone =>
    have hakin := hdone.akin
    exact ⟨rfl, ⟨hakin.context, hakin.validators, hakin.runs, hakin.handles, rfl, hakin.calls⟩,
      hdone.events⟩

/-- A future is asked alike. -/
theorem Akin.poll (future : Nat) :
    (s'.poll future).2 = (s.poll future).2 ∧ (s.poll future).1.Akin way (s'.poll future).1 := by
  have hverdict (run : Nat) :
      s'.runs[run]?.bind (·.verdicts.head?) = s.runs[run]?.bind (·.verdicts.head?) := by
    obtain ⟨hnone, hnone'⟩ | ⟨started, started', hs, hs', hstarted⟩ := forall₂_getElem? h.runs run
    · rw [hnone, hnone']
    · rw [hs, hs', Option.bind_some, Option.bind_some, hstarted.verdicts]
  have hanswer (run : Nat) (negated : Bool) :
      s'.futureAnswer run negated = s.futureAnswer run negated := by
    unfold futureAnswer isHeld
    rw [hverdict, h.handles]
  have hgone : Akin way { s with futures := s.futures.set future .gone }
      { s' with futures := s.futures.set future .gone } :=
    ⟨h.context, h.validators, h.runs, h.handles, rfl, h.calls⟩
  unfold Session.poll
  rw [h.futures]
  cases s.futures[future]? with
  | none => exact ⟨rfl, h⟩
  | some state =>
    cases state with
    | gone => exact ⟨rfl, h⟩
    | waiting run negated =>
      simp only [hanswer]
      cases s.futureAnswer run negated with
      | pending => exact ⟨rfl, h⟩
      | _ => exact ⟨rfl, hgone⟩

theorem Akin.startFuture (index : Nat) {v v' : Validator} (hv : v.Akin way v') (negated : Bool) :
    Answered way (s.startFuture index v negated) (s'.startFuture index v' negated) := by
  have hscheduled := h.scheduled (h.openFuture index hv negated)
  unfold Session.startFuture
  rw [h.futures]
  generalize s.scheduled (s.openFuture index v negated) = first,
    s'.scheduled (s'.openFuture index v' negated) = first' at hscheduled ⊢
  obtain ⟨after, answer, events⟩ := first
  obtain ⟨after', answer', events'⟩ := first'
  obtain rfl : answer' = answer := hscheduled.answer
  have hpolled := hscheduled.done.akin.poll s.futures.length
  cases answer' with
  | refused e => exact hscheduled
  | _ => exact ⟨hpolled.1, hpolled.2, hscheduled.done.events⟩

theorem Akin.complete (handle : Nat) {outcome outcome' : Outcome}
    (houtcome : outcome.Akin way outcome') :
    Done way (s.complete handle outcome) (s'.complete handle outcome') := by
  unfold Session.complete
  rw [h.handles]
  split
  · exact h.operate _ (.complete _ houtcome)
  · exact .idle h

theorem Akin.modifyWording (index : Nat) {f f' : Wording → Wording}
    (hf : ∀ w w', way.Same w w' → way.Same (f w) (f' w')) :
    Akin way (s.modifyWording index f) (s'.modifyWording index f') :=
  h.modifyValidator index fun _ _ hv => ⟨hv.input, hv.rules, hf _ _ hv.wording, hv.shape⟩

end Call

/-- Whether an operation hands nothing on that messages are made of. -/
def Operation.isPlain : Operation → Bool
  | .register _ _ _ _ | .setLanguage _ | .addLanguage _ _ | .setConfig _ | .create _ _ _
  | .setCustom _ _ | .setNames _ _ | .setFormatter _ _ | .pinLanguage _ _ | .complete _ _ => false
  | _ => true

/-- The same operation, with other things that messages are made of. -/
inductive Operation.Akin (way : Leeway) : Operation → Operation → Prop where
  | plain (op : Operation) (h : op.isPlain = true) : Akin way op op
  | register (name : String) {rule rule' : CustomRule} (akin : rule.Akin way rule')
      (implicit : Bool) {message message' : String} (same : way.Same message message') :
      Akin way (.register name rule implicit message) (.register name rule' implicit message')
  | setLanguage {language language' : String} (same : way.Same language language') :
      Akin way (.setLanguage language) (.setLanguage language')
  | addLanguage {language language' : String} {templates templates' : List (String × String)}
      (same : way.Same language language') (same' : way.Same templates templates') :
      Akin way (.addLanguage language templates) (.addLanguage language' templates')
  | setConfig {config config' : Config} (same : way.Same config.language config'.language)
      (trim : config'.trim = config.trim) : Akin way (.setConfig config) (.setConfig config')
  | create (input : Json) (rules : RawRules) {messages messages' : List (String × String)}
      (same : way.Same messages messages') :
      Akin way (.create input rules messages) (.create input rules messages')
  | setCustom (index : Nat) {messages messages' : List (String × String)}
      (same : way.Same messages messages') :
      Akin way (.setCustom index messages) (.setCustom index messages')
  | setNames (index : Nat) {names names' : List (String × String)} (same : way.Same names names') :
      Akin way (.setNames index names) (.setNames index names')
  | setFormatter (index : Nat) {formatter formatter' : String → String}
      (same : way.Same formatter formatter') :
      Akin way (.setFormatter index formatter) (.setFormatter index formatter')
  | pinLanguage (index : Nat) {language language' : String} (same : way.Same language language') :
      Akin way (.pinLanguage index language) (.pinLanguage index language')
  | complete (handle : Nat) {outcome outcome' : Outcome} (akin : outcome.Akin way outcome') :
      Akin way (.complete handle outcome) (.complete handle outcome')

theorem Operation.Akin.refl (op : Operation) : op.Akin way op := by
  cases op with
  | register name rule implicit message => exact .register name (.refl _) implicit (.refl _)
  | setLanguage => exact .setLanguage (.refl _)
  | addLanguage => exact .addLanguage (.refl _) (.refl _)
  | setConfig => exact .setConfig (.refl _) rfl
  | create => exact .create _ _ (.refl _)
  | setCustom => exact .setCustom _ (.refl _)
  | setNames => exact .setNames _ (.refl _)
  | setFormatter => exact .setFormatter _ (.refl _)
  | pinLanguage => exact .pinLanguage _ (.refl _)
  | complete => exact .complete _ (.refl _)
  | _ => exact .plain _ rfl

section Step

variable (h : s.Akin way s')
include h

theorem Akin.step_plain {op : Operation} (plain : op.isPlain = true) :
    Answered way (s.step op) (s'.step op) := by
  cases op with
  | unregister name =>
    simp only [Session.step, h.context.registry.contains name]
    exact ⟨rfl, h.withContext (h.context.unregister name), .nil⟩
  | reset => exact ⟨rfl, h.withContext h.context.reset, .nil⟩
  | hasAsync index =>
    refine h.withValidator index fun v v' hv => ?_
    have hplan := h.context.makePlan v.rules
    unfold Validator.hasAsync Validator.plan
    rw [hv.rules]
    generalize Plan.make s.context v.rules = plan, Plan.make s'.context v.rules = plan' at hplan ⊢
    cases hplan with
    | error e => exact (Done.idle h).answered _
    | ok hakin =>
      simp only [Except.map, hakin.hasAsync]
      exact (Done.idle h).answered _
  | check index =>
    refine h.withValidator index fun v v' hv => ?_
    obtain ⟨hresult, hdone⟩ := h.check index hv
    simp only [hresult]
    exact hdone.answered _
  | fails index =>
    refine h.withValidator index fun v v' hv => ?_
    obtain ⟨hresult, hdone⟩ := h.check index hv
    simp only [hresult]
    exact hdone.answered _
  | checkAsync index onPass onFail =>
    exact h.withValidator index fun v v' hv => h.scheduled (h.openCall index hv onPass onFail)
  | future index negated =>
    exact h.withValidator index fun v v' hv => h.startFuture index hv negated
  | openCall index onPass onFail =>
    exact h.withValidator index fun v v' hv => h.openCall index hv onPass onFail
  | openFuture index negated =>
    exact h.withValidator index fun v v' hv => h.openFuture index hv negated
  | ask run => exact (h.ask run).answered _
  | close run => exact (h.close run).answered _
  | poll future =>
    obtain ⟨hanswer, hakin⟩ := h.poll future
    exact ⟨hanswer, hakin, .nil⟩
  | dropFuture future =>
    simp only [Session.step, h.futures]
    exact ⟨rfl, ⟨h.context, h.validators, h.runs, h.handles, rfl, h.calls⟩, .nil⟩
  | drop handle =>
    simp only [Session.step, h.handles]
    exact ⟨rfl, ⟨h.context, h.validators, h.runs, rfl, h.futures, h.calls⟩, .nil⟩
  | _ => simp [Operation.isPlain] at plain

theorem Akin.create (input : Json) (rules : RawRules) :
    Agreed (Validator.Akin way) (Validator.create s.context input rules)
      (Validator.create s'.context input rules) := by
  unfold Validator.create
  split
  · exact (h.context.makePlan _).bind fun _ _ _ => .ok (.refl _)
  · exact .error _

/-- An operation in two sessions that are akin: the answers are the same, and so is what happens but
for messages. -/
theorem Akin.step {op op' : Operation} (hop : op.Akin way op') :
    Answered way (s.step op) (s'.step op') := by
  cases hop with
  | plain _ plain => exact h.step_plain plain
  | register name akin implicit same =>
    exact ⟨rfl, h.withContext (h.context.register name akin implicit same), .nil⟩
  | setLanguage same => exact ⟨rfl, h.withContext (h.context.setLanguage same), .nil⟩
  | addLanguage same same' => exact ⟨rfl, h.withContext (h.context.addLanguage same same'), .nil⟩
  | setConfig same trim => exact ⟨rfl, h.withContext (h.context.setConfig same trim), .nil⟩
  | @create input rules messages messages' same =>
    have hcreated := h.create input rules
    simp only [Session.step]
    generalize Validator.create s.context input rules = created,
      Validator.create s'.context input rules = created' at hcreated ⊢
    cases hcreated with
    | error e => exact (Done.idle h).answered _
    | ok hv =>
      have hworded := (hv.wording.congr₂ same Wording.setCustom)
      simp only [h.validators.length_eq]
      refine ⟨rfl, ⟨h.context, ?_, h.runs, h.handles, h.futures, h.calls⟩, .nil⟩
      exact List.rel_append h.validators (.cons ⟨hv.input, hv.rules, hworded, hv.shape⟩ .nil)
  | setCustom index same =>
    exact ⟨rfl, h.modifyWording index fun _ _ hw => hw.congr₂ same Wording.setCustom, .nil⟩
  | setNames index same =>
    exact ⟨rfl, h.modifyWording index fun _ _ hw => hw.congr₂ same Wording.setNames, .nil⟩
  | @setFormatter index formatter formatter' same =>
    have hakin : Akin way (s.modifyWording index fun w => { w with formatter := some formatter })
        (s'.modifyWording index fun w => { w with formatter := some formatter' }) :=
      h.modifyWording index fun _ _ hw =>
        hw.congr₂ same fun w formatter => { w with formatter := some formatter }
    exact ⟨rfl, hakin, .nil⟩
  | @pinLanguage index language language' same =>
    have hakin : Akin way (s.modifyWording index fun w => { w with language := some language })
        (s'.modifyWording index fun w => { w with language := some language' }) :=
      h.modifyWording index fun _ _ hw =>
        hw.congr₂ same fun w language => { w with language := some language }
    exact ⟨rfl, hakin, .nil⟩
  | complete handle akin => exact (h.complete handle akin).answered _

end Step

/-- The same deed, with other things that messages are made of. -/
inductive Deed.Akin (way : Leeway) : Deed → Deed → Prop where
  | operation {op op' : Operation} (akin : op.Akin way op') : Akin way (.operation op) (.operation op')
  | copy (handle : Nat) : Akin way (.copy handle) (.copy handle)

theorem Deed.Akin.refl (deed : Deed) : deed.Akin way deed := by
  cases deed with
  | operation op => exact .operation (.refl op)
  | copy handle => exact .copy handle

theorem Akin.act (h : s.Akin way s') {deed deed' : Deed} (hdeed : deed.Akin way deed') :
    Done way (s.act deed) (s'.act deed') := by
  cases hdeed with
  | operation akin => exact (h.step akin).done
  | copy handle =>
    simp only [Session.act, Session.copy, h.handles]
    exact ⟨⟨h.context, h.validators, h.runs, rfl, h.futures, h.calls⟩, .nil⟩

/-- Two histories of deeds that correspond. -/
theorem Akin.acts (h : s.Akin way s') {deeds deeds' : List Deed}
    (hdeeds : List.Forall₂ (Deed.Akin way) deeds deeds') :
    Done way (s.acts deeds) (s'.acts deeds') := by
  induction hdeeds generalizing s s' with
  | nil => exact .idle h
  | cons hfirst _ ih =>
    have hdone := h.act hfirst
    exact hdone.append (ih hdone.akin)

end FieldRules.Session
