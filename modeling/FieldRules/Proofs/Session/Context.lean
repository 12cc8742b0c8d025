import FieldRules.Proofs.Context
import FieldRules.Proofs.Session.Handles
import FieldRules.Proofs.Session.Voice

namespace FieldRules

namespace Context

/-- The second context comes from the first by operations that give these configurations. -/
def Leads (configs : List Config) (c c' : Context) : Prop :=
  ∃ ops, c' = c.run ops ∧ ops.filterMap Operation.config? = configs

namespace Leads

theorem refl (c : Context) : Leads [] c c := ⟨[], rfl, rfl⟩

theorem of_eq {c c' : Context} (h : c' = c) : Leads [] c c' := h ▸ refl c

theorem trans {configs more : List Config} {c c' c'' : Context} (h : Leads configs c c')
    (h' : Leads more c' c'') : Leads (configs ++ more) c c'' := by
  obtain ⟨ops, rfl, rfl⟩ := h
  obtain ⟨others, rfl, rfl⟩ := h'
  exact ⟨ops ++ others, (c.run_append ops others).symm, List.filterMap_append⟩

/-- Where no configuration is given first, none has to be remembered. -/
theorem after {configs : List Config} {c c' c'' : Context} (h : Leads [] c c')
    (h' : Leads configs c' c'') : Leads configs c c'' := h.trans h'

end Leads

theorem step_leads (c : Context) (op : Operation) : Leads op.config?.toList c (c.step op) :=
  ⟨[op], rfl, filterMap_concat Operation.config? [] op⟩

theorem tick_leads (c : Context) : Leads [] c c.tick := c.step_leads .tick

theorem amend_leads (c : Context) (amendment : Amendment) : Leads [] c (c.amend amendment) := by
  cases amendment with
  | setLanguage language => exact c.step_leads (.setLanguage language)
  | register name rule implicit message =>
    exact c.step_leads (.register name rule implicit message)

theorem amendAll_leads (c : Context) (amendments : List Amendment) :
    Leads [] c (c.amendAll amendments) := by
  induction amendments generalizing c with
  | nil => exact .refl c
  | cons amendment rest ih => exact (c.amend_leads amendment).after (ih _)

/-- A rule that is asked may change the language, but not the configuration. -/
theorem consult_leads (c : Context) (judge : Judge) (s : Subject) :
    Leads [] c (c.consult judge s).2 := c.tick_leads.after (c.tick.amendAll_leads _)

end Context

open Context (Leads)

theorem Plan.applies_leads (plan : Plan) (input : Fields) (context : Context) (step : Step) :
    Leads [] context (plan.applies input context step).2 := by
  unfold Plan.applies
  split
  · exact .refl context
  · exact context.consult_leads _ _

namespace Validator

variable (v : Validator) (plan : Plan)

theorem checkStep_leads (sofar : Scene × Nat) (step : Step) :
    Leads [] sofar.1.context (v.checkStep plan sofar step).1.context := by
  have happlies := plan.applies_leads v.input sofar.1.context step
  simp only [checkStep]
  split
  · split
    · next judge _ =>
      have hasked := happlies.after
        (Context.consult_leads _ judge (plan.subject v.input step))
      split <;> exact hasked
    · exact happlies
  · exact happlies

theorem foldl_checkStep_leads (steps : List Step) (sofar : Scene × Nat) :
    Leads [] sofar.1.context (steps.foldl (v.checkStep plan) sofar).1.context := by
  induction steps generalizing sofar with
  | nil => exact .refl _
  | cons step rest ih => exact (v.checkStep_leads plan sofar step).after (ih _)

theorem check_leads {context : Context} {passed : Bool} {scene : Scene}
    (h : v.check context = .ok (passed, scene)) : Leads [] context scene.context := by
  obtain ⟨plan, failed, -, -, hfold, -⟩ := (v.check_ok_iff context passed scene).1 h
  have hsteps := v.foldl_checkStep_leads plan plan.steps (Validator.scene context, 0)
  rw [hfold] at hsteps
  exact hsteps

end Validator

namespace Session

section Parts

variable (s : Session) (index : Nat)

theorem question_leads (slot : Nat) (v : Validator) (plan : Plan) (step : Step) :
    Leads [] s.context (s.question index slot v plan step).1.context := by
  have hjudged (judge : Judge) :
      Leads [] s.context (question.judged index slot v plan step s judge).1.context := by
    have hasked := s.context.consult_leads judge (plan.subject v.input step)
    unfold question.judged
    simp only [context_operate]
    exact hasked
  unfold question
  split
  · simp only [unoperated_context.completeAll]
    exact s.context.tick_leads
  · exact hjudged _
  · exact hjudged _

theorem ask_leads : Leads [] s.context (s.ask index).1.context := by
  rcases ask_cases s index with ⟨heq, -⟩ | ⟨started, step, rest, v, context, -, -, -, hcase⟩
  · exact .of_eq (by rw [heq])
  · have happlies := started.plan.applies_leads v.input s.context step
    rcases hcase with ⟨hskipped, heq⟩ | ⟨hcounts, heq⟩
    · rw [hskipped] at happlies
      rw [heq]
      exact happlies
    · rw [hcounts] at happlies
      have hadded : ((s.advance index rest context).operate index
          (.add (v.failureOf step))).1.context = context := context_operate _ index _
      have hasked := question_leads ((s.advance index rest context).operate index
        (.add (v.failureOf step))).1 index started.run.slots.length v started.plan step
      rw [hadded] at hasked
      rw [heq]
      exact happlies.after hasked

theorem context_close : (s.close index).1.context = s.context := by
  rcases close_cases s index with heq | heq
  · rw [heq]
  · rw [heq, context_operate]

theorem schedule_leads : Leads [] s.context (s.schedule index).1.context := by
  have hasked (count : Nat) : Leads [] s.context (s.askAll index count).1.context :=
    inTurn_rel (R := fun s s' _ => Leads [] s.context s'.context) (fun _ => .refl _)
      (fun h h' => h.after h') fun s index _ => ask_leads s index
  exact (hasked _).after (.of_eq (context_close _ index))

theorem check_leads (v : Validator) : Leads [] s.context (s.check index v).1.context := by
  unfold Session.check
  split
  · next passed scene hcheck => exact v.check_leads hcheck
  · exact .refl _

theorem context_openCall (v : Validator) (onPass onFail : Bool) :
    (s.openCall index v onPass onFail).1.context = s.context := by
  rcases openCall_cases s index v onPass onFail with ⟨e, heq⟩ | ⟨plan, heq⟩
  · rw [heq]
  · rw [heq]
    rfl

theorem context_openFuture (v : Validator) (negated : Bool) :
    (s.openFuture index v negated).1.context = s.context := by
  rcases openFuture_cases s index v negated with ⟨e, heq⟩ | ⟨plan, heq⟩
  · rw [heq]
  · rw [heq]
    rfl

theorem context_poll (future : Nat) : (s.poll future).1.context = s.context := by
  obtain ⟨futures, heq⟩ := poll_futures s future
  rw [heq]

theorem context_complete (handle : Nat) (outcome : Outcome) :
    (s.complete handle outcome).1.context = s.context := by
  unfold complete
  split
  · exact context_operate s _ _
  · rfl

variable {s}

theorem withValidator_leads {act : Validator → Session × Answer × List Event}
    (h : ∀ v, Leads [] s.context (act v).1.context) :
    Leads [] s.context (s.withValidator index act).1.context :=
  withValidator_cases (P := fun done => Leads [] s.context done.1.context) (.refl _) h

theorem scheduled_leads {opened : Session × Answer × List Event}
    (h : opened.1.context = s.context) :
    Leads [] s.context (s.scheduled opened).1.context :=
  (Leads.of_eq h).after (schedule_leads opened.1 _)

end Parts

/-- The configuration that an operation gives to the context. -/
def Operation.config? : Operation → Option Config
  | setConfig config => some config
  | reset => some {}
  | _ => none

theorem step_leads (s : Session) (op : Operation) :
    Leads op.config?.toList s.context (s.step op).1.context := by
  cases op with
  | register name rule implicit message =>
    exact s.context.step_leads (.register name rule implicit message)
  | unregister name => exact s.context.step_leads (.changeRegistry (·.unregister name))
  | setLanguage language => exact s.context.step_leads (.setLanguage language)
  | addLanguage language templates =>
    exact s.context.step_leads (.addLanguage language templates)
  | setConfig config => exact s.context.step_leads (.setConfig config)
  | reset => exact s.context.step_leads .reset
  | create input rules messages =>
    simp only [step]
    split <;> exact .refl _
  | hasAsync index => exact withValidator_leads index fun _ => .refl _
  | check index | fails index => exact withValidator_leads index (check_leads s index)
  | checkAsync index onPass onFail =>
    exact withValidator_leads index fun v =>
      scheduled_leads (context_openCall s index v onPass onFail)
  | future index negated =>
    apply withValidator_leads
    intro v
    have hscheduled := scheduled_leads (context_openFuture s index v negated)
    rw [(startFuture_eq s index v negated).1]
    exact hscheduled.after (.of_eq (context_poll _ _))
  | openCall index onPass onFail =>
    exact withValidator_leads index fun v => .of_eq (context_openCall s index v onPass onFail)
  | openFuture index negated =>
    exact withValidator_leads index fun v => .of_eq (context_openFuture s index v negated)
  | ask run => exact ask_leads s run
  | close run => exact .of_eq (context_close s run)
  | poll future => exact .of_eq (context_poll s future)
  | complete handle outcome => exact .of_eq (context_complete s handle outcome)
  | setCustom | setNames | setFormatter | pinLanguage | dropFuture | drop => exact .refl _

def Deed.config? : Deed → Option Config
  | .operation op => op.config?
  | .copy _ => none

/-- In a session the configurations are those that are given by its operations. -/
theorem acts_leads (s : Session) (deeds : List Deed) :
    Leads (deeds.filterMap Deed.config?) s.context (s.acts deeds).1.context := by
  induction deeds using List.reverseRecOn with
  | nil => exact .refl _
  | append_singleton deeds deed ih =>
    have hlast : Leads deed.config?.toList (s.acts deeds).1.context
        ((s.acts deeds).1.act deed).1.context := by
      cases deed with
      | operation op => exact step_leads _ op
      | copy handle => exact .refl _
    rw [acts_snoc, filterMap_concat]
    exact ih.trans hlast

end Session

/-- Whatever was done with a context, alone or in a session, the language of its configuration is
the default language of its phrasebook, and the one that was given last. Whether blanks count as a
value is as in the last configuration. -/
theorem Context.configuration_agrees_with_phrasebook (given : Option Config)
    (ops : List Operation) :
    let c := after given ops
    c.config.language = c.phrasebook.defaultLanguage ∧
    c.config.language = lastLanguage given ops ∧
    c.phrasebook.hasLanguage c.config.language = true ∧
    c.phrasebook.hasLanguage english = true ∧
    (c.phrasebook.template? english "def").isSome = true ∧
    c.config.trim = (lastConfig given ops).trim ∧
    (∀ name rule implicit message,
      (c.register name rule implicit message).phrasebook.template? c.config.language name =
        some message) ∧
    ∀ (s : Session) (deeds : List Session.Deed), ∃ more,
      ({ s with context := c }.acts deeds).1.context = after given (ops ++ more) ∧
      more.filterMap Operation.config? = deeds.filterMap Session.Deed.config? := by
  intro c
  have hagrees : c.Agrees := (made_agrees given).run ops
  have hlanguage : c.config.language = lastLanguage given ops := by
    rw [config_after given ops]
  have htrim : c.config.trim = (lastConfig given ops).trim := by
    rw [config_after given ops]
  refine ⟨hagrees.language, hlanguage, ?_, hagrees.hasEnglish, hagrees.fallback, htrim, ?_, ?_⟩
  · rw [hagrees.language]
    exact hagrees.loaded
  · intro name rule implicit message
    have hmessage := c.phrasebook.template?_setRuleMessage name message
      c.phrasebook.defaultLanguage name
    rw [if_pos rfl, if_pos rfl, ← hagrees.language] at hmessage
    exact hmessage
  · intro s deeds
    obtain ⟨more, hcontext, hconfigs⟩ := Session.acts_leads { s with context := c } deeds
    refine ⟨more, ?_, hconfigs⟩
    rw [hcontext, after, run_append]
    rfl

end FieldRules
