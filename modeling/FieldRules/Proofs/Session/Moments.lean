import FieldRules.Proofs.Session.Ledger
import FieldRules.Proofs.Session.Lockstep
import FieldRules.Proofs.Session.Refused
import FieldRules.Proofs.Session.Voice

namespace FieldRules

/-- The same happens, but that messages for failures that stray may read otherwise. -/
inductive Event.Reworded (strays : Nat → Failure → Prop) : Event → Event → Prop where
  | same (e : Event) : Reworded strays e e
  | message (validator : Nat) (run : Option Nat) {f : Failure} (stray : strays validator f)
      (message message' : String) :
      Reworded strays (.recorded validator run f message) (.recorded validator run f message')

theorem Event.Reworded.mono {strays wider : Nat → Failure → Prop}
    (hwider : ∀ validator f, strays validator f → wider validator f) {e e' : Event}
    (h : e.Reworded strays e') : e.Reworded wider e' := by
  cases h with
  | same e => exact .same e
  | message validator run stray message message' =>
    exact .message validator run (hwider _ _ stray) message message'

theorem Outcome.Akin.eq {touched : String → String → Prop} {outcome outcome' : Outcome}
    (h : outcome.Akin (.templates touched) outcome') : outcome' = outcome := by
  have hpassed := h.passed
  have hmessage : outcome'.message? = outcome.message? := h.message
  cases outcome <;> cases outcome' <;> simp_all [Outcome.passed, Outcome.message?]

theorem Failure.Akin.eq {touched : String → String → Prop} {f f' : Failure}
    (h : f.Akin (.templates touched) f') : f' = f := by
  obtain ⟨hfield, hdirective, hkind, hsame⟩ := h
  have hmessage : f'.message = f.message := hsame
  cases f; cases f'
  simp_all

namespace Validator

/-- The template for a failure is looked for in a place that was touched. -/
def looksAt (touched : String → String → Prop) (v : Validator) (context : Context) (f : Failure) :
    Prop :=
  f.message = none ∧ ∃ place ∈
    v.wording.reaches context.phrasebook f.directive.name f.field f.kind, touched place.1 place.2

/-- The contexts that a synchronous run has one after the other. -/
def contexts (v : Validator) (context : Context) : List Context :=
  match v.plan context with
  | .ok plan => plan.steps.inits.map fun asked =>
    (asked.foldl (v.checkStep plan) (scene context, 0)).1.context
  | .error _ => []

/-- A step of a run that fails is worded by the context as the rule left it. -/
theorem checkStep_log (v : Validator) (plan : Plan) (state : Scene × Nat) (step : Step) :
    let after := (v.checkStep plan state step).1
    after.log = state.1.log ∨
      after.log = state.1.log ++ [(v.failureOf step, v.word after.context (v.failureOf step))] := by
  unfold checkStep
  simp only
  split
  · split
    · split
      · exact .inl rfl
      · exact .inr rfl
    · exact .inl rfl
  · exact .inl rfl

/-- The same failures, with the same messages but for those that stray. -/
def LogsReworded (strays : Failure → Prop) :
    List (Failure × String) → List (Failure × String) → Prop :=
  List.Forall₂ fun told told' => told'.1 = told.1 ∧ (told'.2 = told.2 ∨ strays told.1)

section Akin

variable {touched : String → String → Prop} {v v' : Validator} {c c' : Context}
  (h : v.Akin (.templates touched) v')
include h

theorem Akin.word_eq (hc : Context.Akin (.templates touched) c c') (f : Failure) :
    v'.word c' f = v.word c f ∨ v.looksAt touched c f := by
  have hwording : v'.wording = v.wording := h.wording
  rw [Validator.word, Validator.word, hwording]
  exact v.wording.render_agreeOff hc.books f.directive f.field f.kind f.message

variable {plan plan' : Plan} (hplan : plan.Akin (.templates touched) plan')
include hplan

theorem Akin.checkStep_reworded {strays : Failure → Prop} {state state' : Scene × Nat}
    (hstate : ScenesAkin (.templates touched) state state')
    (hlog : LogsReworded strays state.1.log state'.1.log) {step step' : Step}
    (hstep : step.Akin (.templates touched) step')
    (hstrays : ∀ f, v.looksAt touched (v.checkStep plan state step).1.context f → strays f) :
    LogsReworded strays (v.checkStep plan state step).1.log
      (v'.checkStep plan' state' step').1.log := by
  have hnext := h.checkStep hplan hstate hstep
  have hlength := hlog.length_eq
  have hlength' := hnext.2.log.length_eq
  rcases v.checkStep_log plan state step with heq | heq <;>
    rcases v'.checkStep_log plan' state' step' with heq' | heq' <;>
    rw [heq, heq'] at hlength' ⊢
  · exact hlog
  · simp at hlength'
    omega
  · simp at hlength'
    omega
  · refine List.rel_append hlog (.cons ⟨h.failureOf hstep, ?_⟩ .nil)
    rw [h.failureOf hstep]
    exact (h.word_eq hnext.2.context _).imp_right (hstrays _)

/-- What a run logs, step by step. -/
theorem Akin.fold_reworded {strays : Failure → Prop} {steps steps' : List Step}
    (hsteps : List.Forall₂ (Step.Akin (.templates touched)) steps steps')
    {state state' : Scene × Nat} (hstate : ScenesAkin (.templates touched) state state')
    (hlog : LogsReworded strays state.1.log state'.1.log)
    (hstrays : ∀ asked, asked <+: steps → ∀ f,
      v.looksAt touched (asked.foldl (v.checkStep plan) state).1.context f → strays f) :
    LogsReworded strays (steps.foldl (v.checkStep plan) state).1.log
      (steps'.foldl (v'.checkStep plan') state').1.log := by
  induction hsteps generalizing state state' with
  | nil => exact hlog
  | @cons step step' rest _ hstep _ ih =>
    refine ih (h.checkStep hplan hstate hstep)
      (h.checkStep_reworded hplan hstate hlog hstep (hstrays [step] (by simp))) ?_
    intro asked hasked f hf
    exact hstrays (step :: asked) ((List.cons_prefix_cons).2 ⟨rfl, hasked⟩) f hf

end Akin

/-- The logs of synchronous runs of two validators. -/
theorem Akin.check_reworded {touched : String → String → Prop} {v v' : Validator} {c c' : Context}
    (h : v.Akin (.templates touched) v') (hc : Context.Akin (.templates touched) c c')
    {strays : Failure → Prop}
    (hstrays : ∀ context ∈ v.contexts c, ∀ f, v.looksAt touched context f → strays f)
    {passed passed' : Bool} {scene scene' : Scene} (hcheck : v.check c = .ok (passed, scene))
    (hcheck' : v'.check c' = .ok (passed', scene')) : LogsReworded strays scene.log scene'.log := by
  obtain ⟨plan, failed, hmade, -, hfold, -⟩ := (v.check_ok_iff c passed scene).1 hcheck
  obtain ⟨plan', failed', hmade', -, hfold', -⟩ := (v'.check_ok_iff c' passed' scene').1 hcheck'
  have hplan : plan.Akin (.templates touched) plan' := by
    have hplans := hc.makePlan v.rules
    rw [show Plan.make c v.rules = .ok plan from hmade, ← h.rules,
      show Plan.make c' v'.rules = .ok plan' from hmade'] at hplans
    cases hplans with
    | ok hakin => exact hakin
  have hcontexts : ∀ asked, asked <+: plan.steps → ∀ f,
      v.looksAt touched (asked.foldl (v.checkStep plan) (Validator.scene c, 0)).1.context f →
        strays f := by
    intro asked hasked f hf
    refine hstrays _ ?_ f hf
    rw [contexts, hmade]
    exact List.mem_map.2 ⟨asked, (List.mem_inits _ _).2 hasked, rfl⟩
  have hstart : ScenesAkin (.templates touched) (Validator.scene c, 0) (Validator.scene c', 0) :=
    ⟨rfl, hc, rfl, .nil⟩
  have hlogs := h.fold_reworded hplan hplan.steps hstart .nil hcontexts
  rwa [hfold, hfold'] at hlogs

end Validator

namespace Session

/-- The template of a validator for a failure is looked for in a place that was touched. -/
def looksAt (touched : String → String → Prop) (s : Session) (index : Nat) (f : Failure) : Prop :=
  ∃ v, s.validators[index]? = some v ∧ v.looksAt touched s.context f

/-- The session as it is in the course of an operation, whenever a message may be made. -/
def moments (s : Session) : Operation → List Session
  | .check index | .fails index =>
    match s.validators[index]? with
    | some v => (v.contexts s.context).map fun context => { s with context }
    | none => []
  | op => (s.parts op).inits.map fun first => (s.steps first).1

/-- An operation that is done in one go, and asks no more than one rule. -/
def Operation.isPart (op : Operation) : Bool := !op.isCall && !op.atOnce

section Akin

variable {touched : String → String → Prop} {s s' : Session}

theorem Akin.phrase_eq (h : s.Akin (.templates touched) s') {index : Nat} {f : Failure}
    {message message' : String} (there : s.phrase index f = some message)
    (there' : s'.phrase index f = some message') :
    message' = message ∨ s.looksAt touched index f := by
  obtain ⟨hnone, -⟩ | ⟨v, v', hv, hv', hakin⟩ := forall₂_getElem? h.validators index
  · simp [phrase, voice, hnone] at there
  · rw [Session.phrase_eq hv, Option.some.injEq] at there
    rw [Session.phrase_eq hv', Option.some.injEq] at there'
    rw [← there, ← there']
    exact (hakin.word_eq h.context f).imp_right fun hlooks => ⟨v, hv, hlooks⟩

/-- Messages that are made by what is there at the same moment. -/
theorem Akin.reworded (h : s.Akin (.templates touched) s') {events events' : List Event}
    (hevents : List.Forall₂ (Event.Akin (.templates touched)) events events')
    (hphrase : ∀ i run f message, .recorded i run f message ∈ events →
      s.phrase i f = some message)
    (hphrase' : ∀ i run f message, .recorded i run f message ∈ events' →
      s'.phrase i f = some message) :
    List.Forall₂ (Event.Reworded (s.looksAt touched)) events events' := by
  induction hevents with
  | nil => exact .nil
  | @cons e e' rest rest' hfirst _ ih =>
    refine .cons ?_ (ih (fun i run f message hm => hphrase i run f message (.tail _ hm))
      fun i run f message hm => hphrase' i run f message (.tail _ hm))
    cases hfirst with
    | refl => exact .same e
    | operated run akin =>
      cases akin with
      | refl => exact .same _
      | complete slot akin =>
        obtain rfl := akin.eq
        exact .same _
    | @recorded i run f f' message message' akin =>
      obtain rfl : f' = f := akin.failure.eq
      have there := hphrase i run f' message (.head _)
      have there' := hphrase' i run f' message' (.head _)
      obtain rfl | hlooks := h.phrase_eq there there'
      · exact .same _
      · exact .message i run hlooks message message'

end Akin

/-- Only a check begins a run without a number. -/
theorem began_none_notMem {s : Session} {op : Operation} (hpart : op.isPart = true) (i : Nat) :
    .began i none ∉ (s.step op).2.2 := by
  cases op with
  | checkAsync | future | check | fails => simp [Operation.isPart, Operation.isCall,
      Operation.atOnce] at hpart
  | ask run => exact Strokes.began (ask_strokes s run) i none
  | close run => exact Strokes.began (close_strokes s run) i none
  | complete handle outcome =>
    simp only [step, complete]
    split
    · exact (Stroke.operated _ _).began i none
    · simp
  | hasAsync index =>
    refine withValidator_cases (P := fun done => .began i none ∉ done.2.2) ?_ fun v => ?_ <;>
      exact List.not_mem_nil
  | openCall index onPass onFail =>
    refine withValidator_cases (P := fun done => .began i none ∉ done.2.2) List.not_mem_nil
      fun v => ?_
    rcases openCall_cases s index v onPass onFail with ⟨e, heq⟩ | ⟨plan, heq⟩ <;> simp [heq]
  | openFuture index negated =>
    refine withValidator_cases (P := fun done => .began i none ∉ done.2.2) List.not_mem_nil
      fun v => ?_
    rcases openFuture_cases s index v negated with ⟨e, heq⟩ | ⟨plan, heq⟩ <;> simp [heq]
  | create input rules messages =>
    simp only [step]
    split <;> simp
  | _ => simp [step]

section Parts

variable {touched : String → String → Prop} {s s' : Session} (h : s.Akin (.templates touched) s')
include h

/-- What happens in one go is worded by what is there afterwards. -/
theorem Akin.part_reworded {op : Operation} (hpart : op.isPart = true) :
    List.Forall₂ (Event.Reworded ((s.step op).1.looksAt touched)) (s.step op).2.2
      (s'.step op).2.2 := by
  have hdone := (h.step (Operation.Akin.refl op)).done
  have hcall : op.isCall = false := by
    rw [Operation.isPart, Bool.and_eq_true, Bool.not_eq_true'] at hpart
    exact hpart.1
  exact hdone.akin.reworded hdone.events
    (fun i _ _ _ hm => recorded_step hcall (began_none_notMem hpart i) hm)
    fun i _ _ _ hm => recorded_step hcall (began_none_notMem hpart i) hm

theorem Akin.steps_reworded {strays : Nat → Failure → Prop} {ops : List Operation}
    (hparts : ∀ op ∈ ops, op.isPart = true)
    (hstrays : ∀ first, first <+: ops → ∀ i f, (s.steps first).1.looksAt touched i f → strays i f) :
    List.Forall₂ (Event.Reworded strays) (s.steps ops).2 (s'.steps ops).2 := by
  induction ops generalizing s s' with
  | nil => exact .nil
  | cons op rest ih =>
    have hfirst := h.part_reworded (hparts op List.mem_cons_self)
    have hnext := (h.step (Operation.Akin.refl op)).done.akin
    rw [steps_cons, steps_cons]
    have hheard : List.Forall₂ (Event.Reworded strays) (s.step op).2.2 (s'.step op).2.2 := by
      refine hfirst.imp fun e e' he => he.mono fun i f hlooks => ?_
      refine hstrays [op] (by simp) i f ?_
      rwa [steps_single]
    refine List.rel_append hheard (ih hnext ?_ ?_)
    · exact fun other hm => hparts other (List.mem_cons_of_mem _ hm)
    · intro first hprefix
      exact hstrays (op :: first) (List.cons_prefix_cons.2 ⟨rfl, hprefix⟩)

theorem Akin.schedulingParts_eq (run : Nat) : s'.schedulingParts run = s.schedulingParts run := by
  unfold schedulingParts
  obtain ⟨hnone, hnone'⟩ | ⟨started, started', hs, hs', hstarted⟩ := forall₂_getElem? h.runs run
  · rw [hnone, hnone']
  · simp only [hs, hs', hstarted.pending.length_eq]

/-- Calls come apart alike. -/
theorem Akin.parts_eq (op : Operation) : s'.parts op = s.parts op := by
  have hopened (opening : Operation) : (s'.step opening).1.schedulingParts s.runs.length =
      (s.step opening).1.schedulingParts s.runs.length :=
    (h.step (Operation.Akin.refl opening)).done.akin.schedulingParts_eq _
  cases op with
  | checkAsync index onPass onFail => simp only [parts, h.length_runs, hopened]
  | future index negated => simp only [parts, h.length_runs, h.futures, hopened]
  | _ => rfl

end Parts

theorem isPart_of_mem_parts {s : Session} {op part : Operation} (hop : op.atOnce = false)
    (h : part ∈ s.parts op) : part.isPart = true := by
  obtain hpiece | ⟨rfl, hcall⟩ := mem_parts h
  · cases part <;> simp_all [Operation.isPiece, Operation.isPart, Operation.isCall, Operation.atOnce]
  · rw [Operation.isPart, hcall, hop]
    rfl

section Step

variable {touched : String → String → Prop} {s s' : Session} (h : s.Akin (.templates touched) s')
include h

theorem Akin.check_reworded {index : Nat} {v v' : Validator} (hv : v.Akin (.templates touched) v')
    {strays : Nat → Failure → Prop}
    (hstrays : ∀ context ∈ v.contexts s.context, ∀ f, v.looksAt touched context f →
      strays index f) :
    List.Forall₂ (Event.Reworded strays) (s.check index v).2.2 (s'.check index v').2.2 := by
  have hagreed := hv.check h.context
  unfold Session.check
  cases hcheck : v.check s.context with
  | error e =>
    cases hcheck' : v'.check s'.context with
    | error => exact .nil
    | ok => rw [hcheck, hcheck'] at hagreed; cases hagreed
  | ok result =>
    cases hcheck' : v'.check s'.context with
    | error => rw [hcheck, hcheck'] at hagreed; cases hagreed
    | ok result' =>
      refine .cons (.same _) ?_
      rw [List.forall₂_map_left_iff, List.forall₂_map_right_iff]
      refine (hv.check_reworded h.context hstrays hcheck hcheck').imp fun told told' htold => ?_
      obtain ⟨f, message⟩ := told
      obtain ⟨f', message'⟩ := told'
      obtain ⟨rfl, rfl | hstray⟩ := htold
      · exact .same _
      · exact .message index none hstray message message'

/-- Whatever is done in both sessions, the same happens, but that messages for failures may read
otherwise whose templates are looked for in touched places at the time. -/
theorem Akin.step_reworded (op : Operation) :
    List.Forall₂
      (Event.Reworded fun i f => ∃ moment ∈ s.moments op, moment.looksAt touched i f)
      (s.step op).2.2 (s'.step op).2.2 := by
  have hchecks {index : Nat} (act : Session → Validator → Session × Answer × List Event)
      (hact : ∀ t v, (act t v).2.2 = (t.check index v).2.2)
      (hmoments : s.moments op = s.moments (.check index)) :
      List.Forall₂
        (Event.Reworded fun i f => ∃ moment ∈ s.moments op, moment.looksAt touched i f)
        (s.withValidator index (act s)).2.2 (s'.withValidator index (act s')).2.2 := by
    unfold Session.withValidator
    obtain ⟨hnone, hnone'⟩ | ⟨v, v', hv, hv', hakin⟩ := forall₂_getElem? h.validators index
    · rw [hnone, hnone']
      exact .nil
    · simp only [hv, hv', hact]
      refine h.check_reworded hakin fun context hm f hlooks => ?_
      refine ⟨{ s with context }, ?_, v, hv, hlooks⟩
      rw [hmoments, moments, hv]
      exact List.mem_map.2 ⟨context, hm, rfl⟩
  have hparts (honce : op.atOnce = false)
      (hmoments : s.moments op = (s.parts op).inits.map fun first => (s.steps first).1) :
      List.Forall₂
        (Event.Reworded fun i f => ∃ moment ∈ s.moments op, moment.looksAt touched i f)
        (s.step op).2.2 (s'.step op).2.2 := by
    have hsteps := congrArg Prod.snd (s.steps_parts op)
    have hsteps' := congrArg Prod.snd (s'.steps_parts op)
    rw [← hsteps, ← hsteps', h.parts_eq]
    refine h.steps_reworded (fun part hm => isPart_of_mem_parts honce hm) ?_
    intro first hprefix i f hlooks
    refine ⟨_, ?_, hlooks⟩
    rw [hmoments]
    exact List.mem_map.2 ⟨first, (List.mem_inits _ _).2 hprefix, rfl⟩
  cases op with
  | check index =>
    exact hchecks (fun t v => ((t.check index v).1, ofResult (t.check index v).2.1,
      (t.check index v).2.2)) (fun _ _ => rfl) rfl
  | fails index =>
    exact hchecks (fun t v => ((t.check index v).1, ofResult ((t.check index v).2.1.map (!·)),
      (t.check index v).2.2)) (fun _ _ => rfl) rfl
  | _ => exact hparts rfl rfl

end Step

end Session

end FieldRules
