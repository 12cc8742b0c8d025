import FieldRules.Proofs.Leeway

namespace FieldRules

namespace MessageBag

/-- The fields of a bag with how many messages each has. -/
def shape (bag : MessageBag) : List (String × Nat) := bag.entries.map fun e => (e.1, e.2.length)

theorem map_put (key : String) (value : List String) (l : List (String × List String)) :
    (Dict.put key value l).map (fun e => (e.1, e.2.length)) =
      Dict.put key value.length (l.map fun e => (e.1, e.2.length)) := by
  induction l with
  | nil => rfl
  | cons e rest ih =>
    rw [Dict.put, List.map_cons, Dict.put]
    split <;> simp [ih]

theorem lookup_shape (bag : MessageBag) (field : String) :
    bag.shape.lookup field = (bag.messages.get? field).map List.length := by
  rw [shape, entries, Dict.get?]
  induction bag.messages.entries with
  | nil => rfl
  | cons e rest ih =>
    rw [List.map_cons, List.lookup_cons, List.lookup_cons, ih]
    split <;> rfl

theorem shape_add (bag : MessageBag) (field message : String) :
    (bag.add field message).shape =
      Dict.put field ((bag.shape.lookup field).getD 0 + 1) bag.shape := by
  have hlength : (bag.get field ++ [message]).length = (bag.shape.lookup field).getD 0 + 1 := by
    rw [lookup_shape, get]
    cases bag.messages.get? field <;> simp
  rw [← hlength]
  exact map_put field _ _

end MessageBag

/-- What is told of a failure in one history and in the other. -/
structure Failure.Akin (way : Leeway) (f f' : Failure) : Prop where
  field : f'.field = f.field
  directive : f'.directive = f.directive
  kind : f'.kind = f.kind
  message : way.Same f.message f'.message

theorem Failure.Akin.refl {way : Leeway} (f : Failure) : f.Akin way f :=
  ⟨rfl, rfl, rfl, .refl _⟩

/-- Messages for akin failures, by wordings and phrasebooks that stand for each other. -/
structure MessagesAkin (way : Leeway) (told told' : Failure × String) : Prop where
  failure : told.1.Akin way told'.1
  worded : ∃ (wording wording' : Wording) (book book' : Phrasebook),
    way.Same wording wording' ∧ way.Books book book' ∧
    told.2 = wording.render book told.1.directive told.1.field told.1.kind told.1.message ∧
    told'.2 = wording'.render book' told'.1.directive told'.1.field told'.1.kind told'.1.message

/-- Steps for one directive with akin rules. -/
structure Step.Akin (way : Leeway) (step step' : Step) : Prop where
  field : step'.field = step.field
  directive : step'.directive = step.directive
  predicate : step.predicate.Akin way step'.predicate
  implicit : step'.implicit = step.implicit
  numeric : step'.numeric = step.numeric

theorem Step.Akin.refl {way : Leeway} (step : Step) : step.Akin way step :=
  ⟨rfl, rfl, .refl _, rfl, rfl⟩

/-- Plans with akin rules. -/
structure Plan.Akin (way : Leeway) (plan plan' : Plan) : Prop where
  steps : List.Forall₂ (Step.Akin way) plan.steps plan'.steps
  presence : JudgesAkin way plan.presence plan'.presence
  trim : plan'.trim = plan.trim

theorem Plan.Akin.refl {way : Leeway} (plan : Plan) : plan.Akin way plan :=
  ⟨List.forall₂_same.2 fun a _ => .refl a, .refl _, rfl⟩

/-- Validators of one input and one set of rules. -/
structure Validator.Akin (way : Leeway) (v v' : Validator) : Prop where
  input : v'.input = v.input
  rules : v'.rules = v.rules
  wording : way.Same v.wording v'.wording
  shape : v'.bag.shape = v.bag.shape

theorem Validator.Akin.refl {way : Leeway} (v : Validator) : v.Akin way v :=
  ⟨rfl, rfl, .refl _, rfl⟩

/-- Scenes of a synchronous run. -/
structure Scene.Akin (way : Leeway) (scene scene' : Scene) : Prop where
  context : Context.Akin way scene.context scene'.context
  shape : scene'.bag.shape = scene.bag.shape
  log : List.Forall₂ (MessagesAkin way) scene.log scene'.log

section Check

variable {way : Leeway} {c c' : Context} {plan plan' : Plan} {step step' : Step}
  {v v' : Validator}

theorem Context.Akin.makeStep (h : Context.Akin way c c') (rules : RuleSet)
    (entry : String × Directive) :
    Agreed (Step.Akin way) (Step.make c rules entry) (Step.make c' rules entry) :=
  (h.registry.make entry.2.name).bind fun _ _ hakin =>
    .ok ⟨rfl, rfl, hakin, h.registry.isImplicit _, rfl⟩

theorem Context.Akin.makePlan (h : Context.Akin way c c') (rules : RuleSet) :
    Agreed (Plan.Akin way) (Plan.make c rules) (Plan.make c' rules) :=
  (Agreed.mapM rules.directives (h.makeStep rules)).bind fun _ _ hsteps =>
    .ok ⟨hsteps, h.registry.presence, h.trim⟩

theorem Plan.Akin.hasAsync (h : plan.Akin way plan') : plan'.hasAsync = plan.hasAsync := by
  have hsteps := h.steps
  unfold Plan.hasAsync
  generalize plan.steps = steps, plan'.steps = steps' at hsteps ⊢
  induction hsteps with
  | nil => rfl
  | cons hfirst _ ih => rw [List.any_cons, List.any_cons, hfirst.predicate.isAsync, ih]

theorem Plan.Akin.subject (h : plan.Akin way plan') (hstep : step.Akin way step')
    (input : Fields) : plan'.subject input step' = plan.subject input step := by
  simp [Plan.subject, h.trim, hstep.field, hstep.directive, hstep.numeric]

theorem Plan.Akin.applies (h : plan.Akin way plan') (hstep : step.Akin way step')
    (hc : Context.Akin way c c') (input : Fields) :
    (plan'.applies input c' step').1 = (plan.applies input c step).1 ∧
      Context.Akin way (plan.applies input c step).2 (plan'.applies input c' step').2 := by
  unfold Plan.applies
  rw [hstep.implicit, hstep.field, h.trim]
  cases step.implicit with
  | true => exact ⟨rfl, hc⟩
  | false => exact hc.consult h.presence _

theorem Validator.Akin.failureOf (h : v.Akin way v') (hstep : step.Akin way step') :
    v'.failureOf step' = v.failureOf step := by
  simp [Validator.failureOf, h.input, hstep.field, hstep.directive, hstep.numeric]

/-- The messages of validators that are akin. -/
theorem Validator.Akin.word (h : v.Akin way v') (hc : Context.Akin way c c') {f f' : Failure}
    (hf : f.Akin way f') : MessagesAkin way (f, v.word c f) (f', v'.word c' f') :=
  ⟨hf, _, _, _, _, h.wording, hc.books, rfl, rfl⟩

theorem Validator.Akin.record {scene scene' : Scene} (h : v.Akin way v')
    (hscene : scene.Akin way scene') (f : Failure) :
    Scene.Akin way (v.record scene f) (v'.record scene' f) := by
  refine ⟨hscene.context, ?_, ?_⟩
  · rw [Validator.record, Validator.record, MessageBag.shape_add, MessageBag.shape_add,
      hscene.shape]
  · exact List.rel_append hscene.log (.cons (h.word hscene.context (.refl f)) .nil)

/-- Scenes of a synchronous run with as many failures. -/
def ScenesAkin (way : Leeway) (state state' : Scene × Nat) : Prop :=
  state'.2 = state.2 ∧ Scene.Akin way state.1 state'.1

/-- A step of a run finds a failure in both scenes or in none. -/
theorem Validator.Akin.checkStep (h : v.Akin way v') (hplan : plan.Akin way plan')
    {state state' : Scene × Nat} (hstate : ScenesAkin way state state')
    (hstep : step.Akin way step') :
    ScenesAkin way (v.checkStep plan state step) (v'.checkStep plan' state' step') := by
  obtain ⟨scene, failed⟩ := state
  obtain ⟨scene', failed'⟩ := state'
  obtain ⟨hfailed, hscene⟩ := hstate
  obtain rfl : failed' = failed := hfailed
  obtain ⟨hcounts, hasked⟩ := hplan.applies hstep hscene.context v.input
  unfold Validator.checkStep
  simp only [h.input, hcounts]
  split
  · obtain ⟨judge, judge', hjudge, hjudge', hjudges⟩ | ⟨attend, attend', hattend, hattend', -⟩ :=
      hstep.predicate.cases
    · obtain ⟨haccepted, hconsulted⟩ := hasked.consult hjudges (plan.subject v.input step)
      have hanswered : Scene.Akin way ⟨_, scene.bag, scene.log⟩ ⟨_, scene'.bag, scene'.log⟩ :=
        ⟨hconsulted, hscene.shape, hscene.log⟩
      simp only [hjudge, hjudge', hplan.subject hstep, haccepted, h.failureOf hstep]
      split
      · exact ⟨rfl, hanswered⟩
      · exact ⟨rfl, h.record hanswered _⟩
    · simp only [hattend, hattend', Predicate.judge?]
      exact ⟨rfl, hasked, hscene.shape, hscene.log⟩
  · exact ⟨rfl, hasked, hscene.shape, hscene.log⟩

/-- Synchronous runs are refused alike, or come to the same verdict. -/
theorem Validator.Akin.check (h : v.Akin way v') (hc : Context.Akin way c c') :
    Agreed (fun result result' => result'.1 = result.1 ∧ Scene.Akin way result.2 result'.2)
      (v.check c) (v'.check c') := by
  unfold Validator.check Validator.plan
  rw [h.rules]
  refine (hc.makePlan v.rules).bind fun plan plan' hplan => ?_
  rw [hplan.hasAsync]
  cases plan.hasAsync with
  | true => exact .error _
  | false =>
    have hstart : ScenesAkin way (Validator.scene c, 0) (Validator.scene c', 0) :=
      ⟨rfl, hc, rfl, .nil⟩
    have hkeep : Relator.LiftFun (ScenesAkin way) (Relator.LiftFun (Step.Akin way) (ScenesAkin way))
        (v.checkStep plan) (v'.checkStep plan') :=
      fun _ _ hstate _ _ hstep => h.checkStep hplan hstate hstep
    have hend := List.rel_foldl hkeep hstart hplan.steps
    exact .ok ⟨congrArg (· == 0) hend.1, hend.2⟩

end Check

end FieldRules
