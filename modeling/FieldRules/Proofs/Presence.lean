import FieldRules.Proofs.Check
import FieldRules.Proofs.Refusal

namespace FieldRules

/-- A subject without its argument, and not as a number. -/
def Subject.plain (s : Subject) : Subject := { s with argument := none, numeric := false }

/-- The judge answers by the plain subject alone, at any time. What it wishes is left open. -/
def IsSteady (judge : Judge) : Prop := ∀ time s, (judge time s).1 = (judge 0 s.plain).1

/-- The rule named `required` is the built-in one, or a registered one that answers at once and is
steady; and whether it is implicit. -/
inductive Registry.HasPresenceRule (r : Registry) : Bool → Prop where
  | builtin (absent : r.get? "required" = none) : HasPresenceRule r true
  | registered {judge : Judge} {implicit : Bool}
      (there : r.get? "required" = some ⟨.sync judge, implicit⟩) (steady : IsSteady judge) :
      HasPresenceRule r implicit

/-- A directive of the rule of presence is asked by the same judge that says which directives
count. -/
theorem Registry.HasPresenceRule.spec {r : Registry} {implicit : Bool}
    (h : r.HasPresenceRule implicit) :
    IsSteady r.presence ∧ r.isImplicit "required" = implicit ∧
      ∀ predicate, r.make "required" = .ok predicate → predicate.judge? = some r.presence := by
  have hname : Builtin.required.name = "required" := by decide
  have hbuiltin : Builtin.ofName? "required" = some .required := by decide
  cases h with
  | builtin absent =>
    have hpresence : r.presence = Builtin.required.judge := by
      rw [Registry.presence, hname, absent]
    refine ⟨?_, ?_, fun predicate hmake => ?_⟩
    · rw [hpresence]
      exact fun _ _ => rfl
    · rw [Registry.isImplicit, absent, hbuiltin]
      rfl
    · rw [Registry.make, absent, hbuiltin] at hmake
      rw [← Except.ok.inj hmake, hpresence]
      rfl
  | @registered judge implicit there steady =>
    have hpresence : r.presence = judge := by rw [Registry.presence, hname, there]
    refine ⟨hpresence ▸ steady, ?_, fun predicate hmake => ?_⟩
    · rw [Registry.isImplicit, there]
    · rw [Registry.make, there] at hmake
      rw [← Except.ok.inj hmake, hpresence]
      rfl

/-- The field and the directive of a failure. -/
def Failure.entry (f : Failure) : String × Directive := (f.field, f.directive)

namespace Plan

/-- Whether the value of a field counts as present in a run, if its rule of presence is steady. -/
def finds (plan : Plan) (input : Fields) (field : String) : Bool :=
  (plan.presence 0 (Subject.ofField input field plan.trim)).1

/-- The step asks the judge that says which steps count. -/
structure AsksPresence (plan : Plan) (implicit : Bool) (step : Step) : Prop where
  judge : step.predicate.judge? = some plan.presence
  implicit : step.implicit = implicit

section Steady

variable {plan : Plan} (steady : IsSteady plan.presence) (input : Fields) (context : Context)
  (step : Step)
include steady

theorem applies_fst :
    (plan.applies input context step).1 = (step.implicit || plan.finds input step.field) := by
  unfold Plan.applies
  cases step.implicit with
  | true => rfl
  | false => exact steady context.clock _

theorem consult_presence_fst :
    (context.consult plan.presence (plan.subject input step)).1 = plan.finds input step.field :=
  steady context.clock _

end Steady

/-- Every step of a plan is that of its directive. -/
theorem isStep_of_make {context : Context} {rules : RuleSet} {plan : Plan}
    (h : Plan.make context rules = .ok plan) {step : Step} (hm : step ∈ plan.steps) :
    IsStep context rules step.entry step := by
  have hsteps := ((make_ok_iff context rules plan).1 h).1
  generalize rules.directives = entries, plan.steps = steps at hsteps hm
  induction hsteps with
  | nil => simp at hm
  | cons hstep _ ih =>
    obtain rfl | hrest := List.mem_cons.1 hm
    · rw [hstep.entry]
      exact hstep
    · exact ih hrest

/-- The steps of `required` ask the rule of presence. -/
theorem asksPresence_of_make {context : Context} {rules : RuleSet} {plan : Plan} {implicit : Bool}
    (rule : context.registry.HasPresenceRule implicit) (h : Plan.make context rules = .ok plan)
    {step : Step} (hm : step ∈ plan.steps) (hname : step.directive.name = "required") :
    plan.AsksPresence implicit step := by
  obtain ⟨-, hpresence, -⟩ := (Plan.make_ok_iff context rules plan).1 h
  obtain ⟨-, himplicit, hjudge⟩ := rule.spec
  have hstep := isStep_of_make h hm
  have hdirective : step.entry.2.name = "required" := hname
  constructor
  · rw [hpresence]
    exact hjudge _ (hdirective ▸ hstep.predicate)
  · rw [hstep.implicit, hdirective, himplicit]

end Plan

namespace Validator

/-- What comes of a step: the answer of its rule, or none if the step does not count. -/
def answerOf (v : Validator) (plan : Plan) (context : Context) (step : Step) : Option Bool :=
  let (applies, context) := plan.applies v.input context step
  if applies then
    step.predicate.judge?.map fun judge => (context.consult judge (plan.subject v.input step)).1
  else none

/-- What comes of the steps of a run, one after the other. -/
def answersFrom (v : Validator) (plan : Plan) (state : Scene × Nat) :
    List Step → List ((String × Directive) × Option Bool)
  | [] => []
  | step :: rest =>
    (step.entry, v.answerOf plan state.1.context step) ::
      v.answersFrom plan (v.checkStep plan state step) rest

/-- What comes of each directive in a synchronous run: the answer of its rule, if it is asked. -/
def answers (v : Validator) (context : Context) : List ((String × Directive) × Option Bool) :=
  match v.plan context with
  | .ok plan => v.answersFrom plan (Validator.scene context, 0) plan.steps
  | .error _ => []

variable {v : Validator} {plan : Plan}

theorem answersFrom_entries (state : Scene × Nat) (steps : List Step) :
    (v.answersFrom plan state steps).map Prod.fst = steps.map Step.entry := by
  induction steps generalizing state with
  | nil => rfl
  | cons step rest ih => simp [answersFrom, ih]

theorem exists_step_of_answer {state : Scene × Nat} {steps : List Step}
    {entry : String × Directive} {answer : Option Bool}
    (h : (entry, answer) ∈ v.answersFrom plan state steps) :
    ∃ step ∈ steps, step.entry = entry ∧ ∃ context, v.answerOf plan context step = answer := by
  induction steps generalizing state with
  | nil => simp [answersFrom] at h
  | cons step rest ih =>
    rw [answersFrom, List.mem_cons] at h
    obtain hfirst | hrest := h
    · obtain ⟨rfl, rfl⟩ := Prod.mk.inj hfirst
      exact ⟨step, List.mem_cons_self, rfl, _, rfl⟩
    · obtain ⟨other, hm, hother⟩ := ih hrest
      exact ⟨other, List.mem_cons_of_mem _ hm, hother⟩

/-- A step has a failure exactly if its rule is asked and does not accept. -/
theorem checkStep_entries (state : Scene × Nat) (step : Step) :
    (v.checkStep plan state step).1.log.map (·.1.entry) =
      state.1.log.map (·.1.entry) ++
        if v.answerOf plan state.1.context step = some false then [step.entry] else [] := by
  obtain ⟨scene, failed⟩ := state
  unfold checkStep answerOf
  simp only
  split
  · cases step.predicate.judge? with
    | none => simp
    | some judge =>
      simp only [Option.map_some, Option.some.injEq]
      split
      · next hpassed => simp [hpassed]
      · next hfailed =>
        rw [Bool.not_eq_true] at hfailed
        simp only [record, hfailed, List.map_append, if_true]
        rfl
  · simp

/-- The failures are those of the directives whose rules were asked and did not accept. -/
theorem foldl_checkStep_entries (steps : List Step) (state : Scene × Nat) :
    (steps.foldl (v.checkStep plan) state).1.log.map (·.1.entry) =
      state.1.log.map (·.1.entry) ++
        ((v.answersFrom plan state steps).filter (·.2 = some false)).map Prod.fst := by
  induction steps generalizing state with
  | nil => simp [answersFrom]
  | cons step rest ih =>
    rw [List.foldl_cons, ih, checkStep_entries, answersFrom, List.filter_cons, List.append_assoc]
    congr 1
    by_cases hanswer : v.answerOf plan state.1.context step = some false <;> simp [hanswer]

/-- A run has an answer, or none, for each directive, and it tells of those that are answered
no. -/
theorem answers_spec {context : Context} {passed : Bool} {scene : Scene}
    (h : v.check context = .ok (passed, scene)) :
    (v.answers context).map Prod.fst = v.rules.directives ∧
      scene.log.map (·.1.entry) =
        ((v.answers context).filter (·.2 = some false)).map Prod.fst := by
  obtain ⟨plan, failed, hplan, -, hfold, -⟩ := (v.check_ok_iff context passed scene).1 h
  have hentries : (plan.steps.foldl (v.checkStep plan) (Validator.scene context, 0)).1.log.map
      (·.1.entry) = _ := foldl_checkStep_entries plan.steps (Validator.scene context, 0)
  rw [hfold] at hentries
  rw [answers, hplan]
  exact ⟨(answersFrom_entries _ _).trans (Plan.make_entries hplan), hentries⟩

section Steady

variable (steady : IsSteady plan.presence)
include steady

/-- The rule of a step is asked if the step is implicit or the value is there. -/
theorem isSome_answerOf {step : Step} (sync : step.predicate.isAsync = false) (context : Context) :
    (v.answerOf plan context step).isSome = (step.implicit || plan.finds v.input step.field) := by
  obtain ⟨judge, hjudge⟩ : ∃ judge, step.predicate.judge? = some judge := by
    cases hp : step.predicate with
    | builtin rule => exact ⟨_, rfl⟩
    | custom rule =>
      cases rule with
      | sync judge => exact ⟨judge, rfl⟩
      | async attend => simp [hp, Predicate.isAsync] at sync
  unfold answerOf
  rw [← Plan.applies_fst steady v.input context step, hjudge]
  simp only [Option.map_some]
  cases (plan.applies v.input context step).1 <;> rfl

/-- The rule of presence says again what it says of the value. -/
theorem answerOf_presence {implicit : Bool} {step : Step} (h : plan.AsksPresence implicit step)
    (context : Context) :
    v.answerOf plan context step =
      if implicit || plan.finds v.input step.field then some (plan.finds v.input step.field)
      else none := by
  unfold answerOf
  rw [← h.implicit, ← Plan.applies_fst steady v.input context step, h.judge]
  simp only [Option.map_some, Plan.consult_presence_fst steady]

end Steady

theorem mem_failed_iff {context : Context} {passed : Bool} {scene : Scene}
    (h : v.check context = .ok (passed, scene)) (entry : String × Directive) :
    entry ∈ scene.log.map (·.1.entry) ↔ (entry, some false) ∈ v.answers context := by
  rw [(answers_spec h).2, List.mem_map]
  constructor
  · rintro ⟨⟨other, answer⟩, hm, rfl⟩
    obtain ⟨hin, hanswer⟩ := List.mem_filter.1 hm
    rw [decide_eq_true_iff] at hanswer
    obtain rfl : answer = some false := hanswer
    exact hin
  · exact fun hm => ⟨_, List.mem_filter.2 ⟨hm, by simp⟩, rfl⟩

section Check

variable {context : Context} {implicit : Bool} {passed : Bool} {scene : Scene}
  (rule : context.registry.HasPresenceRule implicit)
  (h : v.check context = .ok (passed, scene))
include rule h

/-- What a run says of a field rests on one fact, whether the value is there: rules are asked if they
are implicit or it is, and directives of the rule of presence fail if it is not. -/
theorem exists_present (field : String) :
    ∃ present : Bool, ∀ d answer, ((field, d), answer) ∈ v.answers context →
      answer.isSome = (context.registry.isImplicit d.name || present) ∧
      (d.name = "required" → answer = if implicit || present then some present else none) := by
  obtain ⟨plan, failed, hplan, hsync, -, -⟩ := (v.check_ok_iff context passed scene).1 h
  have steady : IsSteady plan.presence := by
    rw [((Plan.make_ok_iff _ _ _).1 hplan).2.1]
    exact rule.spec.1
  refine ⟨plan.finds v.input field, fun d answer hm => ?_⟩
  rw [answers, hplan] at hm
  obtain ⟨step, hstep, hentry, later, rfl⟩ := exists_step_of_answer hm
  obtain ⟨rfl, rfl⟩ := Prod.mk.inj hentry
  constructor
  · have hfalse : step.predicate.isAsync = false := by
      rw [Plan.hasAsync, List.any_eq_false] at hsync
      simpa using hsync step hstep
    rw [isSome_answerOf steady hfalse, (Plan.isStep_of_make hplan hstep).implicit]
    rfl
  · intro hname
    exact answerOf_presence steady (Plan.asksPresence_of_make rule hplan hstep hname) later

/-- Of a value that is missing only implicit rules tell. -/
theorem isImplicit_of_missing (always : implicit = true) {field : String} {d d' : Directive}
    (hname : d.name = "required") (hfailed : (field, d) ∈ scene.log.map (·.1.entry))
    (hfailed' : (field, d') ∈ scene.log.map (·.1.entry)) :
    context.registry.isImplicit d'.name = true := by
  obtain ⟨present, hpresent⟩ := exists_present rule h field
  have hd := (hpresent d _ ((mem_failed_iff h _).1 hfailed)).2 hname
  have hd' := (hpresent d' _ ((mem_failed_iff h _).1 hfailed')).1
  subst always
  obtain rfl : present = false := (by simpa using hd : false = present).symm
  simpa using hd'.symm

/-- If the value of a field is not told to be missing, all its rules are asked. -/
theorem asked_of_present (always : implicit = true) {field : String} {d d' : Directive}
    (hm : (field, d) ∈ v.rules.directives) (hname : d.name = "required")
    (hunfailed : (field, d) ∉ scene.log.map (·.1.entry)) {answer : Option Bool}
    (hanswer : ((field, d'), answer) ∈ v.answers context) : answer.isSome = true := by
  obtain ⟨present, hpresent⟩ := exists_present rule h field
  rw [← (answers_spec h).1] at hm
  obtain ⟨⟨entry, own⟩, hown, heq⟩ := List.mem_map.1 hm
  obtain rfl : entry = (field, d) := heq
  have hd := (hpresent d own hown).2 hname
  subst always
  cases present with
  | false =>
    obtain rfl : own = some false := by simpa using hd
    exact absurd ((mem_failed_iff h _).2 hown) hunfailed
  | true => simpa using (hpresent d' answer hanswer).1

/-- If the rule of presence is not implicit, it is asked only where it will accept. -/
theorem not_required_of_failed (never : implicit = false) {entry : String × Directive}
    (hfailed : entry ∈ scene.log.map (·.1.entry)) : entry.2.name ≠ "required" := by
  intro hname
  obtain ⟨field, d⟩ := entry
  obtain ⟨present, hpresent⟩ := exists_present rule h field
  have hd := (hpresent d _ ((mem_failed_iff h _).1 hfailed)).2 hname
  subst never
  cases present <;> simp at hd

end Check

end Validator

end FieldRules
