import FieldRules.Engine.Validator
import Mathlib.Data.List.Forall2

namespace FieldRules

theorem mapM_eq_ok {α β ε : Type} (f : α → Except ε β) (l : List α) (r : List β) :
    l.mapM f = .ok r ↔ List.Forall₂ (fun a b => f a = .ok b) l r := by
  induction l generalizing r with
  | nil => simp [pure, Except.pure, eq_comm]
  | cons a rest ih =>
    simp only [List.mapM_cons, List.forall₂_cons_left_iff, bind, Except.bind]
    cases ha : f a with
    | error e => simp
    | ok b =>
      cases hrest : rest.mapM f with
      | error e => simp [← ih, hrest]
      | ok bs => simp [← ih, hrest, pure, Except.pure, eq_comm]

/-- The directive that a step is of, with its field. -/
def Step.entry (step : Step) : String × Directive := (step.field, step.directive)

/-- The step that a plan has for a directive of a field. -/
structure IsStep (context : Context) (rules : RuleSet) (directive : String × Directive)
    (step : Step) : Prop where
  entry : step.entry = directive
  predicate : context.registry.make directive.2.name = .ok step.predicate
  implicit : step.implicit = context.registry.isImplicit directive.2.name
  numeric : step.numeric = rules.isNumeric directive.1

theorem Step.make_ok_iff (context : Context) (rules : RuleSet) (directive : String × Directive)
    (step : Step) :
    Step.make context rules directive = .ok step ↔ IsStep context rules directive step := by
  obtain ⟨field, directive⟩ := directive
  unfold Step.make
  cases hp : context.registry.make directive.name with
  | error e =>
    simp only [hp, bind, Except.bind, reduceCtorEq, false_iff]
    intro h
    have hmake := h.predicate
    simp [hp] at hmake
  | ok predicate =>
    simp only [hp, bind, Except.bind, pure, Except.pure, Except.ok.injEq]
    constructor
    · intro he
      subst he
      exact ⟨rfl, hp, rfl, rfl⟩
    · intro hin
      obtain ⟨hentry, hmake, himplicit, hnumeric⟩ := hin
      obtain ⟨rfl, rfl⟩ := Prod.mk.inj hentry
      obtain rfl : predicate = step.predicate := by simpa [hp] using hmake
      rw [← himplicit, ← hnumeric]

theorem Plan.make_ok_iff (context : Context) (rules : RuleSet) (plan : Plan) :
    Plan.make context rules = .ok plan ↔
      List.Forall₂ (IsStep context rules) rules.directives plan.steps ∧
        plan.presence = context.registry.presence ∧ plan.trim = context.config.trim := by
  have hmap := mapM_eq_ok (Step.make context rules) rules.directives
  simp only [Step.make_ok_iff] at hmap
  obtain ⟨steps, presence, trim⟩ := plan
  unfold Plan.make
  simp only [← hmap]
  cases rules.directives.mapM (Step.make context rules) with
  | error e => simp [bind, Except.bind]
  | ok made => simp [bind, Except.bind, pure, Except.pure, eq_comm]

theorem Registry.knows_iff (r : Registry) (name : String) :
    r.knows name = true ↔ ∃ predicate, r.make name = .ok predicate := by
  unfold knows Registry.make Dict.contains
  cases r.get? name with
  | some entry => simp
  | none => cases Builtin.ofName? name <;> simp

/-- The registry says of a rule whether it is asynchronous. -/
theorem Registry.isAsync_of_make {r : Registry} {name : String} {predicate : Predicate}
    (h : r.make name = .ok predicate) : predicate.isAsync = r.isAsync name := by
  unfold Registry.make at h
  unfold Registry.isAsync
  cases there : r.get? name with
  | some entry =>
    simp only [there, Except.ok.injEq] at h
    rw [← h]
  | none =>
    cases hname : Builtin.ofName? name with
    | none => simp [there, hname] at h
    | some rule =>
      simp only [there, hname, Except.ok.injEq] at h
      rw [← h]
      rfl

/-- There is a step for every directive if and only if there is one for each. -/
theorem exists_forall₂_iff {α β : Type} (R : α → β → Prop) (l : List α) :
    (∃ r, List.Forall₂ R l r) ↔ ∀ a ∈ l, ∃ b, R a b := by
  induction l with
  | nil => exact ⟨by simp, fun _ => ⟨[], .nil⟩⟩
  | cons a rest ih =>
    rw [List.forall_mem_cons, ← ih]
    constructor
    · intro h
      obtain ⟨_, hall⟩ := h
      cases hall with
      | cons hfirst hrest => exact ⟨⟨_, hfirst⟩, ⟨_, hrest⟩⟩
    · intro h
      obtain ⟨⟨b, hfirst⟩, ⟨r, hrest⟩⟩ := h
      exact ⟨b :: r, .cons hfirst hrest⟩

/-- There is a plan if and only if every directive has a rule. -/
theorem Plan.exists_make_iff (context : Context) (rules : RuleSet) :
    (∃ plan, Plan.make context rules = .ok plan) ↔
      ∀ entry ∈ rules.directives, context.registry.knows entry.2.name = true := by
  have hstep (entry : String × Directive) :
      (∃ step, IsStep context rules entry step) ↔ context.registry.knows entry.2.name = true := by
    rw [Registry.knows_iff]
    constructor
    · intro h
      obtain ⟨step, hstep⟩ := h
      exact ⟨step.predicate, hstep.predicate⟩
    · intro h
      obtain ⟨predicate, hmake⟩ := h
      exact ⟨⟨entry.1, entry.2, predicate, _, _⟩, rfl, hmake, rfl, rfl⟩
  simp only [← hstep, ← exists_forall₂_iff, Plan.make_ok_iff]
  constructor
  · intro h
    obtain ⟨plan, hsteps, -⟩ := h
    exact ⟨plan.steps, hsteps⟩
  · intro h
    obtain ⟨steps, hsteps⟩ := h
    exact ⟨⟨steps, context.registry.presence, context.config.trim⟩, hsteps, rfl, rfl⟩

/-- The steps of a plan are those of the directives, in order. -/
theorem Plan.make_entries {context : Context} {rules : RuleSet} {plan : Plan}
    (h : Plan.make context rules = .ok plan) : plan.steps.map Step.entry = rules.directives := by
  have hsteps := ((make_ok_iff context rules plan).1 h).1
  have heq := hsteps.imp fun _ _ hstep => hstep.entry
  have hmap := List.forall₂_map_right_iff.2 (heq.imp fun _ _ h => h.symm)
  exact (List.forall₂_eq_eq_eq ▸ hmap : rules.directives = _).symm

/-- A step of a plan says what the rules say of its field. -/
theorem Plan.numeric_of_make {context : Context} {rules : RuleSet} {plan : Plan}
    (h : Plan.make context rules = .ok plan) {step : Step} (hstep : step ∈ plan.steps) :
    step.numeric = rules.isNumeric step.field := by
  have hsteps := ((make_ok_iff context rules plan).1 h).1
  generalize rules.directives = entries, plan.steps = steps at hsteps hstep
  induction hsteps with
  | nil => simp at hstep
  | @cons entry first _ _ hfirst _ ih =>
    rcases List.mem_cons.1 hstep with rfl | hrest
    · have hfield : step.field = entry.1 := congrArg Prod.fst hfirst.entry
      rw [hfirst.numeric, hfield]
    · exact ih hrest

end FieldRules
