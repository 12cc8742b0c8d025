import FieldRules.Proofs.Check

namespace FieldRules

namespace RuleSet

/-- The name of the first directive that has no rule. -/
def firstUnknown? (rules : RuleSet) (r : Registry) : Option String :=
  (rules.directives.find? fun entry => !r.knows entry.2.name).map fun entry => entry.2.name

/-- Whether some directive has an asynchronous rule. -/
def hasAsync (rules : RuleSet) (r : Registry) : Bool :=
  rules.directives.any fun entry => r.isAsync entry.2.name

theorem firstUnknown?_eq_none_iff (rules : RuleSet) (r : Registry) :
    rules.firstUnknown? r = none ↔ ∀ entry ∈ rules.directives, r.knows entry.2.name = true := by
  simp [firstUnknown?]

end RuleSet

theorem Registry.make_of_unknown {r : Registry} {name : String} (h : r.knows name = false) :
    r.make name = .error (.unknownRule name) := by
  unfold knows Dict.contains at h
  unfold Registry.make
  cases there : r.get? name with
  | some entry => simp [there] at h
  | none =>
    cases hname : Builtin.ofName? name with
    | some rule => simp [hname] at h
    | none => rfl

/-- Going through a list stops at the first that fails. -/
theorem mapM_eq_error_iff {α β ε : Type} (f : α → Except ε β) (bad : α → Bool) (error : α → ε)
    (hbad : ∀ a, bad a = true → f a = .error (error a))
    (hgood : ∀ a, bad a = false → ∃ b, f a = .ok b) (l : List α) (e : ε) :
    l.mapM f = .error e ↔ (l.find? bad).map error = some e := by
  induction l with
  | nil => simp [pure, Except.pure]
  | cons a rest ih =>
    rw [List.mapM_cons]
    cases ha : bad a with
    | true => simp [hbad a ha, ha, bind, Except.bind]
    | false =>
      obtain ⟨b, hb⟩ := hgood a ha
      simp only [List.find?_cons, ha, ← ih, hb, bind, Except.bind]
      cases rest.mapM f <;> simp [pure, Except.pure]

theorem Step.make_of_unknown (context : Context) (rules : RuleSet) {entry : String × Directive}
    (h : context.registry.knows entry.2.name = false) :
    Step.make context rules entry = .error (.unknownRule entry.2.name) := by
  obtain ⟨field, directive⟩ := entry
  simp only [Step.make, Registry.make_of_unknown h]
  rfl

theorem Step.make_of_known (context : Context) (rules : RuleSet) {entry : String × Directive}
    (h : context.registry.knows entry.2.name = true) :
    ∃ step, Step.make context rules entry = .ok step := by
  obtain ⟨predicate, hmake⟩ := (Registry.knows_iff _ _).1 h
  have hstep : IsStep context rules entry
      ⟨entry.1, entry.2, predicate, context.registry.isImplicit entry.2.name,
        rules.isNumeric entry.1⟩ := ⟨rfl, hmake, rfl, rfl⟩
  exact ⟨_, (Step.make_ok_iff context rules entry _).2 hstep⟩

namespace Plan

theorem make_error_iff (context : Context) (rules : RuleSet) (e : RuleError) :
    Plan.make context rules = .error e ↔
      (rules.firstUnknown? context.registry).map .unknownRule = some e := by
  have hmap := mapM_eq_error_iff (Step.make context rules)
    (fun entry => !context.registry.knows entry.2.name) (fun entry => .unknownRule entry.2.name)
    (fun entry h => Step.make_of_unknown context rules (by simpa using h))
    (fun entry h => Step.make_of_known context rules (by simpa using h)) rules.directives e
  have hname : (rules.firstUnknown? context.registry).map RuleError.unknownRule =
      (rules.directives.find? fun entry => !context.registry.knows entry.2.name).map
        fun entry => .unknownRule entry.2.name := by
    rw [RuleSet.firstUnknown?, Option.map_map]
    rfl
  rw [hname, ← hmap, Plan.make]
  cases rules.directives.mapM (Step.make context rules) <;>
    simp [bind, Except.bind, pure, Except.pure]

/-- A plan has an asynchronous rule if some directive has. -/
theorem hasAsync_of_make {context : Context} {rules : RuleSet} {plan : Plan}
    (h : Plan.make context rules = .ok plan) : plan.hasAsync = rules.hasAsync context.registry := by
  have hsteps := ((make_ok_iff context rules plan).1 h).1
  unfold hasAsync RuleSet.hasAsync
  generalize rules.directives = entries, plan.steps = steps at hsteps
  induction hsteps with
  | nil => rfl
  | cons hfirst _ ih =>
    rw [List.any_cons, List.any_cons, ih, Registry.isAsync_of_make hfirst.predicate]

/-- Either some directive has no rule, and the first one is named, or there is a plan. -/
theorem make_cases (context : Context) (rules : RuleSet) :
    (∃ name, rules.firstUnknown? context.registry = some name ∧
      Plan.make context rules = .error (.unknownRule name)) ∨
    (rules.firstUnknown? context.registry = none ∧ ∃ plan, Plan.make context rules = .ok plan ∧
      plan.hasAsync = rules.hasAsync context.registry) := by
  cases hmake : Plan.make context rules with
  | error e =>
    obtain ⟨name, hname, rfl⟩ := Option.map_eq_some_iff.1 ((make_error_iff context rules e).1 hmake)
    exact .inl ⟨name, hname, rfl⟩
  | ok plan =>
    have hknown := (exists_make_iff context rules).1 ⟨plan, hmake⟩
    exact .inr ⟨(rules.firstUnknown?_eq_none_iff _).2 hknown, plan, rfl, hasAsync_of_make hmake⟩

end Plan

namespace Validator

/-- Why a validator cannot run as things are, if it cannot; `atOnce` says that the run has to answer
at once. -/
def refusal? (v : Validator) (context : Context) (atOnce : Bool) : Option RuleError :=
  match v.rules.firstUnknown? context.registry with
  | some name => some (.unknownRule name)
  | none => if atOnce && v.rules.hasAsync context.registry then some .asyncRules else none

theorem plan_error_iff (v : Validator) (context : Context) (e : RuleError) :
    v.plan context = .error e ↔ v.refusal? context false = some e := by
  have hmake := Plan.make_error_iff context v.rules e
  rw [plan, hmake, refusal?]
  cases v.rules.firstUnknown? context.registry <;> simp

theorem check_error_iff (v : Validator) (context : Context) (e : RuleError) :
    v.check context = .error e ↔ v.refusal? context true = some e := by
  unfold check refusal? plan
  rcases Plan.make_cases context v.rules with ⟨name, hname, hmake⟩ | ⟨hnone, plan, hmake, hasync⟩
  · simp [hname, hmake, bind, Except.bind]
  · rw [← hasync]
    cases hplan : plan.hasAsync <;>
      simp [hnone, hmake, hplan, bind, Except.bind, pure, Except.pure, throw, throwThe,
        MonadExceptOf.throw]

/-- A validator says whether it needs time, or which rule it misses. -/
theorem hasAsync_eq (v : Validator) (context : Context) :
    v.hasAsync context =
      match v.rules.firstUnknown? context.registry with
      | some name => .error (.unknownRule name)
      | none => .ok (v.rules.hasAsync context.registry) := by
  unfold hasAsync plan
  rcases Plan.make_cases context v.rules with ⟨name, hname, hmake⟩ | ⟨hnone, plan, hmake, hasync⟩
  · simp [hname, hmake, Except.map]
  · simp [hnone, hmake, hasync, Except.map]

/-- A validator is made of an object, if every directive has a rule. -/
theorem create_object (context : Context) (members : Fields) (rules : RawRules) :
    Validator.create context (.object members) rules =
      match (RuleSet.parse rules).firstUnknown? context.registry with
      | some name => .error (.unknownRule name)
      | none => .ok ⟨members, RuleSet.parse rules, {}, MessageBag.empty⟩ := by
  unfold Validator.create
  rcases Plan.make_cases context (RuleSet.parse rules) with
    ⟨name, hname, hmake⟩ | ⟨hnone, plan, hmake, -⟩
  · simp [hname, hmake, bind, Except.bind]
  · simp [hnone, hmake, bind, Except.bind, pure, Except.pure]

theorem create_of_not_object (context : Context) {input : Json} (rules : RawRules)
    (h : ∀ members, input ≠ .object members) :
    Validator.create context input rules = .error (.inputNotObject input.typeName) := by
  cases input with
  | object members => exact absurd rfl (h members)
  | _ => rfl

end Validator

end FieldRules
