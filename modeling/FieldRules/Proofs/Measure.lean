import FieldRules.Proofs.Presence
import FieldRules.Proofs.Reference

namespace FieldRules

/-- What values of a kind are measured by. -/
def SizeKind.measure : SizeKind → Json → Option Float
  | numeric, value => value.asNumber
  | string, .string s => some (Decimal.ofInt s.length)
  | array, .array items => some (Decimal.ofInt items.length)
  | _, _ => none

theorem Json.size?_eq_measure (numeric : Bool) (value : Json) :
    value.size? numeric = (SizeKind.of numeric value).measure value := by
  unfold Json.size?
  cases SizeKind.of numeric value <;> cases value <;> rfl

/-- Only values of no kind have no measure. -/
theorem Json.size?_eq_none_iff (numeric : Bool) (value : Json) :
    value.size? numeric = none ↔ SizeKind.of numeric value = .unsized := by
  rw [size?_eq_measure]
  cases value with
  | string s =>
    rw [SizeKind.of]
    split
    · next hnumber =>
      obtain ⟨x, hx⟩ := Option.isSome_iff_exists.1 (Bool.and_eq_true_iff.1 hnumber).2
      simp [SizeKind.measure, hx]
    · simp [SizeKind.measure]
  | _ => simp [SizeKind.of, SizeKind.measure, Json.asNumber]

namespace Validator

/-- The kind of the value of a field. -/
def kindOf (v : Validator) (field : String) : SizeKind :=
  SizeKind.of (v.rules.isNumeric field) (v.input.value field)

/-- The failure goes by the kind by which the value of its field is measured, and by no kind exactly
if there is no measure. -/
def Measures (v : Validator) (f : Failure) : Prop :=
  ∀ context, let s := v.subjectOf context f.entry
    f.kind = SizeKind.of s.numeric s.value ∧ s.size? = f.kind.measure s.value ∧
      (s.size? = none ↔ f.kind = .unsized)

theorem measures_of_kind {v : Validator} {f : Failure} (h : f.kind = v.kindOf f.field) :
    v.Measures f := by
  intro context s
  have hkind : f.kind = SizeKind.of s.numeric s.value := h
  rw [hkind]
  exact ⟨rfl, Json.size?_eq_measure s.numeric s.value, Json.size?_eq_none_iff s.numeric s.value⟩

/-- A step tells of no failure, or of its own after its rule said no. -/
theorem log_checkStep (v : Validator) (plan : Plan) (state : Scene × Nat) (step : Step) :
    (v.checkStep plan state step).1.log = state.1.log ∨
      ∃ judge time later, step.predicate.judge? = some judge ∧
        (judge time (plan.subject v.input step)).1 = false ∧
        (v.checkStep plan state step).1.log =
          state.1.log ++ [(v.failureOf step, v.word later (v.failureOf step))] := by
  obtain ⟨scene, failed⟩ := state
  unfold checkStep
  simp only
  split
  · split
    · next judge hjudge =>
      split
      · exact .inl rfl
      · next hfailed =>
        refine .inr ⟨judge, (plan.applies v.input scene.context step).2.clock, _, hjudge, ?_, rfl⟩
        exact Bool.eq_false_iff.2 hfailed
    · exact .inl rfl
  · exact .inl rfl

/-- Whatever a run tells is the failure of a step whose rule said no, worded as things were. -/
theorem mem_log_foldl {v : Validator} {plan : Plan} {steps : List Step} {state : Scene × Nat}
    {f : Failure} {message : String}
    (h : (f, message) ∈ (steps.foldl (v.checkStep plan) state).1.log) :
    (f, message) ∈ state.1.log ∨
      ∃ step ∈ steps, ∃ judge time later, step.predicate.judge? = some judge ∧
        (judge time (plan.subject v.input step)).1 = false ∧ f = v.failureOf step ∧
        message = v.word later f := by
  induction steps generalizing state with
  | nil => exact .inl h
  | cons step rest ih =>
    obtain hold | ⟨later, hm, hlater⟩ := ih h
    · obtain hlog | ⟨judge, time, now, hjudge, hfailed, hlog⟩ := log_checkStep v plan state step
      · exact .inl (hlog ▸ hold)
      · rw [hlog, List.mem_append, List.mem_singleton] at hold
        refine hold.imp_right fun hnew => ?_
        obtain ⟨rfl, rfl⟩ := Prod.mk.inj hnew
        exact ⟨step, List.mem_cons_self, judge, time, now, hjudge, hfailed, rfl, rfl⟩
    · exact .inr ⟨later, List.mem_cons_of_mem _ hm, hlater⟩

/-- What a synchronous run tells goes by the kind of its value. If the rule is a built-in one, then
it does not accept what it sees. -/
theorem kind_of_mem_log {v : Validator} {context : Context} {passed : Bool} {scene : Scene}
    (h : v.check context = .ok (passed, scene)) {f : Failure} {message : String}
    (hm : (f, message) ∈ scene.log) :
    f.kind = v.kindOf f.field ∧ (∃ later, message = v.word later f) ∧
      ∀ rule, context.registry.make f.directive.name = .ok (.builtin rule) →
        rule.holds (v.subjectOf context f.entry) = false := by
  obtain ⟨plan, failed, hplan, -, hfold, -⟩ := (v.check_ok_iff context passed scene).1 h
  have hlog : (f, message) ∈
      (plan.steps.foldl (v.checkStep plan) (Validator.scene context, 0)).1.log := by rwa [hfold]
  obtain hnone | ⟨step, hstep, judge, time, later, hjudge, hfailed, rfl, hmessage⟩ :=
    mem_log_foldl hlog
  · simp [Validator.scene] at hnone
  · have hsource := Plan.isStep_of_make hplan hstep
    have htrim := ((Plan.make_ok_iff context v.rules plan).1 hplan).2.2
    refine ⟨?_, ⟨later, hmessage⟩, fun rule hrule => ?_⟩
    · rw [failureOf, hsource.numeric]
      rfl
    · rw [subject_reference htrim hsource] at hfailed
      have hpredicate : step.predicate = .builtin rule :=
        Except.ok.inj (hsource.predicate.symm.trans hrule)
      rw [hpredicate] at hjudge
      rw [← Option.some.inj hjudge] at hfailed
      exact hfailed

end Validator

end FieldRules
