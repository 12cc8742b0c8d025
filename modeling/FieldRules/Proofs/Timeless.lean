import FieldRules.Proofs.Reference
import FieldRules.Proofs.Refusal

namespace FieldRules

/-- The judge answers a question alike at any time. -/
def Judge.IsTimeless (judge : Judge) : Prop := ∀ time s, (judge time s).1 = (judge 0 s).1

namespace Registry

/-- The registered rules that answer at once answer a question alike at any time. -/
def IsTimeless (r : Registry) : Prop := r.Judges Judge.IsTimeless

variable {r : Registry}

/-- The rule of presence answers what it should. -/
theorem IsTimeless.presence (h : r.IsTimeless) (time : Nat) (s : Subject) :
    (r.presence time s).1 = r.isPresent s := by
  obtain ⟨timeless, hanswer⟩ := Judges.presence h fun rule _ _ => rfl
  rw [timeless time s, hanswer]

/-- The rule of a name answers what it should. -/
theorem IsTimeless.make (h : r.IsTimeless) {name : String} {predicate : Predicate}
    (hmake : r.make name = .ok predicate) (hsync : predicate.isAsync = false) :
    ∃ judge, predicate.judge? = some judge ∧ ∀ time s, (judge time s).1 = r.answer name s := by
  obtain ⟨judge, hjudge, timeless, hanswer⟩ := Judges.make h (fun rule _ _ => rfl) hmake hsync
  refine ⟨judge, hjudge, fun time s => ?_⟩
  rw [timeless time s, hanswer]

end Registry

namespace Validator

variable {v : Validator} {context : Context}

section Steps

variable {plan : Plan} (timeless : context.registry.IsTimeless)
  (hpresence : plan.presence = context.registry.presence)
  (htrim : plan.trim = context.config.trim)
include timeless hpresence htrim

theorem applies_timeless {entry : String × Directive} {step : Step}
    (hstep : IsStep context v.rules entry step) (now : Context) :
    (plan.applies v.input now step).1 = v.isApplicable context entry := by
  have hfield : step.field = entry.1 := congrArg Prod.fst hstep.entry
  unfold Plan.applies isApplicable
  rw [← hstep.implicit]
  cases step.implicit with
  | true => rfl
  | false =>
    rw [hpresence, htrim, hfield]
    exact timeless.presence now.clock _

/-- A step counts as failed if its directive is failing, whatever came before. -/
theorem failed_checkStep {entry : String × Directive} {step : Step}
    (hstep : IsStep context v.rules entry step) (hsync : step.predicate.isAsync = false)
    (state : Scene × Nat) :
    (v.checkStep plan state step).2 = state.2 + (v.isFailing context entry).toNat := by
  obtain ⟨judge, hjudge, hanswer⟩ := timeless.make hstep.predicate hsync
  obtain ⟨scene, failed⟩ := state
  unfold checkStep isFailing
  simp only [applies_timeless timeless hpresence htrim hstep, hjudge]
  cases v.isApplicable context entry with
  | false => rfl
  | true =>
    have hconsult (now : Context) :
        (now.consult judge (plan.subject v.input step)).1 =
          context.registry.answer entry.2.name (v.subjectOf context entry) := by
      rw [← subject_reference htrim hstep]
      exact hanswer now.clock _
    simp only [hconsult, if_true, Bool.true_and]
    cases context.registry.answer entry.2.name (v.subjectOf context entry) <;> rfl

theorem failed_foldl_checkStep {entries : List (String × Directive)} {steps : List Step}
    (hsteps : List.Forall₂ (IsStep context v.rules) entries steps)
    (hsync : ∀ step ∈ steps, step.predicate.isAsync = false) (state : Scene × Nat) :
    (steps.foldl (v.checkStep plan) state).2 = state.2 + entries.countP (v.isFailing context) := by
  induction hsteps generalizing state with
  | nil => rfl
  | @cons entry step entries steps hstep _ ih =>
    obtain ⟨hfirst, hrest⟩ := List.forall_mem_cons.1 hsync
    rw [List.foldl_cons, ih hrest, failed_checkStep timeless hpresence htrim hstep hfirst,
      List.countP_cons, Nat.add_assoc, Nat.add_comm (v.isFailing context entry).toNat]
    cases v.isFailing context entry <;> rfl

end Steps

/-- A run that is not refused says whether no directive is failing. -/
theorem verdict_of_timeless (timeless : context.registry.IsTimeless) :
    (v.check context).map Prod.fst =
      match v.refusal? context true with
      | some e => .error e
      | none => .ok !v.rules.directives.any (v.isFailing context) := by
  cases hcheck : v.check context with
  | error e =>
    rw [(check_error_iff v context e).1 hcheck]
    rfl
  | ok answer =>
    obtain ⟨passed, scene⟩ := answer
    have hnone : v.refusal? context true = none := by
      cases hrefusal : v.refusal? context true with
      | none => rfl
      | some e => simp [(check_error_iff v context e).2 hrefusal] at hcheck
    obtain ⟨plan, failed, hplan, hasync, hfold, rfl⟩ :=
      (v.check_ok_iff context passed scene).1 hcheck
    obtain ⟨hsteps, hpresence, htrim⟩ := (Plan.make_ok_iff context v.rules plan).1 hplan
    have hsync : ∀ step ∈ plan.steps, step.predicate.isAsync = false := by
      simpa [Plan.hasAsync] using hasync
    have hfailed : failed = v.rules.directives.countP (v.isFailing context) := by
      have hcount := failed_foldl_checkStep timeless hpresence htrim hsteps hsync
        (Validator.scene context, 0)
      rwa [hfold, Nat.zero_add] at hcount
    have hverdict : (failed == 0) = !v.rules.directives.any (v.isFailing context) := by
      rw [Bool.eq_iff_iff, beq_iff_eq, hfailed, List.countP_eq_zero]
      simp
    rw [hnone]
    exact congrArg Except.ok hverdict

end Validator

end FieldRules
