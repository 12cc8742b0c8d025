import FieldRules.Proofs.Run.Failure
import FieldRules.Proofs.Run.Verdict

namespace FieldRules.Run

/-- When a run is settled, the slots without a completion are those that are yet to be added. -/
theorem Settled.firstCompletion_eq_none_iff {ops : List Operation} (h : Settled ops) (slot : Nat) :
    firstCompletion ops slot = none ↔ (added ops).length ≤ slot := by
  rw [length_added]
  constructor
  · intro hnone
    by_contra hlt
    obtain ⟨outcome, hsome⟩ := settled_firstCompletion h (Nat.lt_of_not_le hlt)
    simp [hnone] at hsome
  · intro hle
    cases hfirst : firstCompletion ops slot with
    | none => rfl
    | some outcome =>
      have hlt := firstCompletion_lt hfirst
      omega

/-- After the verdict there is no other. -/
theorem verdicts_of_fired {ops : List Operation} (h : (after ops).fired = true)
    (others : List Operation) : verdicts ((after ops).steps others).2 = [] := by
  have hbefore : (verdicts (steps {} ops).2).length = 1 := by rw [length_verdicts, h]; rfl
  have hall := length_verdicts (ops ++ others)
  rw [steps_append, verdicts_append, List.length_append, hbefore] at hall
  have hone := Bool.toNat_le (after (ops ++ others)).fired
  rw [← List.length_eq_zero_iff, after]
  omega

/-- Whatever is told is a failure or a verdict. -/
theorem eq_nil_of_told {reports : List Report} (hverdicts : verdicts reports = [])
    (hfailures : failuresTold reports = []) : reports = [] := by
  rw [List.eq_nil_iff_forall_not_mem]
  intro report hm
  cases report with
  | failed failure =>
    have htold := mem_failuresTold.2 hm
    simp [hfailures] at htold
  | verdict passed =>
    have htold := (mem_verdicts reports passed).2 hm
    simp [hverdicts] at htold

/-- After the verdict no other is given, and the failures that are told are those of slots that were
added after it and whose first completion fails, in the order of these completions. -/
theorem late_failures_told {before : List Operation} {op : Operation}
    (given : FirstSettled before op) (others : List Operation) :
    let past := before ++ [op]
    let told := ((after past).steps others).2
    let late := failedSlotsSince past others
    (after past).fired = true ∧ verdicts told = [] ∧
    (failuresTold told).map some = late.map (failureAt (past ++ others)) ∧
    late.Pairwise (CompletedBefore (past ++ others)) ∧
    (∀ slot, slot ∈ late ↔ (added past).length ≤ slot ∧
      ∃ outcome, firstCompletion (past ++ others) slot = some outcome ∧ outcome.passed = false) ∧
    (told = [] ↔ ∀ slot outcome, (added past).length ≤ slot →
      firstCompletion (past ++ others) slot = some outcome → outcome.passed = true) ∧
    (.verdict true ∈ ((after before).step op).2 →
      failuresTold (steps {} (past ++ others)).2 = failuresTold told) := by
  intro past told late
  have hsettled : Settled past := given.1
  have hfired : (after past).fired = true :=
    (after_tracks past).fired.2 ⟨past, List.prefix_refl past, hsettled⟩
  have hverdicts : verdicts told = [] := verdicts_of_fired hfired others
  have htold : (failuresTold told).map some = late.map (failureAt (past ++ others)) :=
    map_some_failuresTold past others
  have hlate (slot : Nat) : slot ∈ late ↔ (added past).length ≤ slot ∧
      ∃ outcome, firstCompletion (past ++ others) slot = some outcome ∧ outcome.passed = false := by
    rw [mem_failedSlotsSince, hsettled.firstCompletion_eq_none_iff]
  refine ⟨hfired, hverdicts, htold, failedSlotsSince_pairwise past others, hlate, ?_, ?_⟩
  · constructor
    · intro hnil slot outcome hslot hfirst
      by_contra hfails
      have hin : slot ∈ late := (hlate slot).2 ⟨hslot, outcome, hfirst, by simpa using hfails⟩
      rw [hnil] at htold
      rw [List.map_eq_nil_iff.1 htold.symm] at hin
      simp at hin
    · intro hpass
      refine eq_nil_of_told hverdicts ?_
      have hnone : late = [] := by
        rw [List.eq_nil_iff_forall_not_mem]
        intro slot hin
        obtain ⟨hslot, outcome, hfirst, hfails⟩ := (hlate slot).1 hin
        rw [hpass slot outcome hslot hfirst] at hfails
        simp at hfails
      rw [hnone] at htold
      exact List.map_eq_nil_iff.1 htold
  · intro hpositive
    have hunfailed : Unfailed past := ((verdict_mem_step_iff before op true).1 hpositive).2.1 rfl
    have hnone : failuresTold (steps {} past).2 = [] := by
      rw [failuresTold_steps, failures, (unfailed_iff_failedSlots past).1 hunfailed]
      rfl
    rw [steps_append, failuresTold_append, hnone]
    rfl

def nameFailure : Failure := ⟨"name", ⟨"exists", none⟩, .string, none⟩

def emailFailure : Failure := ⟨"email", ⟨"unique", none⟩, .string, none⟩

theorem name_firstSettled : FirstSettled [.add nameFailure, .complete 0 .pass] .arm := by
  refine ⟨⟨by decide, by decide⟩, fun earlier hp hs => ?_⟩
  have harmed := hp.subset hs.1
  revert harmed
  decide

theorem late_failures_told_email :
    let before := [Operation.add nameFailure, .complete 0 .pass]
    let others := [Operation.add emailFailure, .complete 1 (.failWith "taken"), .complete 1 .pass]
    FirstSettled before .arm ∧
    .verdict true ∈ ((after before).step .arm).2 ∧
    verdicts ((after (before ++ [.arm])).steps others).2 = [] ∧
    failuresTold (steps {} (before ++ [.arm] ++ others)).2 =
      [{ emailFailure with message := some "taken" }] ∧
    ((after (before ++ [.arm])).steps [.add emailFailure, .complete 1 .pass]).2 = [] := by
  intro before others
  obtain ⟨-, hverdicts, -, -, -, -, hall⟩ := late_failures_told name_firstSettled others
  obtain ⟨-, -, -, -, -, hquiet, -⟩ :=
    late_failures_told name_firstSettled [.add emailFailure, .complete 1 .pass]
  have hpositive : .verdict true ∈ ((after before).step .arm).2 := by decide
  refine ⟨name_firstSettled, hpositive, hverdicts, (hall hpositive).trans (by decide),
    hquiet.2 fun slot outcome hslot hfirst => ?_⟩
  have hadded : slot < 2 := firstCompletion_lt hfirst
  obtain rfl : slot = 1 := by
    have hold : 1 ≤ slot := hslot
    omega
  obtain rfl : Outcome.pass = outcome := Option.some.inj hfirst
  rfl

/-- The run has passed, and then it tells a failure: the slot was added after the verdict. -/
theorem late_failure_after_passing :
    let past := [Operation.add nameFailure, .complete 0 .pass, .arm]
    (steps {} past).2 = [.verdict true] ∧ (after past).fired = true ∧
    ((after past).steps [.add emailFailure, .complete 1 (.failWith "taken")]).2 =
      [.failed { emailFailure with message := some "taken" }] ∧
    ((after past).steps [.add emailFailure, .complete 1 .fail]).2 = [.failed emailFailure] := by
  decide

end FieldRules.Run
