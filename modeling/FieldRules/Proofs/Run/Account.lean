import FieldRules.Proofs.Run.Failure
import FieldRules.Proofs.Run.Verdict

namespace FieldRules.Run

theorem fireIfDone_failed (r : Run) : (fireIfDone r).1.failed = r.failed := by
  unfold fireIfDone
  split <;> rfl

/-- A step counts the failures that it tells. -/
theorem step_failed (r : Run) (op : Operation) :
    (r.step op).1.failed = r.failed + (failuresTold (r.step op).2).length := by
  cases op with
  | add failure => rfl
  | arm => simp [step, arm, fireIfDone_failed]
  | complete slot outcome =>
    obtain ⟨failure, -, heq⟩ | ⟨-, heq⟩ := r.complete_cases slot outcome
    · have hcount : (r.resolve slot outcome).failed = r.failed + (!outcome.passed).toNat := rfl
      have htold : (failuresTold (failedReports failure outcome)).length =
          (!outcome.passed).toNat := by
        cases hp : outcome.passed <;> simp [failedReports, hp, failuresTold, Report.failure?]
      simp only [step, heq, fireIfDone_failed, hcount, failuresTold_append,
        failuresTold_fireIfDone, List.append_nil, htold]
    · simp [step, heq, failuresTold]

/-- A run has told as many failures as it has counted. -/
theorem after_failed (ops : List Operation) :
    (after ops).failed = (failuresTold (steps {} ops).2).length := by
  induction ops using List.reverseRecOn with
  | nil => rfl
  | append_singleton ops op ih =>
    have hstep := step_failed (after ops) op
    rw [after_snoc, hstep, ih, steps_snoc, failuresTold_append, List.length_append, after]

theorem resolved_le_length (ops : List Operation) :
    (after ops).resolved ≤ (after ops).slots.length := by
  have htracks := after_tracks ops
  rw [htracks.resolved, htracks.length_slots]
  exact List.countP_le_length

/-- A slot with a completion takes no other. -/
theorem complete_of_completed {ops : List Operation} {slot : Nat}
    (h : (firstCompletion ops slot).isSome = true) (outcome : Outcome) :
    (after ops).complete slot outcome = (after ops, []) := by
  obtain ⟨failure, hw, -⟩ | ⟨-, heq⟩ := (after ops).complete_cases slot outcome
  · have hwaiting := ((after_tracks ops).waiting_iff slot).1 ⟨failure, hw⟩
    rw [firstCompletion_eq_none_of_waiting hwaiting] at h
    simp at h
  · exact heq

/-- The verdict is the last that an operation tells. -/
theorem eq_nil_of_verdict {r : Run} {op : Operation} {told rest : List Report} {passed : Bool}
    (h : (r.step op).2 = told ++ .verdict passed :: rest) : rest = [] := by
  obtain ⟨failures, hnone, hcase⟩ := step_reports r op
  rcases hcase with heq | ⟨given, heq⟩
  · have hverdict : .verdict passed ∈ failures := by
      rw [← heq, h]
      simp
    exact absurd hverdict (hnone passed)
  · rcases List.eq_nil_or_concat rest with hrest | ⟨others, last, rfl⟩
    · exact hrest
    · rw [h, List.concat_eq_append, ← List.cons_append, ← List.append_assoc] at heq
      have htold := (List.append_singleton_inj.1 heq).1
      have hverdict : .verdict passed ∈ failures := by
        rw [← htold]
        simp
      exact absurd hverdict (hnone passed)

/-- When the verdict comes, all failures have been told. -/
theorem failuresTold_of_verdict {ops : List Operation} {op : Operation} {told rest : List Report}
    {passed : Bool} (h : ((after ops).step op).2 = told ++ .verdict passed :: rest) :
    failuresTold ((steps {} ops).2 ++ told) = failures (ops ++ [op]) := by
  have hlast := eq_nil_of_verdict h
  subst hlast
  have hall : (steps {} (ops ++ [op])).2 = (steps {} ops).2 ++ (told ++ [.verdict passed]) := by
    rw [steps_snoc, ← h, after]
  have hquiet : failuresTold [.verdict passed] = [] := rfl
  rw [← failuresTold_steps, hall, ← List.append_assoc, failuresTold_append _ [_], hquiet,
    List.append_nil]

/-- After any history a run has told one failure for each slot whose first completion fails, and no
other, in the order of these completions and before its verdict. A slot with a completion takes no
other. -/
theorem failures_told_once (ops : List Operation) :
    let run := after ops
    let told := (steps {} ops).2
    run.slots.length = (added ops).length ∧
    run.slots.map Slot.isResolved = (completions ops).map isCompleted ∧
    run.resolved = (completions ops).countP isCompleted ∧ run.resolved ≤ run.slots.length ∧
    run.failed = (completions ops).countP isFailed ∧
    run.failed = (failuresTold told).length ∧
    (failuresTold told).map some = (failedSlots ops).map (failureAt ops) ∧
    (failedSlots ops).Pairwise (CompletedBefore ops) ∧
    (∀ slot, slot ∈ failedSlots ops ↔
      ∃ outcome, firstCompletion ops slot = some outcome ∧ outcome.passed = false) ∧
    (∀ slot outcome, (firstCompletion ops slot).isSome = true →
      run.complete slot outcome = (run, [])) ∧
    ∀ op before passed rest, (run.step op).2 = before ++ .verdict passed :: rest →
      (failuresTold (told ++ before)).map some =
        (failedSlots (ops ++ [op])).map (failureAt (ops ++ [op])) := by
  intro run told
  have htracks : Tracks run ops := after_tracks ops
  have hslots : run.slots.length = (added ops).length := by
    rw [htracks.length_slots, length_added]
  have htold : (failuresTold told).map some = (failedSlots ops).map (failureAt ops) := by
    rw [failuresTold_steps, map_some_failures]
  refine ⟨hslots, htracks.slots, htracks.resolved, resolved_le_length ops, htracks.failed,
    after_failed ops, htold, failedSlots_pairwise ops, fun slot => mem_failedSlots, ?_, ?_⟩
  · intro slot outcome hcompleted
    exact complete_of_completed hcompleted outcome
  · intro op before passed rest h
    rw [failuresTold_of_verdict h, map_some_failures]

end FieldRules.Run
