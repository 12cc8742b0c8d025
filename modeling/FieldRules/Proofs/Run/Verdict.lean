import FieldRules.Proofs.Run.History

namespace FieldRules.Run

/-- The verdicts among the reports of a run. -/
def verdicts (reports : List Report) : List Bool := reports.filterMap Report.verdict?

@[simp]
theorem mem_verdicts (reports : List Report) (passed : Bool) :
    passed ∈ verdicts reports ↔ .verdict passed ∈ reports := by
  simp only [verdicts, List.mem_filterMap]
  constructor
  · intro hin
    obtain ⟨report, hr, hv⟩ := hin
    cases report <;> simp_all [Report.verdict?]
  · exact fun h => ⟨_, h, rfl⟩

@[simp]
theorem verdicts_append (first others : List Report) :
    verdicts (first ++ others) = verdicts first ++ verdicts others := List.filterMap_append

@[simp]
theorem verdicts_failedReports (failure : Failure) (outcome : Outcome) :
    verdicts (failedReports failure outcome) = [] := by
  unfold failedReports
  split <;> rfl

theorem fireIfDone_verdicts (r : Run) :
    verdicts (fireIfDone r).2 =
      if (fireIfDone r).1.fired && !r.fired then [(fireIfDone r).1.failed == 0] else [] := by
  unfold fireIfDone
  split <;> simp_all [verdicts, Report.verdict?]

/-- A step tells a verdict exactly if it sets the mark that the verdict was given. -/
theorem step_verdicts (r : Run) (op : Operation) :
    verdicts (r.step op).2 =
      if (r.step op).1.fired && !r.fired then [(r.step op).1.failed == 0] else [] := by
  cases op with
  | add failure => simp [step, add, verdicts]
  | arm => exact fireIfDone_verdicts { r with armed := true }
  | complete slot outcome =>
    obtain ⟨failure, _, heq⟩ | ⟨_, heq⟩ := r.complete_cases slot outcome
    · have hfired : (r.resolve slot outcome).fired = r.fired := rfl
      simpa [step, heq, hfired] using fireIfDone_verdicts (r.resolve slot outcome)
    · simp [step, heq, verdicts]

theorem step_fired_of_fired {r : Run} (op : Operation) (h : r.fired = true) :
    (r.step op).1.fired = true := by
  cases op with
  | add failure => exact h
  | arm => simp [step, arm, fireIfDone_fired, h]
  | complete slot outcome =>
    obtain ⟨failure, _, heq⟩ | ⟨_, heq⟩ := r.complete_cases slot outcome
    · have hfired : (r.resolve slot outcome).fired = true := h
      simp [step, heq, fireIfDone_fired, hfired]
    · simpa [step, heq] using h

/-- The run is settled by this operation, and was never before. -/
def FirstSettled (ops : List Operation) (op : Operation) : Prop :=
  Settled (ops ++ [op]) ∧ ∀ earlier, earlier <+: ops → ¬ Settled earlier

theorem verdict_mem_step_iff (ops : List Operation) (op : Operation) (passed : Bool) :
    .verdict passed ∈ ((after ops).step op).2 ↔
      FirstSettled ops op ∧ (passed = true ↔ Unfailed (ops ++ [op])) := by
  have hnow := after_tracks ops
  have hnext := step_tracks hnow op
  have hfirst : (((after ops).step op).1.fired && !(after ops).fired) = true ↔
      FirstSettled ops op := by
    simp only [Bool.and_eq_true, Bool.not_eq_true', ← Bool.not_eq_true, hnext.fired, hnow.fired,
      exists_settled_snoc, FirstSettled]
    grind
  have hvalue : passed = (((after ops).step op).1.failed == 0) ↔
      (passed = true ↔ Unfailed (ops ++ [op])) := by
    rw [hnext.unfailed_iff, Bool.eq_iff_iff, beq_iff_eq]
  rw [← mem_verdicts, step_verdicts, ← hfirst, ← hvalue]
  split <;> simp_all

/-- A run gives one verdict or none. -/
theorem length_verdicts (ops : List Operation) :
    (verdicts (steps {} ops).2).length = (after ops).fired.toNat := by
  induction ops using List.reverseRecOn with
  | nil => rfl
  | append_singleton ops op ih =>
    have hkeep := step_fired_of_fired (r := after ops) op
    rw [steps_snoc, verdicts_append, List.length_append, ih, after_snoc, step_verdicts]
    simp only [after] at hkeep ⊢
    cases hb : (steps {} ops).1.fired <;> cases ha : ((steps {} ops).1.step op).1.fired <;> simp_all

theorem fireIfDone_reports (r : Run) :
    (fireIfDone r).2 = [] ∨ ∃ passed, (fireIfDone r).2 = [.verdict passed] := by
  unfold fireIfDone
  split
  · exact .inr ⟨_, rfl⟩
  · exact .inl rfl

/-- One operation tells failures before the verdict, if it tells that at all. -/
theorem step_reports (r : Run) (op : Operation) :
    ∃ told, (∀ passed, .verdict passed ∉ told) ∧
      ((r.step op).2 = told ∨ ∃ passed, (r.step op).2 = told ++ [.verdict passed]) := by
  have hfire (told : List Report) (r' : Run) :
      told ++ (fireIfDone r').2 = told ∨
        ∃ passed, told ++ (fireIfDone r').2 = told ++ [.verdict passed] := by
    rcases fireIfDone_reports r' with heq | ⟨passed, heq⟩
    · exact .inl (by rw [heq, List.append_nil])
    · exact .inr ⟨passed, by rw [heq]⟩
  cases op with
  | add failure => exact ⟨[], by simp, .inl rfl⟩
  | arm => exact ⟨[], by simp, hfire [] { r with armed := true }⟩
  | complete slot outcome =>
    obtain ⟨failure, -, heq⟩ | ⟨-, heq⟩ := r.complete_cases slot outcome
    · refine ⟨failedReports failure outcome, fun passed => ?_, ?_⟩
      · rw [← mem_verdicts, verdicts_failedReports]
        simp
      · simp only [step, heq]
        exact hfire _ _
    · exact ⟨[], by simp, .inl (by simp only [step, heq])⟩

/-- All failures are told before the verdict. -/
theorem steps_of_firstSettled {ops : List Operation} {op : Operation} (h : FirstSettled ops op) :
    ∃ told passed, (steps {} (ops ++ [op])).2 = told ++ [.verdict passed] ∧
      ∀ other, .verdict other ∉ told := by
  have hbefore : verdicts (steps {} ops).2 = [] := by
    have hlength := length_verdicts ops
    have hfired : (after ops).fired = false := by
      rw [← Bool.not_eq_true, (after_tracks ops).fired]
      intro hin
      obtain ⟨earlier, hp, hs⟩ := hin
      exact h.2 earlier hp hs
    rw [hfired] at hlength
    exact List.length_eq_zero_iff.1 hlength
  obtain ⟨passed, hverdict⟩ : ∃ passed, .verdict passed ∈ ((after ops).step op).2 := by
    classical
    refine ⟨decide (Unfailed (ops ++ [op])), ?_⟩
    rw [verdict_mem_step_iff]
    exact ⟨h, by simp⟩
  obtain ⟨told, htold, hcase⟩ := step_reports (after ops) op
  rcases hcase with heq | ⟨given, heq⟩
  · rw [heq] at hverdict
    exact absurd hverdict (htold passed)
  · refine ⟨(steps {} ops).2 ++ told, given, ?_, ?_⟩
    · have hsnoc := steps_snoc {} ops op
      rw [after] at heq
      rw [hsnoc, heq, List.append_assoc]
    · intro other hm
      rcases List.mem_append.1 hm with hm | hm
      · rw [← mem_verdicts, hbefore] at hm
        simp at hm
      · exact htold other hm

/-- Over any history at most one verdict is given, by the operation after which the run is for the
first time armed with every slot completed; it is positive if and only if no first completion of a
slot failed. -/
theorem verdict_when_first_settled (ops : List Operation) :
    (verdicts (steps {} ops).2).length ≤ 1 ∧
    (∀ before op rest, ops = before ++ op :: rest → ∀ passed,
      .verdict passed ∈ ((after before).step op).2 ↔
        FirstSettled before op ∧ (passed = true ↔ Unfailed (before ++ [op]))) ∧
    ((after ops).fired = true ↔ ∃ earlier, earlier <+: ops ∧ Settled earlier) := by
  refine ⟨?_, ?_, (after_tracks ops).fired⟩
  · rw [length_verdicts]
    exact Bool.toNat_le _
  · intro before op rest _ passed
    exact verdict_mem_step_iff before op passed

end FieldRules.Run
