import FieldRules.Proofs.Run.History

namespace FieldRules.Run

theorem firstCompletion_eq_none_of_waiting {ops : List Operation} {slot : Nat}
    (h : (completions ops)[slot]? = some []) : firstCompletion ops slot = none := by
  simp [firstCompletion, h]

def Report.failure? : Report → Option Failure
  | failed failure => some failure
  | verdict _ => none

/-- The failures among the reports of a run. -/
def failuresTold (reports : List Report) : List Failure := reports.filterMap Report.failure?

/-- What the slots were added with, in order. -/
def added (ops : List Operation) : List Failure :=
  ops.filterMap fun
    | .add failure => some failure
    | _ => none

/-- The slot that fails by an operation: it has no completion so far, and gets a failing one. -/
def newlyFailed (past : List Operation) : Operation → Option Nat
  | .complete slot outcome =>
    if (completions past)[slot]? = some [] ∧ outcome.passed = false then some slot else none
  | _ => none

def failedSlotsSince (past : List Operation) : List Operation → List Nat
  | [] => []
  | op :: rest => (newlyFailed past op).toList ++ failedSlotsSince (past ++ [op]) rest

/-- The slots with a failing first completion, in the order of these completions. -/
def failedSlots (ops : List Operation) : List Nat := failedSlotsSince [] ops

/-- What a slot was added with, and the template of its first completion. -/
def failureAt (ops : List Operation) (slot : Nat) : Option Failure :=
  (added ops)[slot]?.map fun failure =>
    { failure with message := (firstCompletion ops slot).bind Outcome.message? }

/-- The first slot had a completion when the other one had none. -/
def CompletedBefore (ops : List Operation) (slot other : Nat) : Prop :=
  ∃ earlier, earlier <+: ops ∧ (firstCompletion earlier slot).isSome = true ∧
    firstCompletion earlier other = none

@[simp]
theorem failuresTold_append (first others : List Report) :
    failuresTold (first ++ others) = failuresTold first ++ failuresTold others :=
  List.filterMap_append

@[simp]
theorem failuresTold_fireIfDone (r : Run) : failuresTold (fireIfDone r).2 = [] := by
  unfold fireIfDone
  split <;> rfl

@[simp]
theorem mem_failuresTold {failure : Failure} {reports : List Report} :
    failure ∈ failuresTold reports ↔ .failed failure ∈ reports := by
  simp only [failuresTold, List.mem_filterMap]
  constructor
  · intro hin
    obtain ⟨report, hm, heq⟩ := hin
    cases report with
    | failed other =>
      obtain rfl := Option.some.inj heq
      exact hm
    | verdict passed => simp [Report.failure?] at heq
  · intro hm
    exact ⟨_, hm, rfl⟩

theorem failedSlotsSince_snoc (past ops : List Operation) (op : Operation) :
    failedSlotsSince past (ops ++ [op]) =
      failedSlotsSince past ops ++ (newlyFailed (past ++ ops) op).toList := by
  induction ops generalizing past with
  | nil => simp [failedSlotsSince]
  | cons first rest ih => simp [failedSlotsSince, ih]

theorem added_snoc (ops : List Operation) (op : Operation) :
    added (ops ++ [op]) = added ops ++ match op with | .add failure => [failure] | _ => [] := by
  cases op <;> simp [added]

/-- A slot that was added stays what it is. -/
theorem added_append {ops : List Operation} {slot : Nat} {failure : Failure}
    (h : (added ops)[slot]? = some failure) (others : List Operation) :
    (added (ops ++ others))[slot]? = some failure := by
  have heq : added (ops ++ others) = added ops ++ added others := List.filterMap_append
  rw [heq, List.getElem?_append_left (List.getElem?_eq_some_iff.1 h).1, h]

theorem length_added (ops : List Operation) : (added ops).length = (completions ops).length := by
  induction ops using List.reverseRecOn with
  | nil => rfl
  | append_singleton ops op ih =>
    rw [added_snoc, length_completions_snoc, List.length_append, ih]
    cases op <;> rfl

/-- Later operations change nothing of a slot with a completion. -/
theorem failureAt_append {ops : List Operation} {slot : Nat} {outcome : Outcome}
    (h : firstCompletion ops slot = some outcome) (others : List Operation) :
    failureAt (ops ++ others) slot = failureAt ops slot := by
  have hlt : slot < (added ops).length := by
    rw [length_added]
    exact firstCompletion_lt h
  have hslot := List.getElem?_eq_getElem hlt
  rw [failureAt, failureAt, firstCompletion_append h others, h, added_append hslot others, hslot]

theorem newlyFailed_eq_some_iff {past : List Operation} {op : Operation} {slot : Nat} :
    newlyFailed past op = some slot ↔
      firstCompletion past slot = none ∧
        ∃ outcome, firstCompletion (past ++ [op]) slot = some outcome ∧ outcome.passed = false := by
  rw [firstCompletion_snoc]
  cases op with
  | add failure | arm => simp +contextual [newlyFailed]
  | complete other outcome =>
    simp only [newlyFailed, Option.ite_none_right_eq_some, Option.some.injEq]
    constructor
    · intro hin
      obtain ⟨⟨hc, hp⟩, rfl⟩ := hin
      exact ⟨firstCompletion_eq_none_of_waiting hc, outcome, by simp [hc], hp⟩
    · intro hin
      obtain ⟨hnone, first, hsome, hp⟩ := hin
      by_cases ho : other = slot ∧ (completions past)[slot]? = some []
      · obtain ⟨rfl, hc⟩ := ho
        rw [if_pos ⟨rfl, hc⟩, Option.some.injEq] at hsome
        exact ⟨⟨hc, hsome ▸ hp⟩, rfl⟩
      · rw [if_neg ho, hnone] at hsome
        simp at hsome

theorem mem_failedSlotsSince {past ops : List Operation} {slot : Nat} :
    slot ∈ failedSlotsSince past ops ↔
      firstCompletion past slot = none ∧
        ∃ outcome, firstCompletion (past ++ ops) slot = some outcome ∧ outcome.passed = false := by
  induction ops using List.reverseRecOn with
  | nil => simp +contextual [failedSlotsSince]
  | append_singleton ops op ih =>
    rw [failedSlotsSince_snoc, List.mem_append, ih, Option.mem_toList, newlyFailed_eq_some_iff,
      ← List.append_assoc]
    constructor
    · intro hin
      rcases hin with ⟨hpast, outcome, hf, hp⟩ | ⟨hnone, hnew⟩
      · exact ⟨hpast, outcome, firstCompletion_append hf _, hp⟩
      · refine ⟨?_, hnew⟩
        cases hpast : firstCompletion past slot with
        | none => rfl
        | some first => simp [firstCompletion_append hpast ops] at hnone
    · intro hin
      obtain ⟨hpast, outcome, hf, hp⟩ := hin
      cases hbefore : firstCompletion (past ++ ops) slot with
      | none => exact .inr ⟨rfl, outcome, hf, hp⟩
      | some first =>
        rw [firstCompletion_append hbefore, Option.some.injEq] at hf
        exact .inl ⟨hpast, first, rfl, hf ▸ hp⟩

theorem mem_failedSlots {ops : List Operation} {slot : Nat} :
    slot ∈ failedSlots ops ↔
      ∃ outcome, firstCompletion ops slot = some outcome ∧ outcome.passed = false := by
  rw [failedSlots, mem_failedSlotsSince, List.nil_append]
  exact and_iff_right rfl

theorem CompletedBefore.append {ops : List Operation} {slot other : Nat}
    (h : CompletedBefore ops slot other) (others : List Operation) :
    CompletedBefore (ops ++ others) slot other := by
  obtain ⟨earlier, hp, hfirst⟩ := h
  exact ⟨earlier, hp.trans (List.prefix_append ops others), hfirst⟩

/-- The slots that fail are in the order of their first completions, also from some moment on. -/
theorem failedSlotsSince_pairwise (past ops : List Operation) :
    (failedSlotsSince past ops).Pairwise (CompletedBefore (past ++ ops)) := by
  induction ops using List.reverseRecOn with
  | nil => exact .nil
  | append_singleton ops op ih =>
    rw [failedSlotsSince_snoc, ← List.append_assoc, List.pairwise_append]
    refine ⟨ih.imp fun h => h.append [op], by cases newlyFailed (past ++ ops) op <;> simp, ?_⟩
    intro slot hslot other hother
    obtain ⟨-, outcome, hf, -⟩ := mem_failedSlotsSince.1 hslot
    have hnone := (newlyFailed_eq_some_iff.1 (Option.mem_toList.1 hother)).1
    exact ⟨past ++ ops, List.prefix_append _ [op], by simp [hf], hnone⟩

theorem failedSlots_pairwise (ops : List Operation) :
    (failedSlots ops).Pairwise (CompletedBefore ops) :=
  failedSlotsSince_pairwise [] ops

theorem failedSlots_nodup (ops : List Operation) : (failedSlots ops).Nodup := by
  refine (failedSlots_pairwise ops).imp fun h heq => ?_
  obtain ⟨earlier, -, hsome, hnone⟩ := h
  rw [heq, hnone] at hsome
  simp at hsome

theorem waiting_added {ops : List Operation} {slot : Nat} {failure : Failure}
    (h : (after ops).slots[slot]? = some (.waiting failure)) :
    (added ops)[slot]? = some failure := by
  induction ops using List.reverseRecOn with
  | nil => simp [after, steps] at h
  | append_singleton ops op ih =>
    rw [after_snoc] at h
    have hfire (r : Run) : (fireIfDone r).1.slots = r.slots := by
      unfold fireIfDone
      split <;> rfl
    cases op with
    | add other =>
      simp only [step, add, List.getElem?_append] at h
      split at h
      · exact added_append (ih h) _
      · next hge =>
        have hlength := (after_tracks ops).length_slots
        rw [← length_added] at hlength
        have hslot : slot = (added ops).length := by
          have hlt := (List.getElem?_eq_some_iff.1 h).1
          simp only [List.length_singleton] at hlt
          omega
        subst hslot
        simp only [hlength, Nat.sub_self, List.getElem?_cons_zero, Option.some.injEq,
          Slot.waiting.injEq] at h
        simp [added_snoc, h]
    | arm =>
      simp only [step, arm, hfire] at h
      exact added_append (ih h) _
    | complete other outcome =>
      obtain ⟨told, hw, heq⟩ | ⟨-, heq⟩ := (after ops).complete_cases other outcome
      · simp only [step, heq, hfire, resolve, List.getElem?_set] at h
        split at h
        · split at h <;> simp at h
        · exact added_append (ih h) _
      · simp only [step, heq] at h
        exact added_append (ih h) _

/-- The failure that one operation tells is that of the slot that fails by it. -/
theorem failuresTold_step (ops : List Operation) (op : Operation) :
    (failuresTold ((after ops).step op).2).map some =
      (newlyFailed ops op).toList.map (failureAt (ops ++ [op])) := by
  cases op with
  | add failure => rfl
  | arm => simp [step, arm, newlyFailed]
  | complete slot outcome =>
    obtain ⟨failure, hw, heq⟩ | ⟨hw, heq⟩ := (after ops).complete_cases slot outcome
    · have hc := ((after_tracks ops).waiting_iff slot).1 ⟨failure, hw⟩
      have hat : failureAt (ops ++ [.complete slot outcome]) slot =
          some { failure with message := outcome.message? } := by
        rw [failureAt, added_append (waiting_added hw), firstCompletion_snoc]
        simp [hc]
      simp only [step, heq, failuresTold_append, failuresTold_fireIfDone, List.append_nil,
        newlyFailed, hc, true_and]
      cases hp : outcome.passed with
      | true => simp [failedReports, hp, failuresTold]
      | false => simp [failedReports, hp, failuresTold, Report.failure?, hat]
    · have hc : (completions ops)[slot]? ≠ some [] := fun hc => by
        obtain ⟨failure, hwaits⟩ := ((after_tracks ops).waiting_iff slot).2 hc
        exact hw failure hwaits
      simp [step, heq, newlyFailed, hc, failuresTold]

/-- One failure is told for each slot that fails, in the order in which they fail. -/
theorem map_some_failuresTold (ops others : List Operation) :
    (failuresTold ((after ops).steps others).2).map some =
      (failedSlotsSince ops others).map (failureAt (ops ++ others)) := by
  induction others using List.reverseRecOn with
  | nil => rfl
  | append_singleton others op ih =>
    have hold : (failedSlotsSince ops others).map (failureAt (ops ++ others ++ [op])) =
        (failedSlotsSince ops others).map (failureAt (ops ++ others)) := by
      apply List.map_congr_left
      intro slot hslot
      obtain ⟨-, outcome, hf, -⟩ := mem_failedSlotsSince.1 hslot
      exact failureAt_append hf [op]
    have hafter : ((after ops).steps others).1 = after (ops ++ others) := by
      rw [after, after, steps_append]
    rw [steps_snoc, failuresTold_append, List.map_append, ih, failedSlotsSince_snoc,
      List.map_append, ← List.append_assoc, hold, hafter, failuresTold_step]

/-- Operations tell a failure if and only if a slot gets a failing first completion by them. -/
theorem failed_mem_steps_iff (ops others : List Operation) :
    (∃ failure, .failed failure ∈ ((after ops).steps others).2) ↔
      ∃ slot outcome, firstCompletion ops slot = none ∧
        firstCompletion (ops ++ others) slot = some outcome ∧ outcome.passed = false := by
  have htold := congrArg List.length (map_some_failuresTold ops others)
  rw [List.length_map, List.length_map] at htold
  have hsome : (∃ failure, failure ∈ failuresTold ((after ops).steps others).2) ↔
      ∃ slot, slot ∈ failedSlotsSince ops others := by
    rw [← List.length_pos_iff_exists_mem, ← List.length_pos_iff_exists_mem, htold]
  simpa only [mem_failuresTold, mem_failedSlotsSince, exists_and_left] using hsome

/-- The failures of the slots that fail, in the order in which they fail. -/
def failures (ops : List Operation) : List Failure := (failedSlots ops).filterMap (failureAt ops)

theorem failuresTold_steps (ops : List Operation) :
    failuresTold (steps {} ops).2 = failures ops := by
  have htold := congrArg (List.filterMap id) (map_some_failuresTold [] ops)
  simpa [List.filterMap_map, failures, failedSlots, after, steps, Function.comp_def] using htold

/-- Every slot that fails has its failure. -/
theorem map_some_failures (ops : List Operation) :
    (failures ops).map some = (failedSlots ops).map (failureAt ops) := by
  rw [← failuresTold_steps]
  exact map_some_failuresTold [] ops

theorem unfailed_iff_failedSlots (ops : List Operation) :
    Unfailed ops ↔ failedSlots ops = [] := by
  rw [unfailed_iff_firstCompletion, List.eq_nil_iff_forall_not_mem]
  simp only [mem_failedSlots]
  constructor
  · intro h slot hin
    obtain ⟨outcome, hf, hp⟩ := hin
    simp [h slot outcome hf] at hp
  · intro h slot outcome hf
    by_contra hp
    exact h slot ⟨outcome, hf, by simpa using hp⟩

/-- Runs with the same first completions fail the same slots, in whatever order. -/
theorem failedSlots_perm {ops others : List Operation}
    (hfirst : ∀ slot, firstCompletion ops slot = firstCompletion others slot) :
    (failedSlots ops).Perm (failedSlots others) := by
  rw [List.perm_ext_iff_of_nodup (failedSlots_nodup ops) (failedSlots_nodup others)]
  simp only [mem_failedSlots, hfirst, implies_true]

theorem failures_perm {ops others : List Operation} (hadded : added ops = added others)
    (hfirst : ∀ slot, firstCompletion ops slot = firstCompletion others slot) :
    (failures ops).Perm (failures others) := by
  have hat : failureAt ops = failureAt others := by
    funext slot
    rw [failureAt, failureAt, hadded, hfirst]
  rw [failures, failures, hat]
  exact (failedSlots_perm hfirst).filterMap _

theorem length_failures (ops : List Operation) :
    (failures ops).length = (failedSlots ops).length := by
  simpa using congrArg List.length (map_some_failures ops)

/-- A slot that had no completion gets its first one by an operation that completes it. -/
theorem exists_complete {ops others : List Operation} {slot : Nat} {outcome : Outcome}
    (hnone : firstCompletion ops slot = none)
    (hsome : firstCompletion (ops ++ others) slot = some outcome) :
    .complete slot outcome ∈ others := by
  induction others using List.reverseRecOn with
  | nil => simp [hnone] at hsome
  | append_singleton others op ih =>
    rw [← List.append_assoc, firstCompletion_snoc] at hsome
    cases op with
    | add failure | arm => exact List.mem_append_left _ (ih hsome)
    | complete other given =>
      simp only at hsome
      split at hsome
      · next hnew =>
        obtain ⟨rfl, -⟩ := hnew
        rw [Option.some.inj hsome]
        simp
      · exact List.mem_append_left _ (ih hsome)

end FieldRules.Run
