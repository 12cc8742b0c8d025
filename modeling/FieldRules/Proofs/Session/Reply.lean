import FieldRules.Proofs.Session.Schedule

namespace FieldRules

namespace Plan

/-- What a rule does when it is asked: how it completes its slot at once, and how many handles of the
slot it keeps. A synchronous rule completes it with its answer. -/
def reply (plan : Plan) (v : Validator) (context : Context) (step : Step) : Conduct :=
  match step.predicate with
  | .custom (.async attend) => attend context.clock (plan.subject v.input step)
  | .custom (.sync judge) => answered judge
  | .builtin rule => answered rule.judge
where
  answered (judge : Judge) : Conduct :=
    ⟨[.ofBool (context.consult judge (plan.subject v.input step)).1], 0⟩

/-- What is noted of a slot whose rule is asked. -/
def note (plan : Plan) (v : Validator) (context : Context) (step : Step) (run slot : Nat) : Event :=
  match step.predicate.judge? with
  | some judge => .judged run slot (context.consult judge (plan.subject v.input step)).1
  | none => .called run slot step.directive.name step.field

end Plan

namespace Session

/-- The rule of a slot was asked. It completed this slot and no other, and all handles that were given
out are of this slot. -/
structure Replied (run slot : Nat) (conduct : Conduct) (note : Event) (s s' : Session)
    (events : List Event) : Prop where
  operations : ∀ other,
    operations other events = if run = other then conduct.outcomes.map (.complete slot) else []
  handles : s'.handles = s.handles ++ List.replicate conduct.kept ⟨run, slot, true⟩
  noted : events.head? = some note

section Reply

variable (s : Session) {index : Nat} (slot : Nat)

theorem operations_completeAll (outcomes : List Outcome) (hlt : index < s.runs.length)
    (run : Nat) :
    operations run (s.completeAll index slot outcomes).2 =
      if index = run then outcomes.map (.complete slot) else [] := by
  induction outcomes generalizing s with
  | nil => simp [completeAll]
  | cons outcome rest ih =>
    have hlater : index < (s.operate index (.complete slot outcome)).1.runs.length := by
      rwa [← length_outlines, outlines_operate, length_outlines]
    rw [completeAll_cons, operations_append, operations_operate, ih _ hlater]
    by_cases hr : index = run
    · rw [if_pos ⟨hr, hlt⟩, if_pos hr, if_pos hr]
      rfl
    · rw [if_neg fun hboth => hr hboth.1, if_neg hr, if_neg hr, List.append_nil]

theorem judged_replied (v : Validator) (plan : Plan) (step : Step) (judge : Judge)
    (hlt : index < s.runs.length) :
    Replied index slot (Plan.reply.answered plan v s.context step judge)
      (.judged index slot (s.context.consult judge (plan.subject v.input step)).1) s
      (question.judged index slot v plan step s judge).1
      (question.judged index slot v plan step s judge).2 := by
  unfold question.judged Plan.reply.answered
  obtain ⟨accepted, context⟩ := s.context.consult judge (plan.subject v.input step)
  refine {
    operations := fun other => ?operations
    handles := ?handles
    noted := rfl }
  case operations =>
    rw [operations_cons, operations_operate]
    by_cases hr : index = other
    · rw [if_pos ⟨hr, hlt⟩, if_pos hr]
      rfl
    · rw [if_neg fun hboth => hr hboth.1, if_neg hr]
      rfl
  case handles => rw [handles_operate, List.replicate_zero, List.append_nil]

theorem called_replied (context : Context) (conduct : Conduct) (rule field : String)
    (hlt : index < s.runs.length) :
    let handed := { s with
      context
      handles := s.handles ++ List.replicate conduct.kept (⟨index, slot, true⟩ : Handle) }
    Replied index slot conduct (.called index slot rule field) s
      (handed.completeAll index slot conduct.outcomes).1
      (.called index slot rule field :: (handed.completeAll index slot conduct.outcomes).2) where
  operations other := operations_completeAll { s with context, handles := _ } slot _ hlt other
  handles := unoperated_handles.completeAll _ index slot _
  noted := rfl

theorem question_replied (v : Validator) (plan : Plan) (step : Step)
    (hlt : index < s.runs.length) :
    Replied index slot (plan.reply v s.context step) (plan.note v s.context step index slot) s
      (s.question index slot v plan step).1 (s.question index slot v plan step).2 := by
  unfold question Plan.reply Plan.note
  cases step.predicate with
  | builtin rule => exact judged_replied s slot v plan step rule.judge hlt
  | custom rule =>
    cases rule with
    | sync judge => exact judged_replied s slot v plan step judge hlt
    | async attend => exact called_replied s slot _ _ _ _ hlt

end Reply

/-- What happens when the next step of a run is asked. It is passed over if it does not count.
Otherwise it gets the next slot of the run, and its rule is asked for that. -/
def AskedRightly (run slot : Nat) (v : Validator) (plan : Plan) (s : Session) (step : Step) : Prop :=
  let (asked, events) := s.ask run
  match plan.applies v.input s.context step with
  | (false, _) =>
    events = [.skipped run step.field step.directive] ∧ asked.handles = s.handles
  | (true, context) =>
    ∃ replied, events = .operated run (.add (v.failureOf step)) :: replied ∧
      Replied run slot (plan.reply v context step) (plan.note v context step run slot) s asked replied

theorem Faithful.askedRightly {s : Session} {events : List Event} {run : Nat}
    (h : Faithful s events) {started : StartedRun} {step : Step} {rest : List Step} {v : Validator}
    (hs : s.runs[run]? = some started) (hp : started.pending = step :: rest)
    (hv : s.validators[started.validator]? = some v) :
    AskedRightly run (slotCount run events) v started.plan s step := by
  have hslot : started.run.slots.length = slotCount run events := by
    rw [slotCount, ← h.alone.length_slots]
    simp only [runOf, hs]
  rw [← hslot]
  rcases ask_cases s run with ⟨-, hidle⟩ | ⟨started', step', rest', v', context, hs', hp', hv', hcase⟩
  · simp [hidle started step rest hs hp] at hv
  obtain rfl : started = started' := by simpa [hs] using hs'
  obtain ⟨rfl, rfl⟩ := List.cons.inj (hp.symm.trans hp')
  obtain rfl : v = v' := by simpa [hv] using hv'
  rcases hcase with ⟨happlies, heq⟩ | ⟨happlies, heq⟩
  · rw [AskedRightly, happlies, heq]
    exact ⟨rfl, rfl⟩
  · obtain ⟨there, hthere⟩ := exists_run_advance s run rest context hs
    have hlt : run < ((s.advance run rest context).strike run
        (.add (v.failureOf step)) there).runs.length := by
      simpa [strike, modifyRun] using (List.getElem?_eq_some_iff.1 hthere).1
    have hreplied := question_replied _ started.run.slots.length v started.plan step hlt
    rw [AskedRightly, happlies, heq, operate_add hthere]
    exact ⟨_, rfl, hreplied.operations, hreplied.handles, hreplied.noted⟩

end Session

end FieldRules
