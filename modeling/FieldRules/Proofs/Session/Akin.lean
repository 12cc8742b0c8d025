import FieldRules.Proofs.Akin
import FieldRules.Proofs.Session.Agreement

namespace FieldRules

theorem forall₂_modify {α : Type} {R : α → α → Prop} {l l' : List α} (h : List.Forall₂ R l l')
    (index : Nat) {f f' : α → α} (hf : ∀ a a', R a a' → R (f a) (f' a')) :
    List.Forall₂ R (l.modify index f) (l'.modify index f') := by
  induction h generalizing index with
  | nil => cases index <;> exact .nil
  | cons hfirst hrest ih =>
    cases index with
    | zero => exact .cons (hf _ _ hfirst) hrest
    | succ index => exact .cons hfirst (ih index)

theorem forall₂_getElem? {α : Type} {R : α → α → Prop} {l l' : List α} (h : List.Forall₂ R l l')
    (index : Nat) : (l[index]? = none ∧ l'[index]? = none) ∨
      ∃ a a', l[index]? = some a ∧ l'[index]? = some a' ∧ R a a' := by
  induction h generalizing index with
  | nil => exact .inl ⟨rfl, rfl⟩
  | cons hfirst _ ih =>
    cases index with
    | zero => exact .inr ⟨_, _, rfl, rfl, hfirst⟩
    | succ index => exact ih index

/-- What runs tell of akin failures. -/
inductive Run.Report.Akin (way : Leeway) : Run.Report → Run.Report → Prop where
  | failed {f f' : Failure} (akin : f.Akin way f') : Akin way (.failed f) (.failed f')
  | verdict (passed : Bool) : Akin way (.verdict passed) (.verdict passed)

/-- Something is done with a run, with akin outcomes. -/
inductive Run.Operation.Akin (way : Leeway) : Run.Operation → Run.Operation → Prop where
  | refl (op : Run.Operation) : Akin way op op
  | complete (slot : Nat) {outcome outcome' : Outcome} (akin : outcome.Akin way outcome') :
      Akin way (.complete slot outcome) (.complete slot outcome')

/-- Things that happen in two sessions alike. -/
inductive Event.Akin (way : Leeway) : Event → Event → Prop where
  | refl (e : Event) : Akin way e e
  | operated (run : Nat) {op op' : Run.Operation} (akin : op.Akin way op') :
      Akin way (.operated run op) (.operated run op')
  | recorded (validator : Nat) (run : Option Nat) {f f' : Failure} {message message' : String}
      (akin : MessagesAkin way (f, message) (f', message')) :
      Akin way (.recorded validator run f message) (.recorded validator run f' message')

theorem Run.fireIfDone_akin {way : Leeway} (r : Run) :
    List.Forall₂ (Run.Report.Akin way) r.fireIfDone.2 r.fireIfDone.2 := by
  unfold Run.fireIfDone
  split
  · exact .cons (.verdict _) .nil
  · exact .nil

/-- The template of a failure does not go into the run. -/
theorem Run.Operation.Akin.step {way : Leeway} {op op' : Run.Operation} (h : op.Akin way op')
    (r : Run) :
    (r.step op').1 = (r.step op).1 ∧
      List.Forall₂ (Run.Report.Akin way) (r.step op).2 (r.step op').2 := by
  have hcomplete (slot : Nat) {outcome outcome' : Outcome} (akin : outcome.Akin way outcome') :
      (r.complete slot outcome').1 = (r.complete slot outcome).1 ∧
        List.Forall₂ (Run.Report.Akin way) (r.complete slot outcome).2
          (r.complete slot outcome').2 := by
    unfold Run.complete
    split
    · rw [akin.passed]
      split
      · exact ⟨rfl, fireIfDone_akin _⟩
      · exact ⟨rfl, .cons (.failed ⟨rfl, rfl, rfl, akin.message⟩) (fireIfDone_akin _)⟩
    · exact ⟨rfl, .nil⟩
  cases h with
  | refl op =>
    cases op with
    | add failure => exact ⟨rfl, .nil⟩
    | arm => exact ⟨rfl, fireIfDone_akin _⟩
    | complete slot outcome => exact hcomplete slot (.refl outcome)
  | complete slot akin => exact hcomplete slot akin

/-- Runs that stand alike. -/
structure StartedRun.Akin (way : Leeway) (started started' : StartedRun) : Prop where
  validator : started'.validator = started.validator
  plan : started.plan.Akin way started'.plan
  pending : List.Forall₂ (Step.Akin way) started.pending started'.pending
  listener : started'.listener = started.listener
  run : started'.run = started.run
  verdicts : started'.verdicts = started.verdicts

theorem StartedRun.Akin.refl {way : Leeway} (started : StartedRun) : started.Akin way started :=
  ⟨rfl, .refl _, List.forall₂_same.2 fun a _ => .refl a, rfl, rfl, rfl⟩

namespace Session

/-- Sessions that stand alike, but for what messages are made of. -/
structure Akin (way : Leeway) (s s' : Session) : Prop where
  context : Context.Akin way s.context s'.context
  validators : List.Forall₂ (Validator.Akin way) s.validators s'.validators
  runs : List.Forall₂ (StartedRun.Akin way) s.runs s'.runs
  handles : s'.handles = s.handles
  futures : s'.futures = s.futures
  calls : s'.calls = s.calls

theorem Akin.refl {way : Leeway} (s : Session) : s.Akin way s :=
  ⟨.refl _, List.forall₂_same.2 fun v _ => .refl v, List.forall₂_same.2 fun run _ => .refl run,
    rfl, rfl, rfl⟩

/-- The same was done in two sessions that are akin, and the same happened. -/
structure Done (way : Leeway) (done done' : Session × List Event) : Prop where
  akin : done.1.Akin way done'.1
  events : List.Forall₂ (Event.Akin way) done.2 done'.2

namespace Done

variable {way : Leeway} {s s' : Session} {done done' next next' : Session × List Event}

theorem idle (h : s.Akin way s') : Done way (s, []) (s', []) := ⟨h, .nil⟩

theorem cons (h : Done way done done') {e e' : Event} (he : e.Akin way e') :
    Done way (done.1, e :: done.2) (done'.1, e' :: done'.2) :=
  ⟨h.akin, .cons he h.events⟩

theorem append (h : Done way done done') (hnext : Done way next next') :
    Done way (next.1, done.2 ++ next.2) (next'.1, done'.2 ++ next'.2) :=
  ⟨hnext.akin, List.rel_append h.events hnext.events⟩

end Done

section Runs

variable {way : Leeway} {s s' : Session} (h : s.Akin way s')
include h

theorem Akin.withContext {c c' : Context} (hc : Context.Akin way c c') :
    Akin way { s with context := c } { s' with context := c' } :=
  ⟨hc, h.validators, h.runs, h.handles, h.futures, h.calls⟩

theorem Akin.modifyValidator (index : Nat) {f f' : Validator → Validator}
    (hf : ∀ v v', v.Akin way v' → (f v).Akin way (f' v')) :
    Akin way (s.modifyValidator index f) (s'.modifyValidator index f') :=
  ⟨h.context, forall₂_modify h.validators index hf, h.runs, h.handles, h.futures, h.calls⟩

theorem Akin.modifyRun (index : Nat) {f f' : StartedRun → StartedRun}
    (hf : ∀ started started', started.Akin way started' → (f started).Akin way (f' started')) :
    Akin way (s.modifyRun index f) (s'.modifyRun index f') :=
  ⟨h.context, h.validators, forall₂_modify h.runs index hf, h.handles, h.futures, h.calls⟩

/-- What a run reports is heard alike. -/
theorem Akin.hear (index : Nat) {started started' : StartedRun}
    (hstarted : started.Akin way started') {report report' : Run.Report}
    (hreport : report.Akin way report') :
    Done way (s.hear index started report) (s'.hear index started' report') := by
  cases hreport with
  | verdict passed =>
    simp only [Session.hear, hstarted.listener]
    refine ⟨h.modifyRun index fun r r' hr => ?_, List.forall₂_same.2 fun a _ => .refl a⟩
    exact ⟨hr.validator, hr.plan, hr.pending, hr.listener, hr.run, by simp [hr.verdicts]⟩
  | @failed f f' akin =>
    simp only [Session.hear, hstarted.validator]
    obtain ⟨hnone, hnone'⟩ | ⟨v, v', hv, hv', hakin⟩ :=
      forall₂_getElem? h.validators started.validator
    · rw [hnone, hnone']
      exact .idle h
    · simp only [hv, hv', akin.field]
      have hword := hakin.word h.context akin
      refine ⟨h.modifyValidator _ fun w w' hw => ?_, .cons (.recorded _ _ hword) .nil⟩
      refine ⟨hw.input, hw.rules, hw.wording, ?_⟩
      simp only [Validator.addMessage, MessageBag.shape_add, hw.shape]

theorem Akin.hearAll (index : Nat) {started started' : StartedRun}
    (hstarted : started.Akin way started') {told told' : List Run.Report}
    (htold : List.Forall₂ (Run.Report.Akin way) told told') :
    Done way (s.hearAll index started told) (s'.hearAll index started' told') := by
  induction htold generalizing s s' with
  | nil => exact .idle h
  | cons hfirst _ ih =>
    have hheard := h.hear index hstarted hfirst
    exact hheard.append (ih hheard.akin)

theorem Akin.operate (index : Nat) {op op' : Run.Operation} (hop : op.Akin way op') :
    Done way (s.operate index op) (s'.operate index op') := by
  obtain ⟨hnone, hnone'⟩ | ⟨started, started', hs, hs', hstarted⟩ :=
    forall₂_getElem? h.runs index
  · rw [operate_missing s index op hnone, operate_missing s' index op' hnone']
    exact .idle h
  · obtain ⟨hrun, hreports⟩ := hop.step started.run
    rw [← hstarted.run] at hrun hreports
    have hstruck : Akin way (s.strike index op started) (s'.strike index op' started') := by
      refine h.modifyRun index fun r r' hr => ?_
      exact ⟨hr.validator, hr.plan, hr.pending, hr.listener, by rw [hrun, hstarted.run], hr.verdicts⟩
    rw [operate_eq s index op hs, operate_eq s' index op' hs', ← hstarted.run]
    exact (hstruck.hearAll index hstarted hreports).cons (.operated index hop)

theorem Akin.completeAll (index slot : Nat) {outcomes outcomes' : List Outcome}
    (houtcomes : List.Forall₂ (Outcome.Akin way) outcomes outcomes') :
    Done way (s.completeAll index slot outcomes) (s'.completeAll index slot outcomes') := by
  induction houtcomes generalizing s s' with
  | nil => exact .idle h
  | cons hfirst _ ih =>
    have hcompleted := h.operate index (.complete slot hfirst)
    exact hcompleted.append (ih hcompleted.akin)

end Runs

end Session

end FieldRules
