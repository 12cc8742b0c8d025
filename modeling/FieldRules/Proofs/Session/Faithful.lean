import FieldRules.Proofs.Session.Order

namespace FieldRules.Session

structure Faithful (s : Session) (events : List Event) : Prop where
  alone : Alone s events
  orderly : Orderly s.outlines s.specs events

theorem faithful_initial (context : Context) (validators : List Validator) :
    Faithful { context, validators } [] := by
  refine ⟨⟨by simp [hosts, outlines], fun _ => rfl, always_nil⟩, orderly_initial _⟩

/-- A move that lets all runs alone, and may make validators. -/
theorem Faithful.aside {s s' : Session} {events others : List Event} (h : Faithful s events)
    (hruns : s'.runs = s.runs) (more : List RuleSet) (hspecs : s'.specs = s.specs ++ more)
    (hside : ∀ e ∈ others, e.isAside = true) (hinert : ∀ e ∈ others, e.isInert = true) :
    Faithful s' (events ++ others) := by
  have ho : s'.outlines = s.outlines := by rw [outlines, outlines, hruns]
  have hp : ∀ index ∈ s'.hosts, index < s'.specs.length := by
    intro index hm
    rw [hosts, ho] at hm
    have hlt := h.alone.present index hm
    rw [hspecs, List.length_append]
    omega
  have hrun (run : Nat) : s'.runOf run = s.runOf run := by rw [runOf_congr hruns]
  refine ⟨h.alone.aside hp hrun hside, ?_⟩
  rw [ho, hspecs]
  exact h.orderly.inert more hinert

theorem Faithful.reworded {s : Session} {events : List Event} (h : Faithful s events) (index : Nat)
    (f : Wording → Wording) : Faithful (s.modifyWording index f) (events ++ []) := by
  refine h.aside rfl [] ?_ (by simp) (by simp)
  rw [List.append_nil]
  apply map_modify_of_unchanged
  intro v
  rfl

theorem Faithful.checked {s : Session} {events : List Event} (h : Faithful s events) (index : Nat)
    (v : Validator) : Faithful (s.check index v).1 (events ++ (s.check index v).2.2) := by
  unfold Session.check
  split
  · refine h.aside rfl [] ?_ ?_ ?_
    · rw [List.append_nil]
      apply map_modify_of_unchanged
      intro v
      rfl
    · simp only [List.forall_mem_cons, List.forall_mem_map]
      exact ⟨rfl, fun _ _ => rfl⟩
    · simp only [List.forall_mem_cons, List.forall_mem_map]
      exact ⟨rfl, fun _ _ => rfl⟩
  · simpa using h

/-- Opening a run empties the bag of the validator and puts the whole plan before the run. -/
theorem openRun_ok {s s' : Session} {index : Nat} {v : Validator} {listener : Listener}
    {events : List Event} (h : s.openRun index v listener = .ok (s', events)) :
    ∃ plan, v.plan s.context = .ok plan ∧ events = [.began index (some s.runs.length)] ∧
      s'.runs = s.runs ++ [{ validator := index, plan, pending := plan.steps, listener }] ∧
      s'.validators = (s.modifyValidator index Validator.clear).validators := by
  cases hplan : v.plan s.context with
  | error e => simp [openRun, hplan, bind, Except.bind] at h
  | ok plan =>
    simp only [openRun, hplan, bind, Except.bind, pure, Except.pure, Except.ok.injEq,
      Prod.mk.injEq] at h
    obtain ⟨rfl, rfl⟩ := h
    exact ⟨plan, rfl, rfl, rfl, rfl⟩

theorem runOf_snoc {s s' : Session} {started : StartedRun} (h : s'.runs = s.runs ++ [started])
    (hrun : started.run = {}) (run : Nat) : s'.runOf run = s.runOf run := by
  simp only [runOf, h, List.getElem?_append]
  by_cases hlt : run < s.runs.length
  · rw [if_pos hlt]
  · rw [if_neg hlt, List.getElem?_eq_none (l := s.runs) (by omega)]
    cases run - s.runs.length with
    | zero => exact hrun
    | succ => rfl

theorem Faithful.opened {s s' : Session} {events others : List Event} (h : Faithful s events)
    {index : Nat} {v : Validator} {listener : Listener} (there : s.validators[index]? = some v)
    (accepted : s.openRun index v listener = .ok (s', others)) :
    Faithful s' (events ++ others) := by
  obtain ⟨plan, hplan, rfl, hruns, hvalidators⟩ := openRun_ok accepted
  have hlt : index < s.specs.length := by
    rw [length_specs]
    exact (List.getElem?_eq_some_iff.1 there).1
  have hspec : s.specs[index]? = some v.rules := by simp [specs, there]
  have hspecs : s'.specs = s.specs := by
    rw [specs, hvalidators]
    apply map_modify_of_unchanged
    intro v
    rfl
  have ho : s'.outlines = s.outlines ++ [(index, plan.steps)] := by simp [outlines, hruns]
  have hhosts : s'.hosts = s.hosts ++ [index] := by simp [hosts, ho]
  refine ⟨h.alone.aside ?_ (runOf_snoc hruns rfl) (by simp [Event.isAside]), ?_⟩
  · rw [hhosts, hspecs]
    intro host hm
    rcases List.mem_append.1 hm with hm | hm
    · exact h.alone.present host hm
    · rw [List.mem_singleton.1 hm]
      exact hlt
  · rw [ho, hspecs, ← length_outlines]
    exact h.orderly.open hspec (Plan.make_entries hplan)

section Operated

variable {s : Session} {events : List Event} {index : Nat}

theorem operated_orderly {operation : Run.Operation}
    (h : ∀ started, s.runs[index]? = some started →
      Orderly s.outlines s.specs (events ++ [.operated index operation]))
    (hmissing : Orderly s.outlines s.specs events) :
    Orderly (s.operate index operation).1.outlines (s.operate index operation).1.specs
      (events ++ (s.operate index operation).2) := by
  rw [outlines_operate, specs_operate]
  cases hs : s.runs[index]? with
  | none =>
    rw [operate_missing s index _ hs, List.append_nil]
    exact hmissing
  | some started =>
    have hinert := (h started hs).inert [] fun e he => Event.isInert_of_isReport
      (isReport_hearAll (s.strike index operation started) index started
        (started.run.step operation).2 e he)
    rw [operate_eq s index _ hs]
    rw [List.append_nil, List.append_assoc] at hinert
    exact hinert

theorem completed_orderly (h : Orderly s.outlines s.specs events) (slot : Nat)
    (outcome : Outcome) :
    Orderly (s.operate index (.complete slot outcome)).1.outlines
      (s.operate index (.complete slot outcome)).1.specs
      (events ++ (s.operate index (.complete slot outcome)).2) := by
  apply operated_orderly _ h
  intro started hs
  apply h.complete
  rw [length_outlines]
  exact (List.getElem?_eq_some_iff.1 hs).1

theorem completedAll_orderly (h : Orderly s.outlines s.specs events) (index slot : Nat)
    (outcomes : List Outcome) :
    Orderly (s.completeAll index slot outcomes).1.outlines
      (s.completeAll index slot outcomes).1.specs
      (events ++ (s.completeAll index slot outcomes).2) := by
  induction outcomes generalizing s events with
  | nil => simpa [completeAll] using h
  | cons outcome rest ih =>
    rw [completeAll_cons, ← List.append_assoc]
    exact ih (completed_orderly h slot outcome)

/-- After its slot was added, the rule of a step is asked. -/
theorem question_orderly (events : List Event) (slot : Nat) {started : StartedRun}
    (there : s.runs[index]? = some started)
    (hjudged : ∀ accepted, Orderly s.outlines s.specs (events ++ [.judged index slot accepted,
      .operated index (.complete slot (.ofBool accepted))]))
    (hcalled : ∀ rule field,
      Orderly s.outlines s.specs (events ++ [.called index slot rule field]))
    (v : Validator) (plan : Plan) (step : Step) :
    Orderly (s.question index slot v plan step).1.outlines
      (s.question index slot v plan step).1.specs
      (events ++ (s.question index slot v plan step).2) := by
  have hasked (judge : Judge) :
      Orderly (question.judged index slot v plan step s judge).1.outlines
        (question.judged index slot v plan step s judge).1.specs
        (events ++ (question.judged index slot v plan step s judge).2) := by
    unfold question.judged
    obtain ⟨accepted, context⟩ := s.context.consult judge (plan.subject v.input step)
    have hinert := (hjudged accepted).inert [] fun e he => Event.isInert_of_isReport
      (isReport_hearAll ({ s with context }.strike index (.complete slot (.ofBool accepted)) started)
        index started (started.run.step (.complete slot (.ofBool accepted))).2 e he)
    rw [List.append_nil, List.append_assoc] at hinert
    simp only [outlines_operate, specs_operate]
    rw [operate_eq { s with context } index _ there]
    exact hinert
  unfold question
  split
  · next attend _ =>
    have hstart : Orderly s.outlines s.specs (events ++ [.called index slot step.directive.name
        step.field]) := hcalled _ _
    have hall := completedAll_orderly (s := { s with
      context := s.context.tick
      handles := s.handles ++ List.replicate
        (attend s.context.clock (plan.subject v.input step)).kept (⟨index, slot, true⟩ : Handle) })
      hstart index slot (attend s.context.clock (plan.subject v.input step)).outcomes
    rw [List.append_assoc] at hall
    exact hall
  · exact hasked _
  · exact hasked _

end Operated

theorem Faithful.completed {s : Session} {events : List Event} (h : Faithful s events)
    (index slot : Nat) (outcome : Outcome) :
    Faithful (s.operate index (.complete slot outcome)).1
      (events ++ (s.operate index (.complete slot outcome)).2) :=
  ⟨h.alone.operate index _, completed_orderly h.orderly slot outcome⟩

theorem Faithful.closed {s : Session} {events : List Event} (h : Faithful s events)
    (index : Nat) : Faithful (s.close index).1 (events ++ (s.close index).2) := by
  refine ⟨h.alone.strokes (close_strokes s index), ?_⟩
  unfold close
  split
  · next started hs =>
    split
    · next hidle =>
      simp only [Bool.and_eq_true, List.isEmpty_iff, Bool.not_eq_true'] at hidle
      obtain ⟨hpending, harmed⟩ := hidle
      have ho : s.outlines[index]? = some (started.validator, []) := by
        rw [getElem?_outlines, hs, ← hpending]
        rfl
      have hrun : s.runOf index = started.run := by simp only [runOf, hs]
      have hnew : .arm ∉ operations index events := by
        rw [← h.alone.armed_iff, hrun, harmed]
        simp
      exact operated_orderly (fun _ _ => h.orderly.arm ho hnew) h.orderly
    · simpa using h.orderly
  · simpa using h.orderly

theorem Faithful.asked {s : Session} {events : List Event} (h : Faithful s events)
    (index : Nat) : Faithful (s.ask index).1 (events ++ (s.ask index).2) := by
  refine ⟨h.alone.strokes (ask_strokes s index), ?_⟩
  rcases ask_cases s index with ⟨heq, -⟩ | ⟨started, step, rest, v, context, hs, hp, hv, hcase⟩
  · rw [heq, List.append_nil]
    exact h.orderly
  · have ho : s.outlines[index]? = some (started.validator, step :: rest) := by
      rw [getElem?_outlines, hs, ← hp]
      rfl
    have hadvance : (s.advance index rest context).outlines =
        s.outlines.set index (started.validator, rest) := by
      rw [outlines_advance, List.modify_eq_set, ho]
      rfl
    rcases hcase with ⟨-, heq⟩ | ⟨-, heq⟩
    · rw [heq, hadvance]
      exact h.orderly.skip ho
    · obtain ⟨started', there⟩ := exists_run_advance s index rest context hs
      have hslot : started.run.slots.length = slotCount index events := by
        rw [slotCount, ← h.alone.length_slots]
        simp only [runOf, hs]
      have hout : ((s.advance index rest context).strike index (.add (v.failureOf step))
          started').outlines = s.outlines.set index (started.validator, rest) := by
        rw [unoperated_outlines.strike, hadvance]
      obtain ⟨started'', hstrike⟩ : ∃ r, ((s.advance index rest context).strike index
          (.add (v.failureOf step)) started').runs[index]? = some r := by
        simp [strike, modifyRun, there]
      have hspecs : ((s.advance index rest context).strike index (.add (v.failureOf step))
          started').specs = s.specs := rfl
      have hquestion := question_orderly (events ++ [.operated index (.add (v.failureOf step))])
        (slotCount index events) hstrike ?_ ?_ v started.plan step
      · rw [heq, operate_add there, hslot]
        simpa using hquestion
      · intro accepted
        rw [hout, hspecs]
        simpa using h.orderly.judge ho rfl accepted
      · intro rule field
        rw [hout, hspecs]
        simpa using h.orderly.call ho rfl rule field

theorem Faithful.move {s s' : Session} {events others : List Event} (hmove : Move s s' others)
    (h : Faithful s events) : Faithful s' (events ++ others) := by
  cases hmove with
  | aside _ validators runs =>
    have hspecs : s'.specs = s.specs ++ [] := by rw [specs, specs, validators, List.append_nil]
    exact h.aside runs [] hspecs (by simp) (by simp)
  | reworded index f => exact h.reworded index f
  | created v _ => exact h.aside rfl [v.rules] (by simp [specs]) (by simp) (by simp)
  | checked index v _ => exact h.checked index v
  | opened index v listener _ _ there accepted => exact h.opened there accepted
  | asked run => exact h.asked run
  | closed run => exact h.closed run
  | completed run slot outcome => exact h.completed run slot outcome

theorem Faithful.moves {s s' : Session} {events others : List Event} (hmoves : Moves s s' others)
    (h : Faithful s events) : Faithful s' (events ++ others) :=
  hmoves.keep (fun _ _ _ _ hmove h => h.move hmove) h

end FieldRules.Session
