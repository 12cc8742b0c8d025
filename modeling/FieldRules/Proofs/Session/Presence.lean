import FieldRules.Proofs.Presence
import FieldRules.Proofs.Session.Handles
import FieldRules.Proofs.Session.Ledger

namespace FieldRules

/-- No slot of a directive of the rule of presence waits for its completion. -/
def Run.IsMute (r : Run) : Prop := ∀ f, .waiting f ∈ r.slots → f.directive.name ≠ "required"

namespace Run.IsMute

theorem fireIfDone_slots (r : Run) : r.fireIfDone.1.slots = r.slots := by
  unfold fireIfDone
  split <;> rfl

/-- Whatever is done with a run but adding a slot of the rule of presence, it tells nothing of that
rule and goes on so. -/
theorem step {r : Run} (h : r.IsMute) {op : Operation}
    (hadd : ∀ f, op = .add f → f.directive.name ≠ "required") :
    (r.step op).1.IsMute ∧ ∀ f, .failed f ∈ (r.step op).2 → f.directive.name ≠ "required" := by
  cases op with
  | add f =>
    refine ⟨fun other hm => ?_, by simp [Run.step]⟩
    obtain hold | hnew := List.mem_append.1 hm
    · exact h other hold
    · obtain rfl := Slot.waiting.inj (List.mem_singleton.1 hnew)
      exact hadd other rfl
  | arm =>
    have hslots : (r.step .arm).1.slots = r.slots := fireIfDone_slots { r with armed := true }
    refine ⟨fun other hm => h other (hslots ▸ hm), fun f hm => ?_⟩
    · have htold := mem_failuresTold.2 hm
      simp [Run.step, Run.arm] at htold
  | complete slot outcome =>
    obtain ⟨f, hwaiting, heq⟩ | ⟨-, heq⟩ := r.complete_cases slot outcome
    · simp only [Run.step, heq]
      refine ⟨fun other hm => ?_, fun other hm => ?_⟩
      · rw [fireIfDone_slots] at hm
        exact h other ((List.mem_or_eq_of_mem_set hm).resolve_right (by simp))
      · have htold := mem_failuresTold.2 hm
        rw [failuresTold_append, failuresTold_fireIfDone, List.append_nil, mem_failuresTold,
          failedReports] at htold
        split at htold
        · simp at htold
        · obtain rfl := Report.failed.inj (List.mem_singleton.1 htold)
          exact h f (List.mem_of_getElem? hwaiting)
    · simp only [Run.step, heq]
      exact ⟨h, by simp⟩

/-- A slot that is added and passes at once leaves no trace. -/
theorem add_pass {r : Run} (h : r.IsMute) (f : Failure) :
    (((r.add f).step (.complete r.slots.length .pass)).1).IsMute ∧
      ∀ other, .failed other ∉ ((r.add f).step (.complete r.slots.length .pass)).2 := by
  have hwaiting : (r.add f).slots[r.slots.length]? = some (.waiting f) :=
    List.getElem?_concat_length
  obtain ⟨g, -, heq⟩ | ⟨hnone, -⟩ := (r.add f).complete_cases r.slots.length .pass
  · have hslots : (r.add f).slots.set r.slots.length .resolved = r.slots ++ [.resolved] := by
      simp [Run.add]
    simp only [Run.step, heq]
    refine ⟨fun other hm => ?_, fun other hm => ?_⟩
    · rw [fireIfDone_slots, resolve, hslots] at hm
      exact h other (by simpa using hm)
    · have htold := mem_failuresTold.2 hm
      simp [failedReports, Outcome.passed] at htold
  · exact absurd hwaiting (hnone f)

end Run.IsMute

/-- What is still to come of a run tells nothing of the rule of presence. -/
structure StartedRun.IsMute (started : StartedRun) : Prop where
  steady : IsSteady started.plan.presence
  pending : ∀ step ∈ started.pending, step.directive.name = "required" →
    started.plan.AsksPresence false step
  run : started.run.IsMute

namespace Session

theorem hear_runs (s : Session) (index : Nat) (started : StartedRun) (report : Run.Report) :
    ∃ told, (s.hear index started report).1.runs =
      s.runs.modify index fun r => { r with verdicts := r.verdicts ++ told } := by
  cases report with
  | failed f =>
    refine ⟨[], ?_⟩
    simp only [hear, List.append_nil]
    split <;> exact (List.modify_id index s.runs).symm
  | verdict passed => exact ⟨[passed], rfl⟩

theorem hearAll_runs (s : Session) (index : Nat) (started : StartedRun) (reports : List Run.Report) :
    ∃ told, (s.hearAll index started reports).1.runs =
      s.runs.modify index fun r => { r with verdicts := r.verdicts ++ told } := by
  refine inTurn_rel (R := fun (s s' : Session) _ => ∃ told, s'.runs =
    s.runs.modify index fun r => { r with verdicts := r.verdicts ++ told }) ?_ ?_ ?_
  · intro s
    exact ⟨[], by simp only [List.append_nil]; exact (List.modify_id index s.runs).symm⟩
  · rintro s s' s'' - - ⟨first, hfirst⟩ ⟨others, hothers⟩
    refine ⟨first ++ others, ?_⟩
    rw [hothers, hfirst, List.modify_modify_eq]
    simp [Function.comp_def]
  · intro s report _
    exact hear_runs s index started report

theorem operate_runs (s : Session) (index : Nat) (op : Run.Operation) :
    ∃ told, (s.operate index op).1.runs = s.runs.modify index fun r =>
      { r with run := (r.run.step op).1, verdicts := r.verdicts ++ told } := by
  cases hs : s.runs[index]? with
  | none =>
    rw [operate_missing s index op hs]
    exact ⟨[], (List.modify_eq_self (List.getElem?_eq_none_iff.1 hs)).symm⟩
  | some started =>
    obtain ⟨told, htold⟩ := hearAll_runs (s.strike index op started) index started
      (started.run.step op).2
    refine ⟨told, ?_⟩
    rw [operate_eq s index op hs, htold]
    apply List.ext_getElem?
    intro run
    simp only [strike, modifyRun, List.getElem?_modify]
    by_cases hr : index = run
    · subst hr
      simp [hs]
    · simp [hr]

/-- A failure that is recorded for a run is one that the run tells. -/
theorem failed_of_recorded {s : Session} {index : Nat} {op : Run.Operation} {i run : Nat}
    {f : Failure} {message : String}
    (h : .recorded i (some run) f message ∈ (s.operate index op).2) :
    index = run ∧ ∃ started, s.runs[run]? = some started ∧
      .failed f ∈ (started.run.step op).2 := by
  cases hs : s.runs[index]? with
  | none => simp [operate_missing s index op hs] at h
  | some started =>
    rw [operate_eq s index op hs, List.mem_cons] at h
    have hm := h.resolve_left (by simp)
    obtain ⟨htold, -, hrun⟩ := recorded_mem_hearAll _ _ _ hm
    obtain rfl := Option.some.inj hrun
    exact ⟨rfl, started, hs, htold⟩

/-- A run is there, and neither what happened nor what is to come of it tells of the rule of
presence. -/
structure Mute (run : Nat) (s : Session) (events : List Event) : Prop where
  there : ∃ started, s.runs[run]? = some started ∧ started.IsMute
  silent : ∀ i f message, .recorded i (some run) f message ∈ events → f.directive.name ≠ "required"

namespace Mute

variable {run : Nat} {s s' : Session} {events others : List Event}

/-- What leaves the run mute, and records nothing of it. -/
theorem quiet (h : Mute run s events)
    (hrun : ∀ started, s.runs[run]? = some started → started.IsMute →
      ∃ started', s'.runs[run]? = some started' ∧ started'.IsMute)
    (hquiet : ∀ i f message, .recorded i (some run) f message ∉ others) :
    Mute run s' (events ++ others) := by
  obtain ⟨started, hs, hmute⟩ := h.there
  refine ⟨hrun started hs hmute, fun i f message hm => ?_⟩
  exact h.silent i f message ((List.mem_append.1 hm).resolve_right (hquiet i f message))

theorem of_runs (h : Mute run s events) (hruns : s'.runs = s.runs)
    (hquiet : ∀ i f message, .recorded i (some run) f message ∉ others) :
    Mute run s' (events ++ others) :=
  h.quiet (fun started hs hmute => ⟨started, hruns ▸ hs, hmute⟩) hquiet

/-- Something is done with the run that makes it mute and of which it tells nothing. -/
theorem of_operate {started : StartedRun} (hs : s.runs[run]? = some started)
    (steady : IsSteady started.plan.presence)
    (pending : ∀ step ∈ started.pending, step.directive.name = "required" →
      started.plan.AsksPresence false step)
    (silent : ∀ i f message, .recorded i (some run) f message ∈ events →
      f.directive.name ≠ "required")
    {op : Run.Operation} (hop : (started.run.step op).1.IsMute ∧
      ∀ f, .failed f ∈ (started.run.step op).2 → f.directive.name ≠ "required") :
    Mute run (s.operate run op).1 (events ++ (s.operate run op).2) := by
  obtain ⟨told, hruns⟩ := operate_runs s run op
  constructor
  · simp only [hruns, List.getElem?_modify, hs, Option.map_eq_map, Option.map_some,
      Option.some.injEq, exists_eq_left', if_true]
    exact ⟨steady, pending, hop.1⟩
  · intro i f message hm
    rcases List.mem_append.1 hm with hold | hnew
    · exact silent i f message hold
    · obtain ⟨-, other, hother, hfailed⟩ := failed_of_recorded hnew
      obtain rfl : started = other := Option.some.inj (hs.symm.trans hother)
      exact hop.2 f hfailed

/-- Anything may be done with a run but adding a slot of the rule of presence. -/
theorem operate (h : Mute run s events) (index : Nat) (op : Run.Operation)
    (hadd : index = run → ∀ f, op = .add f → f.directive.name ≠ "required") :
    Mute run (s.operate index op).1 (events ++ (s.operate index op).2) := by
  by_cases hr : index = run
  · subst hr
    obtain ⟨started, hs, hmute⟩ := h.there
    exact of_operate hs hmute.steady hmute.pending h.silent (hmute.run.step (hadd rfl))
  · obtain ⟨told, hruns⟩ := operate_runs s index op
    refine h.quiet (fun started hs hmute => ⟨started, ?_, hmute⟩) fun i f message hm => ?_
    · simp [hruns, hs, hr]
    · exact hr (failed_of_recorded hm).1

theorem completeAll (h : Mute run s events) (index slot : Nat) (outcomes : List Outcome) :
    Mute run (s.completeAll index slot outcomes).1
      (events ++ (s.completeAll index slot outcomes).2) := by
  induction outcomes generalizing s events with
  | nil => exact h.of_runs rfl (by simp [Session.completeAll])
  | cons outcome rest ih =>
    rw [completeAll_cons, ← List.append_assoc]
    exact ih (h.operate index (.complete slot outcome) (by simp))

theorem judged (h : Mute run s events) (index slot : Nat) (v : Validator) (plan : Plan)
    (step : Step) (judge : Judge) :
    Mute run (question.judged index slot v plan step s judge).1
      (events ++ (question.judged index slot v plan step s judge).2) := by
  unfold question.judged
  obtain ⟨accepted, context⟩ := s.context.consult judge (plan.subject v.input step)
  have hasked : Mute run { s with context } (events ++ [.judged index slot accepted]) :=
    h.of_runs rfl (by simp)
  simpa using hasked.operate index (.complete slot (.ofBool accepted)) (by simp)

theorem question (h : Mute run s events) (index slot : Nat) (v : Validator) (plan : Plan)
    (step : Step) :
    Mute run (s.question index slot v plan step).1
      (events ++ (s.question index slot v plan step).2) := by
  unfold Session.question
  split
  · next attend _ =>
    let conduct := attend s.context.clock (plan.subject v.input step)
    have hcalled : Mute run { s with
        context := s.context.tick
        handles := s.handles ++ List.replicate conduct.kept (⟨index, slot, true⟩ : Handle) }
        (events ++ [.called index slot step.directive.name step.field]) :=
      h.of_runs rfl (by simp)
    simpa using hcalled.completeAll index slot conduct.outcomes
  · exact h.judged index slot v plan step _
  · exact h.judged index slot v plan step _

/-- The next step of a run is taken from its plan. -/
theorem advance (h : Mute run s events) {index : Nat} {started : StartedRun} {step : Step}
    {rest : List Step} (hs : s.runs[index]? = some started)
    (hpending : started.pending = step :: rest) (context : Context) :
    Mute run (s.advance index rest context) events := by
  have hadvanced : Mute run (s.advance index rest context) (events ++ []) := by
    refine h.quiet (fun other hother hmute => ?_) (by simp)
    simp only [Session.advance, modifyRun, List.getElem?_modify, hother, Option.map_eq_map,
      Option.map_some, Option.some.injEq, exists_eq_left']
    split
    · next hr =>
      subst hr
      obtain rfl : started = other := Option.some.inj (hs.symm.trans hother)
      refine ⟨hmute.steady, fun later hm => hmute.pending later ?_, hmute.run⟩
      rw [hpending]
      exact List.mem_cons_of_mem _ hm
    · exact hmute
  simpa using hadvanced

/-- A directive of the rule of presence is asked only where it accepts, and its slot is resolved at
once. -/
theorem asked_presence (h : Mute run s events) {started : StartedRun} {step : Step}
    {rest : List Step} {v : Validator} {context : Context} (hs : s.runs[run]? = some started)
    (hpending : started.pending = step :: rest) (hname : step.directive.name = "required")
    (happlies : started.plan.applies v.input s.context step = (true, context)) (f : Failure) :
    let added := (s.advance run rest context).operate run (.add f)
    let asked := added.1.question run started.run.slots.length v started.plan step
    Mute run asked.1 (events ++ (added.2 ++ asked.2)) := by
  intro added asked
  obtain ⟨other, hother, hmute⟩ := h.there
  obtain rfl : started = other := Option.some.inj (hs.symm.trans hother)
  have hasks := hmute.pending step (by rw [hpending]; exact List.mem_cons_self) hname
  have hfinds : started.plan.finds v.input step.field = true := by
    have hcounts := Plan.applies_fst hmute.steady v.input s.context step
    rwa [happlies, hasks.implicit, Bool.false_or, eq_comm] at hcounts
  have hadvanced : (s.advance run rest context).runs[run]? =
      some { started with pending := rest } := by
    simp [Session.advance, modifyRun, hs]
  have hadded : added = ((s.advance run rest context).strike run (.add f)
      { started with pending := rest }, [.operated run (.add f)]) := operate_add hadvanced f
  have hjudged : asked = question.judged run started.run.slots.length v started.plan step added.1
      started.plan.presence := question_judged _ _ _ _ _ hasks.judge
  obtain ⟨context', hconsult⟩ : ∃ context', added.1.context.consult started.plan.presence
      (started.plan.subject v.input step) = (true, context') :=
    ⟨_, Prod.ext ((Plan.consult_presence_fst hmute.steady _ _ _).trans hfinds) rfl⟩
  let t : Session := { added.1 with context := context' }
  let running : StartedRun := { started with pending := rest, run := started.run.add f }
  have hrunning : t.runs[run]? = some running := by
    have hstruck : ((s.advance run rest context).strike run (.add f)
        { started with pending := rest }).runs[run]? = some running := by
      simp [strike, modifyRun, hadvanced, running, Run.step]
    simpa only [t, hadded] using hstruck
  have hsilent : ∀ i g message,
      .recorded i (some run) g message ∈ events ++ [.operated run (.add f),
        .judged run started.run.slots.length true] → g.directive.name ≠ "required" := by
    intro i g message hm
    exact h.silent i g message (by simpa using hm)
  have hpass := hmute.run.add_pass f
  have hdone : Mute run (t.operate run (.complete started.run.slots.length .pass)).1 _ :=
    of_operate hrunning hmute.steady
      (fun later hm => hmute.pending later (by rw [hpending]; exact List.mem_cons_of_mem _ hm))
      hsilent ⟨hpass.1, fun g hm => absurd hm (hpass.2 g)⟩
  have hasked : asked = ((t.operate run (.complete started.run.slots.length .pass)).1,
      .judged run started.run.slots.length true ::
        (t.operate run (.complete started.run.slots.length .pass)).2) := by
    rw [hjudged, question.judged, hconsult]
    rfl
  rw [hasked, hadded]
  simpa using hdone

/-- The next rule of any run is asked. -/
theorem ask (h : Mute run s events) (index : Nat) :
    Mute run (s.ask index).1 (events ++ (s.ask index).2) := by
  rcases ask_cases s index with ⟨heq, -⟩ | ⟨started, step, rest, v, context, hs, hp, -, hcase⟩
  · rw [heq]
    exact h.of_runs rfl (by simp)
  · have hadvanced := h.advance hs hp context
    rcases hcase with ⟨-, heq⟩ | ⟨happlies, heq⟩
    · rw [heq]
      exact hadvanced.of_runs rfl (by simp)
    · rw [heq]
      by_cases hpresence : index = run ∧ step.directive.name = "required"
      · obtain ⟨rfl, hname⟩ := hpresence
        exact h.asked_presence hs hp hname happlies _
      · have hadded := hadvanced.operate index (.add (v.failureOf step)) fun hr f hf hname => by
          rw [← Run.Operation.add.inj hf] at hname
          exact hpresence ⟨hr, hname⟩
        have hasked := hadded.question index started.run.slots.length v started.plan step
        rwa [List.append_assoc] at hasked

/-- No move makes a run tell of the rule of presence. -/
theorem move (h : Mute run s events) (hmove : Move s s' others) :
    Mute run s' (events ++ others) := by
  cases hmove with
  | aside _ _ runs => exact h.of_runs runs (by simp)
  | reworded | created => exact h.of_runs rfl (by simp)
  | checked index v _ =>
    unfold Session.check
    split
    · refine h.of_runs rfl fun i f message hm => ?_
      simp at hm
    · exact h.of_runs rfl (by simp)
  | opened index v listener _ _ _ accepted =>
    obtain ⟨plan, -, rfl, hruns, -⟩ := openRun_ok accepted
    refine h.quiet (fun started hs hmute => ⟨started, ?_, hmute⟩) (by simp)
    rw [hruns, List.getElem?_append_left (List.getElem?_eq_some_iff.1 hs).1, hs]
  | asked index => exact h.ask index
  | closed index =>
    rcases close_cases s index with heq | heq
    · rw [heq]
      exact h.of_runs rfl (by simp)
    · rw [heq]
      exact h.operate index .arm (by simp)
  | completed index slot outcome => exact h.operate index (.complete slot outcome) (by simp)

theorem moves (h : Mute run s events) (hmoves : Moves s s' others) :
    Mute run s' (events ++ others) :=
  hmoves.keep (fun _ _ _ _ hmove h => h.move hmove) h

end Mute

theorem length_runs_check (s : Session) (index : Nat) (v : Validator) :
    (s.check index v).1.runs.length = s.runs.length := by
  unfold Session.check
  split <;> rfl

theorem length_runs_complete (s : Session) (handle : Nat) (outcome : Outcome) :
    (s.complete handle outcome).1.runs.length = s.runs.length := by
  unfold complete
  split
  · rw [← length_outlines, outlines_operate, length_outlines]
  · rfl

/-- An operation that starts a run first makes the plan of a validator, by the context as it is, and
opens the run; the rest are moves. -/
theorem step_opens (s : Session) (op : Operation)
    (starts : s.runs.length < (s.step op).1.runs.length) :
    ∃ (index : Nat) (v : Validator) (plan : Plan) (listener : Listener) (opened : Session)
      (rest : List Event), v.plan s.context = .ok plan ∧
      opened.runs = s.runs ++ [{ validator := index, plan, pending := plan.steps, listener }] ∧
      Moves opened (s.step op).1 rest ∧
      (s.step op).2.2 = .began index (some s.runs.length) :: rest := by
  have hidle (h : (s.step op).1.runs.length = s.runs.length) : False := by omega
  have hfound {index : Nat} {act : Validator → Session × Answer × List Event}
      (hact : s.step op = s.withValidator index act) :
      ∃ v, s.validators[index]? = some v ∧ s.step op = act v := by
    rw [hact]
    cases there : s.validators[index]? with
    | none =>
      simp only [withValidator, there] at hact
      exact (hidle (by rw [hact])).elim
    | some v => exact ⟨v, rfl, by simp only [withValidator, there]⟩
  cases op with
  | checkAsync index onPass onFail =>
    obtain ⟨v, there, -⟩ := hfound rfl
    cases hplan : v.plan s.context with
    | error e => exact (hidle (by rw [step_checkAsync_refused there hplan])).elim
    | ok plan =>
      rw [step_checkAsync there hplan]
      exact ⟨index, v, plan, _, _, _, hplan, rfl, schedule_moves _ _, rfl⟩
  | future index negated =>
    obtain ⟨v, there, -⟩ := hfound rfl
    cases hplan : v.plan s.context with
    | error e => exact (hidle (by rw [step_future_refused there hplan])).elim
    | ok plan =>
      rw [step_future there hplan]
      refine ⟨index, v, plan, _, _, _, hplan, rfl, (schedule_moves _ _).aside _ ?_ ?_, rfl⟩
      · exact (poll_aside _ _).1
      · exact (poll_aside _ _).2
  | openCall index onPass onFail =>
    obtain ⟨v, -, hact⟩ := hfound rfl
    rw [hact] at hidle ⊢
    cases hplan : v.plan s.context with
    | error e => exact (hidle (by rw [openCall_refused s index hplan])).elim
    | ok plan =>
      rw [openCall_underway s index hplan]
      exact ⟨index, v, plan, _, _, _, hplan, rfl, .none, rfl⟩
  | openFuture index negated =>
    obtain ⟨v, -, hact⟩ := hfound rfl
    rw [hact] at hidle ⊢
    cases hplan : v.plan s.context with
    | error e => exact (hidle (by rw [openFuture_refused s index hplan])).elim
    | ok plan =>
      rw [openFuture_underway s index hplan]
      exact ⟨index, v, plan, _, s.underway index plan .future s.context plan.steps {} [], _, hplan,
        rfl, moves_aside _ _ rfl rfl, rfl⟩
  | create input rules messages =>
    simp only [step] at hidle
    split at hidle <;> exact (hidle rfl).elim
  | hasAsync index =>
    obtain ⟨v, -, hact⟩ := hfound rfl
    exact (hidle (by rw [hact])).elim
  | check index | fails index =>
    obtain ⟨v, -, hact⟩ := hfound rfl
    exact (hidle (by rw [hact]; exact length_runs_check s index v)).elim
  | ask run => exact (hidle (length_runs_ask s run)).elim
  | close run => exact (hidle (length_runs_close s run)).elim
  | poll future => exact (hidle (by rw [step, (poll_aside s future).2])).elim
  | complete handle outcome => exact (hidle (length_runs_complete s handle outcome)).elim
  | _ => exact (hidle rfl).elim

/-- If the rule of presence is implicit, a synchronous run that tells of a field that it is missing
tells of it besides only what implicit rules find. If it is not, no run ever tells that a field is
missing. -/
theorem missing_value_told_once {s : Session} {implicit : Bool}
    (rule : s.context.registry.HasPresenceRule implicit) :
    (∀ (v : Validator) (passed : Bool) (scene : Scene), v.check s.context = .ok (passed, scene) →
      let failed := scene.log.map (·.1.entry)
      let answers := v.answers s.context
      answers.map Prod.fst = v.rules.directives ∧
      failed = (answers.filter (·.2 = some false)).map Prod.fst ∧
      (implicit = true → ∀ (field : String) (d : Directive), d.name = "required" →
        ((field, d) ∈ failed →
          ∀ d', (field, d') ∈ failed → s.context.registry.isImplicit d'.name = true) ∧
        ((field, d) ∈ v.rules.directives → (field, d) ∉ failed →
          ∀ d' answer, ((field, d'), answer) ∈ answers → answer.isSome = true)) ∧
      (implicit = false → ∀ entry ∈ failed, entry.2.name ≠ "required")) ∧
    (implicit = false → ∀ op : Operation, s.runs.length < (s.step op).1.runs.length →
      ∀ (deeds : List Deed) (i : Nat) (f : Failure) (message : String),
        .recorded i (some s.runs.length) f message ∈ (acts s (.operation op :: deeds)).2 →
          f.directive.name ≠ "required") := by
  constructor
  · intro v passed scene h failed answers
    obtain ⟨hdirectives, hfailed⟩ := Validator.answers_spec h
    refine ⟨hdirectives, hfailed, fun always field d hname => ⟨?_, ?_⟩, fun never entry hm => ?_⟩
    · exact fun hd d' hd' => Validator.isImplicit_of_missing rule h always hname hd hd'
    · exact fun hm hd d' answer => Validator.asked_of_present rule h always hm hname hd
    · exact Validator.not_required_of_failed rule h never hm
  · intro never op starts deeds i f message hm
    subst never
    obtain ⟨index, v, plan, listener, opened, rest, hplan, hruns, hmoves, hevents⟩ :=
      step_opens s op starts
    have hopened : Mute s.runs.length opened [.began index (some s.runs.length)] := by
      refine ⟨⟨_, hruns ▸ List.getElem?_concat_length, ?_, fun step hstep hname => ?_, ?_⟩, by simp⟩
      · rw [((Plan.make_ok_iff _ _ _).1 hplan).2.1]
        exact rule.spec.1
      · exact Plan.asksPresence_of_make rule hplan hstep hname
      · intro f hm
        simp at hm
    have hdone := (hopened.moves hmoves).moves (acts_moves _ deeds)
    refine hdone.silent i f message ?_
    rwa [acts_cons, act, hevents] at hm

/-- A context where a value is there unless it is null, and where the rule that asks for it may be
implicit or not. -/
def strictContext (implicit : Bool) : Context :=
  Context.initial.register "required" (.pure fun s => !s.value.isNull) implicit "No :attribute."

/-- One field is absent and the other one is too short. -/
def shortValidator : Validator where
  input := [("b", .string "x")]
  rules := Dict.ofList [("a", [⟨"min", some "3"⟩, ⟨"required", some "now"⟩, ⟨"accepted", none⟩]),
    ("b", [⟨"required", none⟩, ⟨"min", some "3"⟩, ⟨"alpha", none⟩])]
  wording := {}
  bag := MessageBag.empty

theorem hasPresenceRule_strictContext (implicit : Bool) :
    (strictContext implicit).registry.HasPresenceRule implicit :=
  .registered rfl fun _ _ => rfl

/-- Of the absent field the implicit rules tell, and all rules of the other one are asked. Where the
rule of presence is not implicit, the run tells of `accepted` and never of `required`. -/
theorem missing_value_told_once_short :
    let s (implicit : Bool) : Session :=
      { context := strictContext implicit, validators := [shortValidator] }
    let run : Operation := .checkAsync 0 true true
    (∃ scene, shortValidator.check (strictContext true) = .ok (false, scene) ∧
      scene.log.map (·.1.entry) = [("a", ⟨"required", some "now"⟩), ("a", ⟨"accepted", none⟩),
        ("b", ⟨"min", some "3"⟩)] ∧
      (∀ d, ("a", d) ∈ scene.log.map (·.1.entry) →
        (strictContext true).registry.isImplicit d.name = true) ∧
      ∀ d answer, (("b", d), answer) ∈ shortValidator.answers (strictContext true) →
        answer.isSome = true) ∧
    (s false).runs.length < ((s false).step run).1.runs.length ∧
    (∃ i f message, .recorded i (some 0) f message ∈ ((s false).acts [.operation run]).2) ∧
    ∀ i f message, .recorded i (some 0) f message ∈ ((s false).acts [.operation run]).2 →
      f.directive.name ≠ "required" := by
  intro s run
  obtain ⟨hcheck, -⟩ := @missing_value_told_once (s true) true (hasPresenceRule_strictContext true)
  obtain ⟨-, hnever⟩ := @missing_value_told_once (s false) false (hasPresenceRule_strictContext false)
  have hran : (shortValidator.check (strictContext true)).toOption.map
      (fun result => (result.1, result.2.log.map (·.1.entry))) =
        some (false, [("a", ⟨"required", some "now"⟩), ("a", ⟨"accepted", none⟩),
          ("b", ⟨"min", some "3"⟩)]) := by decide +kernel
  have hstarts : (s false).runs.length < ((s false).step run).1.runs.length := by decide +kernel
  cases hresult : shortValidator.check (strictContext true) with
  | error e => simp [hresult, Except.toOption] at hran
  | ok result =>
    obtain ⟨passed, scene⟩ := result
    rw [hresult] at hran
    obtain ⟨rfl, hlog⟩ := Prod.mk.inj (Option.some.inj hran)
    obtain ⟨-, -, halways, -⟩ := hcheck shortValidator false scene hresult
    refine ⟨⟨scene, rfl, hlog, ?_, ?_⟩, hstarts, ?_, fun i f message hm =>
      hnever rfl run hstarts [] i f message hm⟩
    · exact ((halways rfl "a" ⟨"required", some "now"⟩ rfl).1 (by rw [hlog]; simp))
    · refine (halways rfl "b" ⟨"required", none⟩ rfl).2 ?_ (by rw [hlog]; simp)
      decide +kernel
    · refine ⟨0, ⟨"a", ⟨"accepted", none⟩, .unsized, none⟩, "The a must be accepted.", ?_⟩
      decide +kernel

end Session

end FieldRules
