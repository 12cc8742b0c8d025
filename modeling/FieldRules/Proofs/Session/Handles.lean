import FieldRules.Proofs.Session.Agreement
import FieldRules.Proofs.Session.Reply
import FieldRules.Proofs.Session.Settled

namespace FieldRules.Session

/-- Makes a copy of a handle that is held. -/
def copy (s : Session) (handle : Nat) : Session :=
  { s with handles := s.handles ++ (s.handles[handle]?.filter (·.held)).toList }

/-- What can be done in a session, by whoever has handles as well. -/
inductive Deed where
  | operation (op : Operation)
  | copy (handle : Nat)

def act (s : Session) : Deed → Session × List Event
  | .operation op => ((s.step op).1, (s.step op).2.2)
  | .copy handle => (s.copy handle, [])

/-- The deeds one after the other, with all that happens. -/
def acts (s : Session) (deeds : List Deed) : Session × List Event := inTurn act s deeds

theorem acts_cons (s : Session) (deed : Deed) (rest : List Deed) :
    s.acts (deed :: rest) =
      (((s.act deed).1.acts rest).1, (s.act deed).2 ++ ((s.act deed).1.acts rest).2) := rfl

theorem acts_snoc (s : Session) (deeds : List Deed) (deed : Deed) :
    s.acts (deeds ++ [deed]) =
      (((s.acts deeds).1.act deed).1, (s.acts deeds).2 ++ ((s.acts deeds).1.act deed).2) :=
  inTurn_snoc act s deeds deed

theorem acts_operations (s : Session) (ops : List Operation) :
    s.acts (ops.map .operation) = s.steps ops := by
  induction ops generalizing s with
  | nil => rfl
  | cons op rest ih => rw [List.map_cons, acts_cons, ih, steps_cons, act]

theorem act_moves (s : Session) (deed : Deed) : Moves s (s.act deed).1 (s.act deed).2 := by
  cases deed with
  | operation op => exact step_moves s op
  | copy handle => exact moves_aside _ _ rfl rfl

theorem acts_moves (s : Session) (deeds : List Deed) :
    Moves s (s.acts deeds).1 (s.acts deeds).2 :=
  .inTurn fun s deed _ => act_moves s deed

/-- After any deeds a session is faithful to its history. -/
theorem acts_faithful (context : Context) (validators : List Validator) (deeds : List Deed) :
    Faithful (acts { context, validators } deeds).1 (acts { context, validators } deeds).2 := by
  simpa using (faithful_initial context validators).moves (acts_moves _ deeds)

section Handles

variable (s : Session) (index : Nat)

/-- Handles of a run are given out, all of them held and of slots whose rules were asked; those that
there were stay as they are. -/
def Gives (run : Nat) (s s' : Session) (events : List Event) : Prop :=
  ∃ given, s'.handles = s.handles ++ given ∧ ∀ handle ∈ given,
    (handle.run = run ∧ handle.held = true) ∧
      ∃ rule field, .called run handle.slot rule field ∈ events

theorem Gives.of_eq {run : Nat} {s s' : Session} (h : s'.handles = s.handles)
    (events : List Event) : Gives run s s' events :=
  ⟨[], by simp [h], by simp⟩

theorem Gives.trans {run : Nat} {s s' s'' : Session} {events others : List Event}
    (h : Gives run s s' events) (h' : Gives run s' s'' others) :
    Gives run s s'' (events ++ others) := by
  obtain ⟨given, heq, hgiven⟩ := h
  obtain ⟨more, heq', hmore⟩ := h'
  refine ⟨given ++ more, by rw [heq', heq, List.append_assoc], ?_⟩
  intro handle hm
  rcases List.mem_append.1 hm with hm | hm
  · obtain ⟨hheld, rule, field, hcalled⟩ := hgiven handle hm
    exact ⟨hheld, rule, field, List.mem_append_left _ hcalled⟩
  · obtain ⟨hheld, rule, field, hcalled⟩ := hmore handle hm
    exact ⟨hheld, rule, field, List.mem_append_right _ hcalled⟩

/-- A rule that keeps handles is asynchronous. -/
theorem note_of_kept {plan : Plan} {v : Validator} {context : Context} {step : Step}
    (h : (plan.reply v context step).kept ≠ 0) (run slot : Nat) :
    plan.note v context step run slot = .called run slot step.directive.name step.field := by
  unfold Plan.reply at h
  unfold Plan.note
  split at h
  · next hpredicate => simp [hpredicate, Predicate.judge?]
  · exact absurd rfl h
  · exact absurd rfl h

theorem question_gives {index : Nat} (hlt : index < s.runs.length) (slot : Nat) (v : Validator)
    (plan : Plan) (step : Step) :
    Gives index s (s.question index slot v plan step).1 (s.question index slot v plan step).2 := by
  have hreplied := question_replied s slot v plan step hlt
  refine ⟨_, hreplied.handles, fun handle hm => ?_⟩
  obtain ⟨hkept, rfl⟩ := List.mem_replicate.1 hm
  refine ⟨⟨rfl, rfl⟩, step.directive.name, step.field, ?_⟩
  rw [← note_of_kept hkept index slot]
  exact List.mem_of_head? hreplied.noted

theorem ask_gives : Gives index s (s.ask index).1 (s.ask index).2 := by
  rcases ask_cases s index with ⟨heq, -⟩ | ⟨started, step, rest, v, context, hs, -, -, hcase⟩
  · rw [heq]
    exact .of_eq rfl _
  rcases hcase with ⟨-, heq⟩ | ⟨-, heq⟩
  · rw [heq]
    exact .of_eq rfl _
  · let added := (s.advance index rest context).operate index (.add (v.failureOf step))
    have hadded : Gives index s added.1 added.2 := .of_eq (handles_operate _ index _) _
    have hlt : index < added.1.runs.length := by
      rw [← length_hosts, hosts, outlines_operate, ← hosts, hosts_advance, length_hosts]
      exact (List.getElem?_eq_some_iff.1 hs).1
    rw [heq]
    exact hadded.trans (question_gives _ hlt _ v started.plan step)

theorem close_gives : Gives index s (s.close index).1 (s.close index).2 := by
  apply Gives.of_eq
  rcases close_cases s index with heq | heq
  · rw [heq]
  · rw [heq, handles_operate]

theorem schedule_gives : Gives index s (s.schedule index).1 (s.schedule index).2 := by
  have hasked (count : Nat) : Gives index s (s.askAll index count).1 (s.askAll index count).2 := by
    refine inTurn_rel (R := Gives index) (fun _ => .of_eq rfl _) (fun h h' => h.trans h')
      fun s input hm => ?_
    rw [List.eq_of_mem_replicate hm]
    exact ask_gives s index
  exact (hasked _).trans (close_gives _ index)

end Handles

theorem handles_openCall (s : Session) (index : Nat) (v : Validator) (onPass onFail : Bool) :
    (s.openCall index v onPass onFail).1.handles = s.handles := by
  rcases openCall_cases s index v onPass onFail with ⟨e, heq⟩ | ⟨plan, heq⟩
  · rw [heq]
  · rw [heq]
    rfl

theorem handles_openFuture (s : Session) (index : Nat) (v : Validator) (negated : Bool) :
    (s.openFuture index v negated).1.handles = s.handles := by
  rcases openFuture_cases s index v negated with ⟨e, heq⟩ | ⟨plan, heq⟩
  · rw [heq]
  · rw [heq]
    rfl

theorem handles_poll (s : Session) (future : Nat) : (s.poll future).1.handles = s.handles := by
  obtain ⟨futures, heq⟩ := poll_futures s future
  rw [heq]

theorem Gives.withValidator {s : Session} {run index : Nat}
    {act : Validator → Session × Answer × List Event}
    (h : ∀ v, Gives run s (act v).1 (act v).2.2) :
    Gives run s (s.withValidator index act).1 (s.withValidator index act).2.2 :=
  withValidator_cases (P := fun done => Gives run s done.1 done.2.2) (.of_eq rfl _) h

theorem Gives.scheduled {s : Session} {opened : Session × Answer × List Event}
    (h : opened.1.handles = s.handles) :
    Gives s.runs.length s (s.scheduled opened).1 (s.scheduled opened).2.2 := by
  have hopened : Gives s.runs.length s opened.1 opened.2.2 := .of_eq h _
  exact hopened.trans (schedule_gives opened.1 _)

/-- But for questions asked of an open run, handles are only given out for a new run. -/
theorem step_gives (s : Session) {op : Operation} (hask : ∀ run, op ≠ .ask run)
    (hdrop : ∀ handle, op ≠ .drop handle) :
    Gives s.runs.length s (s.step op).1 (s.step op).2.2 := by
  cases op with
  | ask run => exact absurd rfl (hask run)
  | drop handle => exact absurd rfl (hdrop handle)
  | checkAsync index onPass onFail =>
    exact .withValidator fun v => .scheduled (handles_openCall s index v onPass onFail)
  | future index negated =>
    apply Gives.withValidator
    intro v
    have hscheduled := Gives.scheduled (handles_openFuture s index v negated)
    obtain ⟨hafter, hevents⟩ := startFuture_eq s index v negated
    rw [hafter, hevents]
    simpa using hscheduled.trans (.of_eq (handles_poll _ _) [])
  | openCall index onPass onFail =>
    exact .withValidator fun v => .of_eq (handles_openCall s index v onPass onFail) _
  | openFuture index negated =>
    exact .withValidator fun v => .of_eq (handles_openFuture s index v negated) _
  | check index | fails index =>
    apply Gives.withValidator
    intro v
    simp only [Session.check]
    split <;> exact .of_eq rfl _
  | hasAsync index => exact .withValidator fun v => .of_eq rfl _
  | create input rules messages =>
    simp only [step]
    split <;> exact .of_eq rfl _
  | close run =>
    apply Gives.of_eq
    rcases close_cases s run with heq | heq
    · simp only [step, heq]
    · simp only [step, heq, handles_operate]
  | complete handle outcome =>
    apply Gives.of_eq
    simp only [step, complete]
    split
    · exact handles_operate s _ _
    · rfl
  | poll future => exact .of_eq (handles_poll s future) _
  | _ => exact .of_eq rfl _

/-- What becomes in a deed of the handles that there are. -/
def released (s : Session) : Deed → List Handle
  | .operation (.drop handle) => s.handles.modify handle fun h => { h with held := false }
  | _ => s.handles

/-- A deed gives out a handle that is held. It is a copy of one that is held, or it is of a slot whose
rule the deed asks, in a run that is open or new. -/
structure IsGiven (s : Session) (deed : Deed) (handle : Handle) : Prop where
  held : handle.held = true
  source : (∃ original, deed = .copy original ∧ s.handles[original]? = some handle) ∨
    (deed = .operation (.ask handle.run) ∨ s.runs.length ≤ handle.run) ∧
      ∃ rule field, .called handle.run handle.slot rule field ∈ (s.act deed).2

/-- How the handles change in a deed. -/
theorem act_handles (s : Session) (deed : Deed) :
    ∃ given, (s.act deed).1.handles = s.released deed ++ given ∧
      ∀ handle ∈ given, s.IsGiven deed handle := by
  cases deed with
  | copy original =>
    refine ⟨(s.handles[original]?.filter (·.held)).toList, rfl, ?_⟩
    intro handle hm
    obtain ⟨hthere, hheld⟩ := Option.filter_eq_some_iff.1 (Option.mem_toList.1 hm)
    exact ⟨hheld, .inl ⟨original, rfl, hthere⟩⟩
  | operation op =>
    by_cases hask : ∃ run, op = .ask run
    · obtain ⟨run, rfl⟩ := hask
      obtain ⟨given, heq, hgiven⟩ := ask_gives s run
      refine ⟨given, heq, fun handle hm => ?_⟩
      obtain ⟨⟨rfl, hheld⟩, hcalled⟩ := hgiven handle hm
      exact ⟨hheld, .inr ⟨.inl rfl, hcalled⟩⟩
    by_cases hdrop : ∃ handle, op = .drop handle
    · obtain ⟨handle, rfl⟩ := hdrop
      exact ⟨[], by simp [act, step, released], by simp⟩
    have hreleased : s.released (.operation op) = s.handles := by
      cases op with
      | drop handle => exact absurd ⟨handle, rfl⟩ hdrop
      | _ => rfl
    obtain ⟨given, heq, hgiven⟩ := step_gives s (fun run he => hask ⟨run, he⟩)
      fun handle he => hdrop ⟨handle, he⟩
    refine ⟨given, by rw [hreleased]; exact heq, fun handle hm => ?_⟩
    obtain ⟨⟨hrun, hheld⟩, hcalled⟩ := hgiven handle hm
    rw [← hrun] at hcalled
    exact ⟨hheld, .inr ⟨.inr hrun.ge, hcalled⟩⟩

/-- Every handle is of a slot whose rule was asked. -/
def Owned (s : Session) (events : List Event) : Prop :=
  ∀ handle ∈ s.handles, ∃ rule field, .called handle.run handle.slot rule field ∈ events

theorem mem_released {s : Session} {deed : Deed} {handle : Handle} (h : handle ∈ s.released deed) :
    ∃ before ∈ s.handles, before.run = handle.run ∧ before.slot = handle.slot := by
  unfold released at h
  split at h
  · next dropped =>
    obtain ⟨i, hi, rfl⟩ := List.getElem_of_mem h
    rw [List.length_modify] at hi
    refine ⟨s.handles[i], List.getElem_mem hi, ?_⟩
    rw [List.getElem_modify]
    split <;> exact ⟨rfl, rfl⟩
  · exact ⟨handle, h, rfl, rfl⟩

theorem Owned.act {s : Session} {events : List Event} (h : Owned s events) (deed : Deed) :
    Owned (s.act deed).1 (events ++ (s.act deed).2) := by
  intro handle hm
  obtain ⟨given, heq, hgiven⟩ := act_handles s deed
  rw [heq] at hm
  rcases List.mem_append.1 hm with hm | hm
  · obtain ⟨before, hbefore, hrun, hslot⟩ := mem_released hm
    obtain ⟨rule, field, hcalled⟩ := h before hbefore
    rw [hrun, hslot] at hcalled
    exact ⟨rule, field, List.mem_append_left _ hcalled⟩
  · rcases (hgiven handle hm).source with ⟨original, -, hthere⟩ | ⟨-, rule, field, hcalled⟩
    · obtain ⟨rule, field, hcalled⟩ := h handle (List.mem_of_getElem? hthere)
      exact ⟨rule, field, List.mem_append_left _ hcalled⟩
    · exact ⟨rule, field, List.mem_append_right _ hcalled⟩

theorem acts_owned (context : Context) (validators : List Validator) (deeds : List Deed) :
    Owned (acts { context, validators } deeds).1 (acts { context, validators } deeds).2 := by
  induction deeds using List.reverseRecOn with
  | nil => simp [Owned, acts]
  | append_singleton deeds deed ih =>
    rw [acts_snoc]
    exact ih.act deed

/-- The completion of a run that a deed makes through a handle that is held. -/
def through (s : Session) (run : Nat) : Deed → List Run.Operation
  | .operation (.complete handle outcome) =>
    match s.handles[handle]? with
    | some ⟨owner, slot, true⟩ => if owner = run then [.complete slot outcome] else []
    | _ => []
  | _ => []

theorem operations_ask_of_ne (s : Session) {index run : Nat} (h : run ≠ index) :
    operations run (s.ask index).2 = [] := by
  apply List.eq_nil_iff_forall_not_mem.2
  intro operation hm
  exact h (operated_mem_ask (mem_operations.1 hm)).1

theorem operations_close_of_ne (s : Session) {index run : Nat} (h : run ≠ index) :
    operations run (s.close index).2 = [] := by
  rcases close_cases s index with heq | heq
  · rw [heq]
    rfl
  · rw [heq, operations_operate, if_neg fun hboth => h hboth.1.symm]

theorem operations_schedule_of_ne (s : Session) {index run : Nat} (h : run ≠ index) :
    operations run (s.schedule index).2 = [] := by
  have hasked (count : Nat) : operations run (s.askAll index count).2 = [] := by
    refine List.filterMap_eq_nil_iff.2 (forall_mem_inTurn fun s input hm => ?_)
    rw [List.eq_of_mem_replicate hm]
    exact List.filterMap_eq_nil_iff.1 (operations_ask_of_ne s h)
  simp only [schedule, operations_append, hasked, operations_close_of_ne _ h, List.append_nil]

/-- Opening a run does nothing with another, and what is left of it neither. -/
theorem operations_scheduled {s : Session} {run : Nat} (h : run ≠ s.runs.length)
    {opened : Session × Answer × List Event} (hopened : operations run opened.2.2 = []) :
    operations run (s.scheduled opened).2.2 = [] := by
  have hschedule := operations_schedule_of_ne opened.1 h
  simp only [scheduled, operations_append, hopened, hschedule, List.append_nil]

theorem operations_openCall (s : Session) (index run : Nat) (v : Validator) (onPass onFail : Bool) :
    operations run (s.openCall index v onPass onFail).2.2 = [] := by
  rcases openCall_cases s index v onPass onFail with ⟨e, heq⟩ | ⟨plan, heq⟩ <;> rw [heq] <;> rfl

theorem operations_openFuture (s : Session) (index run : Nat) (v : Validator) (negated : Bool) :
    operations run (s.openFuture index v negated).2.2 = [] := by
  rcases openFuture_cases s index v negated with ⟨e, heq⟩ | ⟨plan, heq⟩ <;> rw [heq] <;> rfl

theorem operations_withValidator {s : Session} {index run : Nat}
    {act : Validator → Session × Answer × List Event} (h : ∀ v, operations run (act v).2.2 = []) :
    operations run (s.withValidator index act).2.2 = [] :=
  withValidator_cases (P := fun done => operations run done.2.2 = []) rfl h

/-- But for its scheduling, nothing is done with a run but through its handles that are held. -/
theorem operations_act {s : Session} {run : Nat} (hlt : run < s.runs.length) {deed : Deed}
    (hask : deed ≠ .operation (.ask run)) (hclose : deed ≠ .operation (.close run)) :
    operations run (s.act deed).2 = s.through run deed := by
  cases deed with
  | copy handle => rfl
  | operation op =>
    cases op with
    | ask index => exact operations_ask_of_ne s fun hrun => hask (by rw [hrun])
    | close index => exact operations_close_of_ne s fun hrun => hclose (by rw [hrun])
    | complete handle outcome =>
      cases hhandle : s.handles[handle]? with
      | none => simp only [act, step, complete, through, hhandle, operations_nil]
      | some there =>
        obtain ⟨owner, slot, held⟩ := there
        cases held with
        | false => simp only [act, step, complete, through, hhandle, operations_nil]
        | true =>
          simp only [act, step, complete, through, hhandle, operations_operate]
          by_cases hrun : owner = run
          · rw [if_pos ⟨hrun, hrun ▸ hlt⟩, if_pos hrun]
          · rw [if_neg fun hboth => hrun hboth.1, if_neg hrun]
    | checkAsync index onPass onFail =>
      exact operations_withValidator fun v =>
        operations_scheduled hlt.ne (operations_openCall s index run v onPass onFail)
    | future index negated =>
      apply operations_withValidator
      intro v
      rw [(startFuture_eq s index v negated).2]
      exact operations_scheduled hlt.ne (operations_openFuture s index run v negated)
    | openCall index onPass onFail =>
      exact operations_withValidator fun v => operations_openCall s index run v onPass onFail
    | openFuture index negated =>
      exact operations_withValidator fun v => operations_openFuture s index run v negated
    | check index | fails index =>
      apply operations_withValidator
      intro v
      apply operations_of_isAside
      simp only [Session.check]
      split
      · simp only [List.forall_mem_cons, List.forall_mem_map]
        exact ⟨rfl, fun _ _ => rfl⟩
      · simp
    | hasAsync index => exact operations_withValidator fun v => rfl
    | create input rules messages =>
      simp only [act, step]
      split <;> rfl
    | _ => rfl

section Closed

variable {s : Session} {events : List Event} {run : Nat} (h : Faithful s events)
  (closed : .operated run .arm ∈ events)
include h closed

theorem Faithful.run_lt : run < s.runs.length := by
  by_contra hge
  have hnone := (h.orderly.unopened run (by simpa using hge)).1
  have harm := mem_operations.2 closed
  simp [hnone] at harm

/-- Nothing is left to ask of a run that is closed. -/
theorem Faithful.ask_closed : s.ask run = (s, []) := by
  rcases ask_cases s run with ⟨heq, -⟩ | ⟨started, step, rest, v, context, hs, hp, -, -⟩
  · exact heq
  · have ho : s.outlines[run]? = some (started.validator, step :: rest) := by
      rw [getElem?_outlines, hs, ← hp]
      rfl
    have hnone := h.orderly.closed run _ _ ho (mem_operations.2 closed)
    simp at hnone

theorem Faithful.close_closed : s.close run = (s, []) := by
  have harmed := (h.alone.armed_iff run).2 (mem_operations.2 closed)
  unfold close
  cases hs : s.runs[run]? with
  | none => rfl
  | some started =>
    have hrun : started.run.armed = true := by simpa [runOf, hs] using harmed
    simp [hrun]

/-- Nothing is done with a run that is closed but through a handle that is held. -/
theorem Faithful.operations_act (deed : Deed) :
    operations run (s.act deed).2 = s.through run deed := by
  by_cases hask : deed = .operation (.ask run)
  · subst hask
    simp only [act, step, h.ask_closed closed]
    rfl
  by_cases hclose : deed = .operation (.close run)
  · subst hclose
    simp only [act, step, h.close_closed closed]
    rfl
  · exact Session.operations_act (h.run_lt closed) hask hclose

/-- All that a deed gives out of a run that is closed are copies of a handle that is held. -/
theorem Faithful.handles_act (deed : Deed) :
    ∃ given, (s.act deed).1.handles = s.released deed ++ given ∧
      ∀ handle ∈ given, handle.held = true ∧
        (handle.run = run →
          ∃ original, deed = .copy original ∧ s.handles[original]? = some handle) := by
  have hlt := h.run_lt closed
  by_cases hask : deed = .operation (.ask run)
  · subst hask
    refine ⟨[], ?_, by simp⟩
    simp only [act, step, h.ask_closed closed]
    simp [released]
  · obtain ⟨given, heq, hgiven⟩ := act_handles s deed
    refine ⟨given, heq, fun handle hm => ⟨(hgiven handle hm).held, ?_⟩⟩
    rintro rfl
    rcases (hgiven handle hm).source with hcopy | ⟨hasked | hnew, -⟩
    · exact hcopy
    · exact absurd hasked hask
    · omega

end Closed

end FieldRules.Session
