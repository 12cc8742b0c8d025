import FieldRules.Proofs.Session.Onlooker
import FieldRules.Proofs.Session.Told

namespace FieldRules.Session

/-- The future waits for the verdict of the run. -/
def Waits (future run : Nat) (negated : Bool) (s : Session) : Prop :=
  s.futures[future]? = some (.waiting run negated)

/-- The answer of a future that was made to fail where another passes. -/
def Answer.negate : Answer → Answer
  | .bool b => .bool (!b)
  | answer => answer

theorem futureAnswer_eq (s : Session) (run : Nat) (negated : Bool) :
    s.futureAnswer run negated =
      match (s.verdictsOf run).head? with
      | some passed => .bool (passed != negated)
      | none => if s.isHeld run then .pending else .refused .abandoned := by
  unfold futureAnswer verdictsOf
  cases s.runs[run]? <;> rfl

theorem futureAnswer_negated (s : Session) (run : Nat) :
    s.futureAnswer run true = (s.futureAnswer run false).negate := by
  rw [futureAnswer_eq, futureAnswer_eq]
  cases (s.verdictsOf run).head? with
  | some passed => cases passed <;> rfl
  | none => cases s.isHeld run <;> rfl

/-- The answer to a poll is that of the run behind the future. -/
theorem Waits.poll {s : Session} {future run : Nat} {negated : Bool}
    (h : Waits future run negated s) : (s.poll future).2 = s.futureAnswer run negated := by
  rw [Waits] at h
  simp only [Session.poll, h]
  cases s.futureAnswer run negated <;> rfl

/-- A poll leaves the future as it is if it has to wait. -/
theorem Waits.futures_poll {s : Session} {future run : Nat} {negated : Bool}
    (h : Waits future run negated s) :
    (s.poll future).1.futures[future]? =
      some (if (s.poll future).2 = .pending then .waiting run negated else .gone) := by
  obtain ⟨hlt, hget⟩ := List.getElem?_eq_some_iff.1 h
  rw [Waits] at h
  simp only [Session.poll, h]
  cases s.futureAnswer run negated <;> simp [hlt, hget]

theorem isHeld_iff (s : Session) (run : Nat) :
    s.isHeld run = true ↔ ∃ handle ∈ s.handles, handle.run = run ∧ handle.held = true := by
  simp [isHeld, and_comm]

section Answers

variable {s : Session} {events : List Event} {run : Nat} (h : Faithful s events)
  (told : s.verdictsOf run = verdicts run events)
include h told

theorem Faithful.futureAnswer_bool_iff (v : Bool) :
    s.futureAnswer run false = .bool v ↔
      Run.Settled (operations run events) ∧ (v = true ↔ Run.Unfailed (operations run events)) := by
  rw [← h.head_verdicts_iff, ← told, futureAnswer_eq]
  cases (s.verdictsOf run).head? with
  | some passed => simp
  | none => cases s.isHeld run <;> simp

/-- A future whose run is not settled waits while a handle is held, and is abandoned otherwise. -/
theorem Faithful.futureAnswer_of_unsettled (hopen : ¬ Run.Settled (operations run events))
    (negated : Bool) :
    s.futureAnswer run negated = if s.isHeld run then .pending else .refused .abandoned := by
  have hnone : (s.verdictsOf run).head? = none := by
    apply Option.eq_none_iff_forall_ne_some.2
    intro passed hhead
    rw [told, h.head_verdicts_iff] at hhead
    exact hopen hhead.1
  rw [futureAnswer_eq, hnone]

/-- What a future answers that is not ready with a value. -/
theorem Faithful.futureAnswer_unready_iff {answer : Answer} (hanswer : ∀ v, answer ≠ .bool v) :
    s.futureAnswer run false = answer ↔
      ¬ Run.Settled (operations run events) ∧
        (if s.isHeld run then .pending else .refused .abandoned) = answer := by
  by_cases hsettled : Run.Settled (operations run events)
  · have hready : ∃ v, s.futureAnswer run false = .bool v := by
      by_cases hpass : Run.Unfailed (operations run events)
      · exact ⟨true, (h.futureAnswer_bool_iff told true).2 ⟨hsettled, by simp [hpass]⟩⟩
      · exact ⟨false, (h.futureAnswer_bool_iff told false).2 ⟨hsettled, by simp [hpass]⟩⟩
    obtain ⟨v, hv⟩ := hready
    simp [hv, hsettled, (hanswer v).symm]
  · rw [h.futureAnswer_of_unsettled told hsettled]
    simp [hsettled]

end Answers

theorem not_held_of_isHeld {s : Session} {run : Nat} (hheld : s.isHeld run = false)
    {handle : Handle} (hm : handle ∈ s.handles) (hrun : handle.run = run) : handle.held = false := by
  rw [← Bool.not_eq_true]
  intro h
  have hsome := (s.isHeld_iff run).2 ⟨handle, hm, hrun, h⟩
  simp [hheld] at hsome

/-- Dropping a handle makes no other held. -/
theorem not_held_of_released {s : Session} {run : Nat} (hheld : s.isHeld run = false)
    {deed : Deed} {handle : Handle} (hm : handle ∈ s.released deed) (hrun : handle.run = run) :
    handle.held = false := by
  unfold released at hm
  split at hm
  · next dropped =>
    obtain ⟨place, hplace⟩ := List.mem_iff_getElem?.1 hm
    rw [List.getElem?_modify] at hplace
    obtain ⟨before, hbefore, heq⟩ := Option.map_eq_some_iff.1 hplace
    by_cases h : dropped = place
    · rw [if_pos h] at heq
      rw [← heq]
    · rw [if_neg h] at heq
      exact not_held_of_isHeld hheld (heq ▸ List.mem_of_getElem? hbefore) hrun
  · exact not_held_of_isHeld hheld hm hrun

theorem through_of_not_held {s : Session} {run : Nat} (hheld : s.isHeld run = false)
    (deed : Deed) : s.through run deed = [] := by
  unfold through
  split
  · split
    · next owner slot hthere =>
      apply if_neg
      intro hrun
      have hfree := not_held_of_isHeld hheld (List.mem_of_getElem? hthere) hrun
      simp at hfree
    · rfl
  · rfl

section Later

variable {s : Session} {events : List Event} {run : Nat} (h : Faithful s events)
  (closed : .operated run .arm ∈ events)
include h closed

/-- No handle of a closed run comes back. -/
theorem Faithful.isHeld_act (hheld : s.isHeld run = false) (deed : Deed) :
    (s.act deed).1.isHeld run = false := by
  obtain ⟨given, heq, hgiven⟩ := h.handles_act closed deed
  rw [← Bool.not_eq_true, isHeld_iff]
  rintro ⟨handle, hm, hrun, hh⟩
  rw [heq, List.mem_append] at hm
  rcases hm with hm | hm
  · simp [not_held_of_released hheld hm hrun] at hh
  · obtain ⟨original, -, hthere⟩ := (hgiven handle hm).2 hrun
    simp [not_held_of_isHeld hheld (List.mem_of_getElem? hthere) hrun] at hh

/-- A run of which no handle is held stays as it is. -/
theorem Faithful.abandoned_acts (hheld : s.isHeld run = false) (deeds : List Deed) :
    (s.acts deeds).1.isHeld run = false ∧
      operations run (events ++ (s.acts deeds).2) = operations run events := by
  induction deeds using List.reverseRecOn with
  | nil => exact ⟨hheld, by simp [acts]⟩
  | append_singleton deeds deed ih =>
    have hlater := h.moves (acts_moves s deeds)
    have hclosed : .operated run .arm ∈ events ++ (s.acts deeds).2 := List.mem_append_left _ closed
    rw [acts_snoc]
    refine ⟨hlater.isHeld_act hclosed ih.1 deed, ?_⟩
    rw [← List.append_assoc, operations_append, ih.2, hlater.operations_act hclosed,
      through_of_not_held ih.1, List.append_nil]

/-- The answer of a future that is ready stays, whatever is done. -/
theorem Faithful.futureAnswer_acts (told : s.verdictsOf run = verdicts run events) (negated : Bool)
    (hready : s.futureAnswer run negated ≠ .pending) (deeds : List Deed) :
    (s.acts deeds).1.futureAnswer run negated = s.futureAnswer run negated := by
  have htold := (acts_moves s deeds).tells run
  cases hhead : (s.verdictsOf run).head? with
  | some passed =>
    have hlater : ((s.acts deeds).1.verdictsOf run).head? = some passed := by
      rw [htold, List.head?_append, hhead]
      rfl
    rw [futureAnswer_eq, futureAnswer_eq, hhead, hlater]
  | none =>
    have hheld : s.isHeld run = false := by
      rw [← Bool.not_eq_true]
      intro hh
      rw [futureAnswer_eq, hhead, hh] at hready
      exact hready rfl
    obtain ⟨hstill, hsame⟩ := h.abandoned_acts closed hheld deeds
    have hverdicts := h.verdicts_congr (h.moves (acts_moves s deeds)) hsame
    have hlater : (s.acts deeds).1.verdictsOf run = s.verdictsOf run := by
      rw [htold, told, ← verdicts_append, hverdicts]
    rw [futureAnswer_eq, futureAnswer_eq, hlater, hhead, hheld, hstill]

end Later

section Waits

variable {s : Session} {future run : Nat} {negated : Bool} (h : Waits future run negated s)
include h

theorem Waits.of_eq {s' : Session} (heq : s'.futures = s.futures) : Waits future run negated s' := by
  rwa [Waits, heq]

theorem Waits.scheduled {earlier : Session} {answer : Answer} {events : List Event} :
    Waits future run negated (earlier.scheduled (s, answer, events)).1 :=
  h.of_eq (futures_schedule s _)

theorem Waits.lt : future < s.futures.length := (List.getElem?_eq_some_iff.1 h).1

theorem Waits.append {s' : Session} {more : List FutureState}
    (heq : s'.futures = s.futures ++ more) : Waits future run negated s' := by
  rw [Waits, heq, List.getElem?_append_left h.lt]
  exact h

theorem Waits.poll_other {other : Nat} (hne : other ≠ future) :
    Waits future run negated (s.poll other).1 := by
  unfold Session.poll
  split
  · split
    · exact h
    · rw [Waits, List.getElem?_set_ne hne]
      exact h
  · exact h

theorem Waits.withValidator {index : Nat} {act : Validator → Session × Answer × List Event}
    (hact : ∀ v, Waits future run negated (act v).1) :
    Waits future run negated (s.withValidator index act).1 :=
  withValidator_cases (P := fun done => Waits future run negated done.1) h hact

theorem Waits.openCall (index : Nat) (v : Validator) (onPass onFail : Bool) :
    Waits future run negated (s.openCall index v onPass onFail).1 := by
  rcases openCall_cases s index v onPass onFail with ⟨e, heq⟩ | ⟨plan, heq⟩ <;> rw [heq] <;>
    exact h.of_eq rfl

theorem Waits.openFuture (index : Nat) (v : Validator) (other : Bool) :
    Waits future run negated (s.openFuture index v other).1 := by
  rcases openFuture_cases s index v other with ⟨e, heq⟩ | ⟨plan, heq⟩ <;> rw [heq] <;>
    exact h.append rfl

/-- A future that waits goes on waiting if it is neither polled nor dropped. -/
theorem Waits.act {deed : Deed} (hpoll : deed ≠ .operation (.poll future))
    (hdrop : deed ≠ .operation (.dropFuture future)) :
    Waits future run negated (s.act deed).1 := by
  cases deed with
  | copy handle => exact h
  | operation op =>
    cases op with
    | poll other => exact h.poll_other fun he => hpoll (he ▸ rfl)
    | dropFuture other =>
      have hne : other ≠ future := fun he => hdrop (he ▸ rfl)
      show (s.futures.set other .gone)[future]? = _
      rw [List.getElem?_set_ne hne]
      exact h
    | checkAsync index onPass onFail =>
      exact h.withValidator fun v => (h.openCall index v onPass onFail).scheduled
    | future index other =>
      apply h.withValidator
      intro v
      have hne : s.futures.length ≠ future := h.lt.ne'
      rw [(startFuture_eq s index v other).1]
      exact (h.openFuture index v other).scheduled.poll_other hne
    | openCall index onPass onFail => exact h.withValidator fun v => h.openCall index v onPass onFail
    | openFuture index other => exact h.withValidator fun v => h.openFuture index v other
    | hasAsync index => exact h.withValidator fun v => h
    | check index | fails index =>
      apply h.withValidator
      intro v
      simp only [Session.check]
      split <;> exact h
    | create input rules messages =>
      simp only [Session.act, step]
      split <;> exact h
    | ask run => exact h.of_eq (futures_ask s run)
    | close run => exact h.of_eq (futures_close s run)
    | complete handle outcome =>
      apply h.of_eq
      simp only [Session.act, step, complete]
      split
      · exact futures_operate s _ _
      · rfl
    | _ => exact h

end Waits

theorem Alike.futureAnswer {s s' : Session} (h : Alike s s') (run : Nat) (negated : Bool) :
    s'.futureAnswer run negated = s.futureAnswer run negated := by
  obtain ⟨futures, rfl⟩ := h
  rfl

theorem Alike.acts {s s' : Session} (h : Alike s s') (deeds : List Deed) :
    Alike (s.acts deeds).1 (s'.acts deeds).1 ∧ (s'.acts deeds).2 = (s.acts deeds).2 := by
  induction deeds generalizing s s' with
  | nil => exact ⟨h, rfl⟩
  | cons deed rest ih =>
    have hfirst : Alike (s.act deed).1 (s'.act deed).1 ∧ (s'.act deed).2 = (s.act deed).2 := by
      cases deed with
      | operation op => exact h.step op
      | copy handle =>
        obtain ⟨futures, rfl⟩ := h
        exact ⟨⟨futures, rfl⟩, rfl⟩
    obtain ⟨hafter, hothers⟩ := ih hfirst.1
    exact ⟨hafter, congrArg₂ (· ++ ·) hfirst.2 hothers⟩

section Start

variable {s : Session} {index : Nat} {v : Validator} (there : s.validators[index]? = some v)
include there

/-- A call with a future answers as the future stands when its run is closed to questions, and the
future stays only if it has to wait. -/
theorem future_begun {plan : Plan} (hplan : v.plan s.context = .ok plan) (negated : Bool) :
    let begun := s.step (.future index negated)
    begun.1.runs.length = s.runs.length + 1 ∧
      begun.2.1 = begun.1.futureAnswer s.runs.length negated ∧
      begun.1.futures[s.futures.length]? =
        some (if begun.2.1 = .pending then .waiting s.runs.length negated else .gone) := by
  intro begun
  let waiting : Session := { s with futures := s.futures ++ [.waiting s.runs.length negated] }
  let opened := waiting.underway index plan .future s.context plan.steps {} []
  let scheduled := (opened.schedule s.runs.length).1
  have hbegun : begun = ((scheduled.poll s.futures.length).1, (scheduled.poll s.futures.length).2,
      .began index (some s.runs.length) :: (opened.schedule s.runs.length).2) :=
    step_future there hplan negated
  have hfutures : scheduled.futures = s.futures ++ [.waiting s.runs.length negated] :=
    futures_schedule opened s.runs.length
  have hwaiting : scheduled.futures[s.futures.length]? =
      some (.waiting s.runs.length negated) := by rw [hfutures, List.getElem?_concat_length]
  have halike : Alike scheduled begun.1 := by
    rw [hbegun]
    exact poll_alike scheduled s.futures.length
  refine ⟨?_, ?_, ?_⟩
  · have hopened : opened.runs.length = s.runs.length + 1 := by
      simp [opened, waiting, underway]
    rw [hbegun, (poll_aside scheduled s.futures.length).2, length_runs_schedule, hopened]
  · rw [halike.futureAnswer, hbegun]
    exact Waits.poll hwaiting
  · rw [hbegun]
    exact Waits.futures_poll hwaiting

omit there in
/-- What a future was made for changes nothing but its answer. -/
theorem future_negated (s : Session) (index : Nat) :
    Agree (s.step (.future index false)) (s.step (.future index true)) ∧
      (s.step (.future index true)).2.1 = (s.step (.future index false)).2.1.negate := by
  have hagree : Agree (s.step (.future index false)) (s.step (.future index true)) :=
    (Alike.refl s).withValidator fun v => (Alike.refl s).startFuture index v false true
  refine ⟨hagree, ?_⟩
  cases there : s.validators[index]? with
  | none => simp [step, withValidator, there, Answer.negate]
  | some v =>
    cases hplan : v.plan s.context with
    | error e =>
      rw [step_future_refused there hplan, step_future_refused there hplan]
      rfl
    | ok plan =>
      obtain ⟨-, hpasses, -⟩ := future_begun there hplan false
      obtain ⟨-, hfails, -⟩ := future_begun there hplan true
      rw [hfails, hpasses, hagree.1.futureAnswer, futureAnswer_negated]

end Start

/-- Once a run is closed to questions, a future of it is ready when every slot has a completion,
abandoned when no handle of the run is held before that, and pending otherwise; a future that is
ready stays so. A negated future answers the contrary or the same error. -/
theorem state_of_future (context : Context) (validators : List Validator) (deeds : List Deed) :
    let s := (acts { context, validators } deeds).1
    let events := (acts { context, validators } deeds).2
    (∀ run, .operated run .arm ∈ events →
      let ops := operations run events
      let isResolved := ∀ slot < (Run.completions ops).length,
        ∃ outcome, Run.firstCompletion ops slot = some outcome
      let isFailing := ∃ slot outcome,
        Run.firstCompletion ops slot = some outcome ∧ outcome.passed = false
      let isHeld := ∃ handle ∈ s.handles, handle.run = run ∧ handle.held = true
      (∀ v, s.futureAnswer run false = .bool v ↔ isResolved ∧ (v = true ↔ ¬ isFailing)) ∧
      (s.futureAnswer run false = .refused .abandoned ↔ ¬ isResolved ∧ ¬ isHeld) ∧
      (s.futureAnswer run false = .pending ↔ ¬ isResolved ∧ isHeld) ∧
      s.futureAnswer run true = (s.futureAnswer run false).negate ∧
      (∀ negated later, s.futureAnswer run negated ≠ .pending →
        (s.acts later).1.futureAnswer run negated = s.futureAnswer run negated) ∧
      ∀ deed, operations run (s.act deed).2 = s.through run deed ∧
        ∃ given, (s.act deed).1.handles = s.released deed ++ given ∧
          ∀ handle ∈ given, handle.held = true ∧ (handle.run = run →
            ∃ original, deed = .copy original ∧ s.handles[original]? = some handle)) ∧
    (∀ future run negated, Waits future run negated s →
      (s.poll future).2 = s.futureAnswer run negated ∧
      ∀ deed, deed ≠ .operation (.poll future) → deed ≠ .operation (.dropFuture future) →
        Waits future run negated (s.act deed).1) ∧
    (∀ index v plan negated, s.validators[index]? = some v → v.plan s.context = .ok plan →
      let begun := s.step (.future index negated)
      .operated s.runs.length .arm ∈ begun.2.2 ∧
      begun.2.1 = begun.1.futureAnswer s.runs.length negated ∧
      begun.1.futures[s.futures.length]? =
        some (if begun.2.1 = .pending then .waiting s.runs.length negated else .gone)) ∧
    ∀ index,
      let passes := s.step (.future index false)
      let fails := s.step (.future index true)
      fails.2.1 = passes.2.1.negate ∧ fails.2.2 = passes.2.2 ∧
      ∀ later, (fails.1.acts later).2 = (passes.1.acts later).2 ∧
        ∀ run, (fails.1.acts later).1.futureAnswer run true =
          ((passes.1.acts later).1.futureAnswer run false).negate := by
  intro s events
  have h : Faithful s events := acts_faithful context validators deeds
  have told (run : Nat) : s.verdictsOf run = verdicts run events :=
    acts_verdictsOf context validators deeds run
  refine ⟨fun run closed => ?_, ?_, ?_, fun index => ?_⟩
  · intro ops isResolved isFailing isHeld
    have harm : .arm ∈ ops := mem_operations.2 closed
    have hresolved : Run.Settled ops ↔ isResolved := by
      rw [Run.settled_iff_firstCompletion]
      exact and_iff_right harm
    have hunfailed : Run.Unfailed ops ↔ ¬ isFailing := by
      rw [Run.unfailed_iff_firstCompletion]
      simp [isFailing]
    have hheld : s.isHeld run = true ↔ isHeld := s.isHeld_iff run
    refine ⟨fun v => ?_, ?_, ?_, futureAnswer_negated s run, ?_, fun deed => ⟨?_, ?_⟩⟩
    · rw [← hresolved, ← hunfailed]
      exact h.futureAnswer_bool_iff (told run) v
    · rw [← hresolved, ← hheld, h.futureAnswer_unready_iff (told run) (by simp)]
      cases s.isHeld run <;> simp [ops]
    · rw [← hresolved, ← hheld, h.futureAnswer_unready_iff (told run) (by simp)]
      cases s.isHeld run <;> simp [ops]
    · intro negated later hready
      exact h.futureAnswer_acts closed (told run) negated hready later
    · exact h.operations_act closed deed
    · exact h.handles_act closed deed
  · intro future run negated hwaits
    exact ⟨hwaits.poll, fun deed hpoll hdrop => hwaits.act hpoll hdrop⟩
  · intro index v plan negated there hplan begun
    obtain ⟨hlength, hanswer, hfuture⟩ := future_begun there hplan negated
    have hcall : (Operation.future index negated).isCall = true := rfl
    exact ⟨h.call_armed hcall le_rfl (by omega), hanswer, hfuture⟩
  · intro passes fails
    obtain ⟨⟨halike, hevents⟩, hanswer⟩ := future_negated s index
    refine ⟨hanswer, hevents, fun later => ?_⟩
    obtain ⟨hlater, hothers⟩ := halike.acts later
    refine ⟨hothers, fun run => ?_⟩
    rw [hlater.futureAnswer, futureAnswer_negated]

/-- A rule keeps its handle, which is copied and then dropped. -/
def copiedHandle : List Deed :=
  [.operation (.register "later" (.async fun _ _ => ⟨[], 1⟩) false "Late."),
    .operation (.create (.object [("a", .string "x")]) (Dict.ofList [("a", .piped "later")]) []),
    .operation (.future 0 false),
    .copy 0,
    .operation (.drop 0)]

/-- The copy is dropped as well. -/
def droppedCopy : List Deed := copiedHandle ++ [.operation (.drop 1)]

/-- The future waits for the copy, and is abandoned for ever when the copy is dropped as well. -/
theorem state_of_future_copied :
    let s := (acts { context := Context.initial } copiedHandle).1
    let dropped := (acts { context := Context.initial } droppedCopy).1
    s.futureAnswer 0 false = .pending ∧
      (∃ handle ∈ s.handles, handle.run = 0 ∧ handle.held = true) ∧
      dropped.futureAnswer 0 false = .refused .abandoned ∧
      ∀ later, (dropped.acts later).1.futureAnswer 0 false = .refused .abandoned := by
  intro s dropped
  have closed : .operated 0 .arm ∈ (acts { context := Context.initial } copiedHandle).2 := by
    decide +kernel
  have closed' : .operated 0 .arm ∈
      (acts { context := Context.initial } droppedCopy).2 := by
    decide +kernel
  have hpending : s.futureAnswer 0 false = .pending := by decide +kernel
  have habandoned : dropped.futureAnswer 0 false = .refused .abandoned := by decide +kernel
  obtain ⟨-, -, hwaits, -⟩ := (state_of_future Context.initial [] copiedHandle).1 0 closed
  obtain ⟨-, -, -, -, hstays, -⟩ :=
    (state_of_future Context.initial [] droppedCopy).1 0 closed'
  refine ⟨hpending, (hwaits.1 hpending).2, habandoned, fun later => ?_⟩
  have hready : dropped.futureAnswer 0 false ≠ .pending := by rw [habandoned]; simp
  exact (hstays false later hready).trans habandoned

end FieldRules.Session
