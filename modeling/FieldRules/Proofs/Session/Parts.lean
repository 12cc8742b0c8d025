import FieldRules.Proofs.Session.Move

namespace FieldRules.Session

/-- The operation starts a run and schedules it before it returns. -/
def Operation.isCall : Operation → Bool
  | .checkAsync _ _ _ | .future _ _ => true
  | _ => false

/-- The operations that ask what a run is still to be asked, and close it. -/
def schedulingParts (s : Session) (run : Nat) : List Operation :=
  let count := match s.runs[run]? with
    | some started => started.pending.length
    | none => 0
  List.replicate count (.ask run) ++ [.close run]

/-- The parts of an operation in a session; only calls have more than one. -/
def parts (s : Session) : Operation → List Operation
  | .checkAsync index onPass onFail =>
    let opening : Operation := .openCall index onPass onFail
    opening :: (s.step opening).1.schedulingParts s.runs.length
  | .future index negated =>
    let opening : Operation := .openFuture index negated
    opening :: ((s.step opening).1.schedulingParts s.runs.length ++ [.poll s.futures.length])
  | op => [op]

/-- Operations with all calls taken apart. -/
def inParts (s : Session) : List Operation → List Operation
  | [] => []
  | op :: rest => s.parts op ++ (s.step op).1.inParts rest

theorem steps_single (s : Session) (op : Operation) :
    s.steps [op] = ((s.step op).1, (s.step op).2.2) :=
  steps_snoc s [] op

theorem steps_cons (s : Session) (op : Operation) (rest : List Operation) :
    s.steps (op :: rest) =
      (((s.step op).1.steps rest).1, (s.step op).2.2 ++ ((s.step op).1.steps rest).2) := rfl

theorem steps_asks (s : Session) (run count : Nat) :
    s.steps (List.replicate count (.ask run)) = s.askAll run count := by
  induction count generalizing s with
  | zero => rfl
  | succ count ih =>
    rw [List.replicate_succ, steps_cons, ih, askAll_succ]
    rfl

theorem steps_schedulingParts (s : Session) (run : Nat) :
    s.steps (s.schedulingParts run) = s.schedule run := by
  unfold schedulingParts
  rw [steps_append, steps_asks, steps_single]
  rfl

/-- Opening, asking, and closing make a call. -/
theorem steps_checkAsync (s : Session) (index : Nat) (onPass onFail : Bool) :
    s.steps (s.parts (.checkAsync index onPass onFail)) =
      ((s.step (.checkAsync index onPass onFail)).1,
        (s.step (.checkAsync index onPass onFail)).2.2) := by
  rw [parts, steps_cons, steps_schedulingParts]
  simp only [step, withValidator]
  cases s.validators[index]? with
  | some v => rfl
  | none =>
    have hnone : s.runs[s.runs.length]? = none := by simp
    simp [schedule_missing hnone]

/-- A future that is gone stays as it is. -/
theorem poll_gone {s : Session} {future : Nat}
    (h : ∀ run negated, s.futures[future]? ≠ some (.waiting run negated)) :
    (s.poll future).1 = s := by
  unfold poll
  split
  · next run negated there => exact absurd there (h run negated)
  · rfl

/-- A future that was made for nothing is not polled, and polling it would change nothing. -/
theorem startFuture_eq (s : Session) (index : Nat) (v : Validator) (negated : Bool) :
    let scheduled := s.scheduled (s.openFuture index v negated)
    (s.startFuture index v negated).1 = (scheduled.1.poll s.futures.length).1 ∧
      (s.startFuture index v negated).2.2 = scheduled.2.2 := by
  intro scheduled
  unfold startFuture
  cases hopened : s.openRun index v .future with
  | error e =>
    have hnone : ({ s with futures := s.futures ++ [.gone] } : Session).runs[s.runs.length]? =
        none := by simp
    have hscheduled : scheduled = ({ s with futures := s.futures ++ [.gone] }, .refused e, []) := by
      simp [scheduled, Session.scheduled, openFuture, hopened, schedule_missing hnone]
    rw [show s.scheduled (s.openFuture index v negated) = _ from hscheduled, hscheduled]
    refine ⟨(poll_gone ?_).symm, rfl⟩
    simp
  | ok opened =>
    obtain ⟨after, events, hscheduled⟩ : ∃ after events, scheduled = (after, .done, events) := by
      simp [scheduled, Session.scheduled, openFuture, hopened]
    rw [show s.scheduled (s.openFuture index v negated) = _ from hscheduled, hscheduled]
    exact ⟨rfl, rfl⟩

theorem steps_future (s : Session) (index : Nat) (negated : Bool) :
    s.steps (s.parts (.future index negated)) =
      ((s.step (.future index negated)).1, (s.step (.future index negated)).2.2) := by
  rw [parts, steps_cons, steps_append, steps_schedulingParts, steps_single]
  simp only [step, withValidator]
  cases s.validators[index]? with
  | some v =>
    obtain ⟨hafter, hevents⟩ := startFuture_eq s index v negated
    simp only [hafter, hevents, List.append_nil]
    rfl
  | none =>
    have hnone : s.runs[s.runs.length]? = none := by simp
    have hgone : (s.poll s.futures.length).1 = s := poll_gone (by simp)
    simp [schedule_missing hnone, hgone]

theorem steps_parts (s : Session) (op : Operation) :
    s.steps (s.parts op) = ((s.step op).1, (s.step op).2.2) := by
  cases op with
  | checkAsync index onPass onFail => exact steps_checkAsync s index onPass onFail
  | future index negated => exact steps_future s index negated
  | _ => exact steps_single s _

/-- Taking calls apart changes nothing. -/
theorem steps_inParts (s : Session) (ops : List Operation) :
    s.steps (s.inParts ops) = s.steps ops := by
  induction ops generalizing s with
  | nil => rfl
  | cons op rest ih => rw [inParts, steps_append, steps_parts, ih, steps_cons]

/-- What a call is taken apart into: it opens a run, asks for the next rule, closes it, or polls. -/
def Operation.isPiece : Operation → Bool
  | .openCall _ _ _ | .openFuture _ _ | .ask _ | .close _ | .poll _ => true
  | _ => false

theorem isPiece_of_mem_schedulingParts {s : Session} {run : Nat} {part : Operation}
    (h : part ∈ s.schedulingParts run) : part.isPiece = true := by
  rcases List.mem_append.1 h with hm | hm
  · rw [List.eq_of_mem_replicate hm]
    rfl
  · rw [List.mem_singleton.1 hm]
    rfl

/-- An operation is its own only part, unless it is a call. -/
theorem mem_parts {s : Session} {op part : Operation} (h : part ∈ s.parts op) :
    part.isPiece = true ∨ part = op ∧ op.isCall = false := by
  cases op with
  | checkAsync index onPass onFail =>
    rcases List.mem_cons.1 h with rfl | hm
    · exact .inl rfl
    · exact .inl (isPiece_of_mem_schedulingParts hm)
  | future index negated =>
    rcases List.mem_cons.1 h with rfl | hm
    · exact .inl rfl
    · rcases List.mem_append.1 hm with hm | hm
      · exact .inl (isPiece_of_mem_schedulingParts hm)
      · rw [List.mem_singleton.1 hm]
        exact .inl rfl
  | _ => exact .inr ⟨List.mem_singleton.1 h, rfl⟩

theorem isCall_of_mem_parts {s : Session} {op part : Operation} (h : part ∈ s.parts op) :
    part.isCall = false := by
  obtain hpiece | ⟨rfl, hcall⟩ := mem_parts h
  · cases part <;> simp_all [Operation.isPiece, Operation.isCall]
  · exact hcall

theorem isCall_of_mem_inParts {s : Session} {ops : List Operation} {part : Operation}
    (h : part ∈ s.inParts ops) : part.isCall = false := by
  induction ops generalizing s with
  | nil => simp [inParts] at h
  | cons op rest ih =>
    rcases List.mem_append.1 h with hm | hm
    · exact isCall_of_mem_parts hm
    · exact ih hm

end FieldRules.Session
