import FieldRules.Engine.Session
import FieldRules.Proofs.Run.History

namespace FieldRules

namespace Event

/-- What was done with a run. -/
def operation? (run : Nat) : Event → Option Run.Operation
  | operated r operation => if r = run then some operation else none
  | _ => none

/-- What a run told. -/
def report? (run : Nat) : Event → Option Run.Report
  | recorded _ (some r) failure _ => if r = run then some (.failed failure) else none
  | verdict r passed => if r = run then some (.verdict passed) else none
  | _ => none

/-- Whether the event comes from what a run told. -/
def isReport : Event → Bool
  | recorded _ _ _ _ | verdict _ _ | finished _ _ => true
  | _ => false

theorem operation?_of_isReport {e : Event} (h : e.isReport = true) (run : Nat) :
    e.operation? run = none := by
  cases e <;> simp_all [isReport, operation?]

end Event

namespace Session

/-- All that was done with a run, in order. -/
def operations (run : Nat) (events : List Event) : List Run.Operation :=
  events.filterMap (Event.operation? run)

/-- All that a run told, in order. -/
def reports (run : Nat) (events : List Event) : List Run.Report :=
  events.filterMap (Event.report? run)

@[simp]
theorem operations_nil (run : Nat) : operations run [] = [] := rfl

@[simp]
theorem operations_cons (run : Nat) (e : Event) (events : List Event) :
    operations run (e :: events) = (e.operation? run).toList ++ operations run events := by
  cases h : e.operation? run <;> simp [operations, h]

@[simp]
theorem operations_append (run : Nat) (first others : List Event) :
    operations run (first ++ others) = operations run first ++ operations run others :=
  List.filterMap_append

@[simp]
theorem reports_append (run : Nat) (first others : List Event) :
    reports run (first ++ others) = reports run first ++ reports run others :=
  List.filterMap_append

theorem operations_eq_nil {events : List Event} (h : ∀ e ∈ events, e.isReport = true)
    (run : Nat) : operations run events = [] :=
  List.filterMap_eq_nil_iff.2 fun e he => Event.operation?_of_isReport (h e he) run

/-- A run by its number; before it is opened it is as at first. -/
def runOf (s : Session) (run : Nat) : Run :=
  match s.runs[run]? with
  | some started => started.run
  | none => {}

/-- The validator of every run, and the steps that are left. -/
def outlines (s : Session) : List (Nat × List Step) :=
  s.runs.map fun started => (started.validator, started.pending)

/-- The validator of every run. -/
def hosts (s : Session) : List Nat := s.outlines.map Prod.fst

/-- The rules of every validator. -/
def specs (s : Session) : List RuleSet := s.validators.map (·.rules)

@[simp]
theorem length_outlines (s : Session) : s.outlines.length = s.runs.length := by simp [outlines]

@[simp]
theorem length_hosts (s : Session) : s.hosts.length = s.runs.length := by simp [hosts]

@[simp]
theorem length_specs (s : Session) : s.specs.length = s.validators.length := by simp [specs]

theorem getElem?_outlines (s : Session) (run : Nat) :
    s.outlines[run]? = s.runs[run]?.map fun started => (started.validator, started.pending) := by
  simp [outlines]

theorem getElem?_hosts (s : Session) (run : Nat) :
    s.hosts[run]? = s.runs[run]?.map (·.validator) := by
  rw [hosts, List.getElem?_map, getElem?_outlines, Option.map_map]
  rfl

theorem runOf_congr {s s' : Session} (h : s'.runs = s.runs) : s'.runOf = s.runOf := by
  funext run
  simp [runOf, h]

section Views

variable {α β γ : Type}

theorem map_modify_of_unchanged {f : α → α} {g : α → β} (h : ∀ a, g (f a) = g a) (l : List α)
    (index : Nat) : (l.modify index f).map g = l.map g := by
  apply List.ext_getElem?
  intro i
  simp only [List.getElem?_map, List.getElem?_modify]
  cases l[i]? with
  | none => rfl
  | some a => by_cases hi : index = i <;> simp [hi, h]

/-- A view of sessions that does not show what is heard of a run: the messages in the bags and the
verdicts that the listeners were told. -/
structure Unheard (view : Session → γ) : Prop where
  message : ∀ s index field message,
    view (s.modifyValidator index (·.addMessage field message)) = view s
  verdict : ∀ s index passed,
    view (s.modifyRun index fun r => { r with verdicts := r.verdicts ++ [passed] }) = view s

/-- A view of sessions that does not show how far the runs are either. -/
structure Unoperated (view : Session → γ) : Prop extends Unheard view where
  run : ∀ s index run, view (s.modifyRun index fun r => { r with run }) = view s

theorem Unheard.hear {view : Session → γ} (h : Unheard view) (s : Session) (index : Nat)
    (started : StartedRun) (report : Run.Report) :
    view (s.hear index started report).1 = view s := by
  cases report with
  | failed f =>
    simp only [Session.hear]
    split
    · exact h.message s _ _ _
    · rfl
  | verdict passed => exact h.verdict s index passed

theorem Unheard.hearAll {view : Session → γ} (h : Unheard view) (s : Session) (index : Nat)
    (started : StartedRun) (told : List Run.Report) :
    view (s.hearAll index started told).1 = view s :=
  inTurn_unchanged fun s report _ => h.hear s index started report

/-- What is seen of every run alone, and not its progress, stays. -/
theorem Unoperated.of_runs {g : StartedRun → β}
    (verdict : ∀ r verdicts, g { r with verdicts } = g r) (run : ∀ r run, g { r with run } = g r) :
    Unoperated fun s => s.runs.map g where
  message _ _ _ _ := rfl
  verdict s index _ := map_modify_of_unchanged (fun r => verdict r _) s.runs index
  run s index other := map_modify_of_unchanged (fun r => run r other) s.runs index

/-- What is seen of every validator alone, and not its bag, stays. -/
theorem Unoperated.of_validators {g : Validator → β}
    (message : ∀ v field message, g (v.addMessage field message) = g v) :
    Unoperated fun s => s.validators.map g where
  message s index field text :=
    map_modify_of_unchanged (fun v => message v field text) s.validators index
  verdict _ _ _ := rfl
  run _ _ _ := rfl

end Views

theorem runOf_eq (s : Session) (run : Nat) :
    s.runOf run = ((s.runs.map (·.run))[run]?).getD {} := by
  rw [runOf, List.getElem?_map]
  cases s.runs[run]? <;> rfl

theorem runOf_modifyRun (s : Session) (index : Nat) (f : StartedRun → StartedRun)
    (hf : ∀ started, (f started).run = started.run) (run : Nat) :
    (s.modifyRun index f).runOf run = s.runOf run := by
  rw [runOf_eq, modifyRun, map_modify_of_unchanged hf, runOf_eq]

theorem unheard_runOf (run : Nat) : Unheard fun s => s.runOf run where
  message _ _ _ _ := rfl
  verdict s index _ := by
    apply runOf_modifyRun
    intro r
    rfl

theorem unoperated_outlines : Unoperated outlines := .of_runs (fun _ _ => rfl) fun _ _ => rfl

theorem unoperated_specs : Unoperated specs := .of_validators fun _ _ _ => rfl

theorem unoperated_context : Unoperated context where
  message _ _ _ _ := rfl
  verdict _ _ _ := rfl
  run _ _ _ := rfl

theorem unoperated_handles : Unoperated handles where
  message _ _ _ _ := rfl
  verdict _ _ _ := rfl
  run _ _ _ := rfl

section Hear

variable (s : Session) (index : Nat) (started : StartedRun)

/-- A message is recorded of a failure that is told, for the validator of the run and in its
words. -/
theorem recorded_mem_hear {report : Run.Report} {i : Nat} {run : Option Nat} {f : Failure}
    {message : String} (h : .recorded i run f message ∈ (s.hear index started report).2) :
    report = .failed f ∧ i = started.validator ∧ run = some index ∧
      ∃ v, s.validators[i]? = some v ∧ message = v.word s.context f := by
  cases report with
  | failed g =>
    simp only [hear] at h
    split at h
    · next v there =>
      simp only [List.mem_singleton, Event.recorded.injEq] at h
      obtain ⟨rfl, rfl, rfl, rfl⟩ := h
      exact ⟨rfl, rfl, rfl, v, there, rfl⟩
    · simp at h
  | verdict passed =>
    have htold : .recorded i run f message ∈ announce started.listener passed := by
      simpa [hear] using h
    unfold announce at htold
    split at htold
    · split at htold <;> simp at htold
    · simp at htold

theorem recorded_mem_hearAll {told : List Run.Report} {i : Nat} {run : Option Nat} {f : Failure}
    {message : String} (h : .recorded i run f message ∈ (s.hearAll index started told).2) :
    .failed f ∈ told ∧ i = started.validator ∧ run = some index := by
  have hall : ∀ e ∈ (s.hearAll index started told).2, e = .recorded i run f message →
      .failed f ∈ told ∧ i = started.validator ∧ run = some index := by
    apply forall_mem_inTurn
    intro s report hm e he heq
    obtain ⟨rfl, hi, hrun, -⟩ := recorded_mem_hear s index started (heq ▸ he)
    exact ⟨hm, hi, hrun⟩
  exact hall _ h rfl

theorem isReport_hear (report : Run.Report) :
    ∀ e ∈ (s.hear index started report).2, e.isReport = true := by
  unfold hear announce
  intro e he
  split at he
  · split at he <;> simp_all [Event.isReport]
  · cases hl : started.listener <;> grind [Event.isReport]

theorem reports_announce (listener : Listener) (passed : Bool) (run : Nat) :
    reports run (announce listener passed) = [] := by
  cases listener with
  | callbacks call onPass onFail =>
    by_cases h : (if passed then onPass else onFail) = true <;>
      simp [announce, h, reports, Event.report?]
  | future => rfl

theorem reports_hear (report : Run.Report) (h : started.validator < s.validators.length)
    (run : Nat) :
    reports run (s.hear index started report).2 = if index = run then [report] else [] := by
  have hv : s.validators[started.validator]? = some s.validators[started.validator] :=
    List.getElem?_eq_getElem h
  cases report with
  | failed f => by_cases hr : index = run <;> simp [hear, hv, reports, Event.report?, hr]
  | verdict passed =>
    have hquiet := reports_announce started.listener passed run
    simp only [hear, reports, List.filterMap_cons, Event.report?] at hquiet ⊢
    by_cases hr : index = run <;> simp [hr, hquiet]

theorem isReport_hearAll (told : List Run.Report) :
    ∀ e ∈ (s.hearAll index started told).2, e.isReport = true :=
  forall_mem_inTurn fun s report _ => isReport_hear s index started report

theorem reports_hearAll (told : List Run.Report) (h : started.validator < s.validators.length)
    (run : Nat) :
    reports run (s.hearAll index started told).2 = if index = run then told else [] := by
  induction told generalizing s with
  | nil => simp [hearAll, reports]
  | cons report rest ih =>
    have hlen : started.validator < (s.hear index started report).1.validators.length := by
      rwa [← length_specs, unoperated_specs.hear, length_specs]
    have hrest := ih (s.hear index started report).1 hlen
    rw [hearAll] at hrest ⊢
    rw [inTurn_cons, reports_append, reports_hear s index started report h run, hrest]
    by_cases hr : index = run <;> simp [hr]

end Hear

section Operate

variable (s : Session) (index : Nat) (operation : Run.Operation)

/-- The session with a run changed by an operation, before its reports are heard. -/
def strike (started : StartedRun) : Session :=
  s.modifyRun index fun r => { r with run := (started.run.step operation).1 }

theorem operate_eq {started : StartedRun} (hs : s.runs[index]? = some started) :
    s.operate index operation =
      (((s.strike index operation started).hearAll index started (started.run.step operation).2).1,
        .operated index operation ::
          ((s.strike index operation started).hearAll index started
            (started.run.step operation).2).2) := by
  simp only [operate, hs, strike]

theorem operate_missing (hs : s.runs[index]? = none) : s.operate index operation = (s, []) := by
  simp only [operate, hs]

theorem runOf_strike {started : StartedRun} (hs : s.runs[index]? = some started) (run : Nat) :
    (s.strike index operation started).runOf run =
      if index = run then ((s.runOf run).step operation).1 else s.runOf run := by
  simp only [strike, runOf, modifyRun, List.getElem?_modify]
  by_cases hr : index = run
  · subst hr
    rw [hs]
    simp
  · cases s.runs[run]? <;> simp [hr]

theorem Unoperated.strike {α : Type} {view : Session → α} (h : Unoperated view)
    (started : StartedRun) : view (s.strike index operation started) = view s :=
  h.run s index _

theorem Unoperated.operate {α : Type} {view : Session → α} (h : Unoperated view) :
    view (s.operate index operation).1 = view s := by
  cases hs : s.runs[index]? with
  | none => rw [operate_missing s index operation hs]
  | some started =>
    rw [operate_eq s index operation hs, h.hearAll, h.strike]

theorem Unoperated.completeAll {α : Type} {view : Session → α} (h : Unoperated view) (slot : Nat)
    (outcomes : List Outcome) : view (s.completeAll index slot outcomes).1 = view s :=
  inTurn_unchanged fun s outcome _ => h.operate s index (.complete slot outcome)

theorem runOf_operate (run : Nat) :
    (s.operate index operation).1.runOf run =
      if index = run ∧ index < s.runs.length then ((s.runOf run).step operation).1
      else s.runOf run := by
  cases hs : s.runs[index]? with
  | none =>
    have hge : s.runs.length ≤ index := List.getElem?_eq_none_iff.1 hs
    rw [operate_missing s index operation hs]
    simp [Nat.not_lt.2 hge]
  | some started =>
    have hlt : index < s.runs.length := (List.getElem?_eq_some_iff.1 hs).1
    rw [operate_eq s index operation hs, (unheard_runOf run).hearAll,
      runOf_strike s index operation hs]
    simp only [hlt, and_true]

theorem outlines_operate : (s.operate index operation).1.outlines = s.outlines :=
  unoperated_outlines.operate s index operation

theorem specs_operate : (s.operate index operation).1.specs = s.specs :=
  unoperated_specs.operate s index operation

theorem context_operate : (s.operate index operation).1.context = s.context :=
  unoperated_context.operate s index operation

theorem handles_operate : (s.operate index operation).1.handles = s.handles :=
  unoperated_handles.operate s index operation

theorem operate_events :
    (s.operate index operation).2 = [] ∨
      ∃ told, (s.operate index operation).2 = .operated index operation :: told ∧
        ∀ e ∈ told, e.isReport = true := by
  cases hs : s.runs[index]? with
  | none => exact .inl (by rw [operate_missing s index operation hs])
  | some started =>
    rw [operate_eq s index operation hs]
    exact .inr ⟨_, rfl, isReport_hearAll _ index _ _⟩

theorem operations_operate (run : Nat) :
    operations run (s.operate index operation).2 =
      if index = run ∧ index < s.runs.length then [operation] else [] := by
  cases hs : s.runs[index]? with
  | none =>
    have hge : s.runs.length ≤ index := List.getElem?_eq_none_iff.1 hs
    rw [operate_missing s index operation hs]
    simp [Nat.not_lt.2 hge, operations]
  | some started =>
    have hlt : index < s.runs.length := (List.getElem?_eq_some_iff.1 hs).1
    have hquiet := operations_eq_nil (isReport_hearAll (s.strike index operation started) index
      started (started.run.step operation).2) run
    rw [operate_eq s index operation hs]
    simp only [hlt, and_true, operations, List.filterMap_cons, Event.operation?] at hquiet ⊢
    rw [hquiet]
    by_cases hr : index = run <;> simp [hr]

theorem reports_operate (h : ∀ i ∈ s.hosts, i < s.specs.length) (run : Nat) :
    reports run (s.operate index operation).2 =
      if index = run ∧ index < s.runs.length then ((s.runOf run).step operation).2 else [] := by
  cases hs : s.runs[index]? with
  | none =>
    have hge : s.runs.length ≤ index := List.getElem?_eq_none_iff.1 hs
    rw [operate_missing s index operation hs]
    simp [Nat.not_lt.2 hge, reports]
  | some started =>
    have hlt : index < s.runs.length := (List.getElem?_eq_some_iff.1 hs).1
    have hv : started.validator < s.validators.length := by
      have hhost : s.hosts[index]? = some started.validator := by
        rw [getElem?_hosts, hs]
        rfl
      simpa using h _ (List.mem_of_getElem? hhost)
    have htold := reports_hearAll (s.strike index operation started) index started
      (started.run.step operation).2 hv run
    rw [operate_eq s index operation hs]
    simp only [hlt, and_true, reports, List.filterMap_cons, Event.report?] at htold ⊢
    rw [htold]
    by_cases hr : index = run
    · subst hr
      simp only [runOf, hs, if_true]
    · simp only [hr, if_false]

end Operate

end Session

end FieldRules
