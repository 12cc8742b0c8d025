import FieldRules.Proofs.Session.Faithful
import FieldRules.Proofs.Session.Parts

namespace FieldRules

namespace Session

/-- The validators without what is in their bags. -/
def bare (s : Session) : List Validator := s.validators.map Validator.clear

/-- What goes into the messages of a validator: its wording, and the phrasebook. -/
def voice (s : Session) (index : Nat) : Option Wording × Phrasebook :=
  (s.validators[index]?.map (·.wording), s.context.phrasebook)

/-- The message of a validator for a failure, as things are. -/
def phrase (s : Session) (index : Nat) (f : Failure) : Option String :=
  (s.voice index).1.map fun wording =>
    wording.render (s.voice index).2 f.directive f.field f.kind f.message

theorem phrase_eq {s : Session} {index : Nat} {v : Validator} (there : s.validators[index]? = some v)
    (f : Failure) : s.phrase index f = some (v.word s.context f) := by
  simp [phrase, voice, there, Validator.word]

theorem voice_of_bare {s s' : Session} (hbare : s'.bare = s.bare)
    (hbook : s'.context.phrasebook = s.context.phrasebook) (index : Nat) :
    s'.voice index = s.voice index := by
  have hwording : s'.validators[index]?.map (·.wording) = s.validators[index]?.map (·.wording) := by
    have hat := congrArg (fun l => l[index]?.map Validator.wording) hbare
    simpa [bare, Function.comp_def, Validator.clear] using hat
  rw [voice, voice, hwording, hbook]

theorem unoperated_bare : Unoperated bare := .of_validators fun _ _ _ => rfl

theorem unoperated_voice (i : Nat) : Unoperated fun s => s.voice i where
  message s index field message := voice_of_bare (unoperated_bare.message s index field message) rfl i
  verdict _ _ _ := rfl
  run _ _ _ := rfl

/-- The voice of a validator stays, and all messages for it are made with that. -/
def Voiced (i : Nat) (s s' : Session) (events : List Event) : Prop :=
  s'.voice i = s.voice i ∧
    ∀ run f message, .recorded i run f message ∈ events → s.phrase i f = some message

theorem Voiced.none {i : Nat} (s : Session) : Voiced i s s [] := ⟨rfl, by simp⟩

theorem Voiced.trans {i : Nat} {s s' s'' : Session} {events others : List Event}
    (h : Voiced i s s' events) (h' : Voiced i s' s'' others) :
    Voiced i s s'' (events ++ others) := by
  obtain ⟨hvoice, hmade⟩ := h
  obtain ⟨hvoice', hmade'⟩ := h'
  refine ⟨hvoice'.trans hvoice, fun run f message hm => ?_⟩
  rcases List.mem_append.1 hm with hm | hm
  · exact hmade run f message hm
  · have hphrase := hmade' run f message hm
    rwa [phrase, hvoice, ← phrase] at hphrase

/-- A message is made by what is there after it too. -/
theorem Voiced.phrase {i : Nat} {s s' : Session} {events : List Event} (h : Voiced i s s' events)
    {run : Option Nat} {f : Failure} {message : String}
    (hm : .recorded i run f message ∈ events) : s'.phrase i f = some message := by
  rw [Session.phrase, h.1]
  exact h.2 run f message hm

section Operate

variable (s : Session) (index : Nat)

theorem hear_voiced (started : StartedRun) (report : Run.Report) (i : Nat) :
    Voiced i s (s.hear index started report).1 (s.hear index started report).2 := by
  refine ⟨(unoperated_voice i).hear s index started report, fun run f message hm => ?_⟩
  obtain ⟨-, -, -, v, there, rfl⟩ := recorded_mem_hear s index started hm
  exact phrase_eq there f

theorem operate_voiced (operation : Run.Operation) (i : Nat) :
    Voiced i s (s.operate index operation).1 (s.operate index operation).2 := by
  cases hs : s.runs[index]? with
  | none =>
    rw [operate_missing s index operation hs]
    exact .none s
  | some started =>
    let struck := s.strike index operation started
    let heard := struck.hearAll index started (started.run.step operation).2
    have hheard : Voiced i struck heard.1 heard.2 :=
      inTurn_rel Voiced.none Voiced.trans fun s report _ => hear_voiced s index started report i
    have hstruck : Voiced i s struck [.operated index operation] :=
      ⟨rfl, by simp⟩
    rw [operate_eq s index operation hs]
    exact hstruck.trans hheard

theorem completeAll_voiced (slot : Nat) (outcomes : List Outcome) (i : Nat) :
    Voiced i s (s.completeAll index slot outcomes).1 (s.completeAll index slot outcomes).2 :=
  inTurn_rel Voiced.none Voiced.trans fun s outcome _ =>
    operate_voiced s index (.complete slot outcome) i

variable {i : Nat} {run : Option Nat} {f : Failure} {message : String}

theorem recorded_judged {slot : Nat} {v : Validator} {plan : Plan} {step : Step} {judge : Judge}
    (h : .recorded i run f message ∈ (question.judged index slot v plan step s judge).2) :
    (question.judged index slot v plan step s judge).1.phrase i f = some message := by
  unfold question.judged at h ⊢
  generalize s.context.consult judge (plan.subject v.input step) = answer at h ⊢
  have hdone := operate_voiced { s with context := answer.2 } index
    (.complete slot (.ofBool answer.1)) i
  exact hdone.phrase ((List.mem_cons.1 h).resolve_left (by simp))

theorem recorded_question {slot : Nat} {v : Validator} {plan : Plan} {step : Step}
    (h : .recorded i run f message ∈ (s.question index slot v plan step).2) :
    (s.question index slot v plan step).1.phrase i f = some message := by
  unfold question at h ⊢
  split at h
  · exact (completeAll_voiced _ index slot _ i).phrase ((List.mem_cons.1 h).resolve_left (by simp))
  · exact recorded_judged s index h
  · exact recorded_judged s index h

/-- A rule may change the phrasebook when it is asked, but only before its answer is told. -/
theorem recorded_ask (h : .recorded i run f message ∈ (s.ask index).2) :
    (s.ask index).1.phrase i f = some message := by
  rcases ask_cases s index with ⟨heq, -⟩ | ⟨started, step, rest, v, context, hs, -, -, hcase⟩
  · simp [heq] at h
  · rcases hcase with ⟨-, heq⟩ | ⟨-, heq⟩
    · simp [heq] at h
    · obtain ⟨started', there⟩ := exists_run_advance s index rest context hs
      rw [heq, operate_add there] at h
      rw [heq, operate_add there]
      exact recorded_question _ index ((List.mem_cons.1 h).resolve_left (by simp))

theorem recorded_close (h : .recorded i run f message ∈ (s.close index).2) :
    (s.close index).1.phrase i f = some message := by
  rcases close_cases s index with heq | heq
  · simp [heq] at h
  · rw [heq] at h ⊢
    exact (operate_voiced s index .arm i).phrase h

end Operate

/-- A check is a run of its own. -/
theorem recorded_check {s : Session} {index : Nat} {v : Validator} {i : Nat} {run : Option Nat}
    {f : Failure} {message : String} (h : .recorded i run f message ∈ (s.check index v).2.2) :
    .began i none ∈ (s.check index v).2.2 := by
  unfold Session.check at h ⊢
  split at h
  · simp only [List.mem_cons, reduceCtorEq, List.mem_map, Event.recorded.injEq, false_or] at h
    obtain ⟨entry, -, rfl, -⟩ := h
    exact List.mem_cons_self
  · simp at h

theorem recorded_withValidator {s : Session} {index : Nat}
    {act : Validator → Session × Answer × List Event} {i : Nat} {run : Option Nat} {f : Failure}
    {message : String}
    (h : .recorded i run f message ∈ (s.withValidator index act).2.2) :
    ∃ v, s.withValidator index act = act v := by
  unfold withValidator at h ⊢
  split at h
  · next v _ => exact ⟨v, rfl⟩
  · simp at h

/-- Opening a run makes no message. -/
theorem recorded_notMem_openRun {s opened : Session} {index : Nat} {v : Validator}
    {listener : Listener} {events : List Event}
    (h : s.openRun index v listener = .ok (opened, events)) {i : Nat} {run : Option Nat}
    {f : Failure} {message : String} : .recorded i run f message ∉ events := by
  obtain ⟨plan, -, rfl, -⟩ := openRun_ok h
  simp

/-- An operation that is no call and no check makes its messages by what is there after it. -/
theorem recorded_step {s : Session} {op : Operation} (hpart : op.isCall = false) {i : Nat}
    (hcheck : .began i none ∉ (s.step op).2.2) {run : Option Nat} {f : Failure} {message : String}
    (h : .recorded i run f message ∈ (s.step op).2.2) :
    (s.step op).1.phrase i f = some message := by
  cases op with
  | check index | fails index =>
    obtain ⟨v, heq⟩ := recorded_withValidator h
    simp only [step, heq] at h hcheck
    exact absurd (recorded_check h) hcheck
  | ask run => exact recorded_ask s run h
  | close run => exact recorded_close s run h
  | complete handle outcome =>
    simp only [step, complete] at h ⊢
    split at h
    · exact (operate_voiced s _ _ i).phrase h
    · simp at h
  | hasAsync index =>
    obtain ⟨v, heq⟩ := recorded_withValidator h
    simp [step, heq] at h
  | openCall index onPass onFail =>
    obtain ⟨v, heq⟩ := recorded_withValidator h
    rw [step, heq, openCall] at h
    split at h
    · next accepted => exact absurd h (recorded_notMem_openRun accepted)
    · simp at h
  | openFuture index negated =>
    obtain ⟨v, heq⟩ := recorded_withValidator h
    rw [step, heq, openFuture] at h
    split at h
    · next accepted => exact absurd h (recorded_notMem_openRun accepted)
    · simp at h
  | checkAsync | future => simp [Operation.isCall] at hpart
  | create input rules messages =>
    simp only [step] at h
    split at h <;> simp at h
  | _ => simp [step] at h

/-- While the voice of a validator is steady, all its messages are made with it. -/
theorem recorded_steps {s : Session} {ops : List Operation}
    (hparts : ∀ op ∈ ops, op.isCall = false) {i : Nat}
    (hsteady : ∀ first, first <+: ops → (s.steps first).1.voice i = s.voice i)
    (hcheck : .began i none ∉ (s.steps ops).2) {run : Option Nat} {f : Failure} {message : String}
    (h : .recorded i run f message ∈ (s.steps ops).2) : s.phrase i f = some message := by
  induction ops using List.reverseRecOn with
  | nil => simp [steps] at h
  | append_singleton ops op ih =>
    have hvoice := hsteady (ops ++ [op]) List.prefix_rfl
    rw [steps_snoc] at h hcheck hvoice
    rw [List.mem_append, not_or] at hcheck
    rcases List.mem_append.1 h with h | h
    · refine ih (fun other hm => hparts other (List.mem_append_left _ hm)) ?_ hcheck.1 h
      intro first hfirst
      exact hsteady first (hfirst.trans (List.prefix_append ops [op]))
    · have hlast := recorded_step (hparts op (by simp)) hcheck.2 h
      rwa [phrase, hvoice, ← phrase] at hlast

end Session

end FieldRules
