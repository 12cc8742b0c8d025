import FieldRules.Proofs.Measure
import FieldRules.Proofs.Run.Failure
import FieldRules.Proofs.Session.Ledger
import FieldRules.Proofs.Session.Source

namespace FieldRules

/-- A run tells as failed what a slot was added with, perhaps with another template. -/
theorem Run.exists_added {ops : List Operation} {f : Failure}
    (h : .failed f ∈ (steps {} ops).2) :
    ∃ g, .add g ∈ ops ∧ f = { g with message := f.message } := by
  rw [← mem_failuresTold, failuresTold_steps, failures, List.mem_filterMap] at h
  obtain ⟨slot, -, hat⟩ := h
  obtain ⟨g, hadded, rfl⟩ := Option.map_eq_some_iff.1 hat
  refine ⟨g, ?_, rfl⟩
  obtain ⟨operation, hm, hg⟩ := List.mem_filterMap.1 (List.mem_of_getElem? hadded)
  cases operation with
  | add failure =>
    obtain rfl := Option.some.inj hg
    exact hm
  | arm | complete => simp at hg

namespace Session

variable {i : Nat} {run : Option Nat} {f : Failure} {message : String}

theorem exists_word_of_phrase {s : Session} (h : s.phrase i f = some message) :
    ∃ (v : Validator) (now : Context), message = v.word now f := by
  cases there : s.validators[i]? with
  | none => simp [phrase, voice, there] at h
  | some v =>
    rw [phrase_eq there] at h
    exact ⟨v, s.context, (Option.some.inj h).symm⟩

/-- What a move records is the message of some validator for the failure; what a synchronous run
records goes by the kind of its value. -/
theorem Move.recorded {s s' : Session} {events : List Event} (h : Move s s' events)
    (hm : .recorded i run f message ∈ events) :
    (∃ (v : Validator) (now : Context), message = v.word now f) ∧
      (run = none → ∃ v, s.validators[i]? = some v ∧ f.kind = v.kindOf f.field) := by
  have hstrokes {others : List Event} (hs : Strokes s s' others)
      (hm : .recorded i run f message ∈ others) :
      run = none → ∃ v, s.validators[i]? = some v ∧ f.kind = v.kindOf f.field := by
    obtain ⟨r, rfl, -⟩ := hs.recorded hm
    exact nofun
  cases h with
  | aside | reworded | created => simp at hm
  | checked index v there =>
    unfold Session.check at hm
    split at hm
    · next passed scene hcheck =>
      simp only [List.mem_cons, reduceCtorEq, List.mem_map, Event.recorded.injEq, false_or] at hm
      obtain ⟨⟨f', message'⟩, hlog, rfl, rfl, rfl, rfl⟩ := hm
      obtain ⟨hkind, ⟨later, hmessage⟩, -⟩ := Validator.kind_of_mem_log hcheck hlog
      exact ⟨⟨v, later, hmessage⟩, fun _ => ⟨v, there, hkind⟩⟩
    · simp at hm
  | opened index v listener _ _ there accepted => exact absurd hm (recorded_notMem_openRun accepted)
  | asked r => exact ⟨exists_word_of_phrase (recorded_ask s r hm), hstrokes (ask_strokes s r) hm⟩
  | closed r =>
    exact ⟨exists_word_of_phrase (recorded_close s r hm), hstrokes (close_strokes s r) hm⟩
  | completed r slot outcome =>
    exact ⟨exists_word_of_phrase ((operate_voiced s r _ _).phrase hm),
      hstrokes (Stroke.operated r _).strokes hm⟩

/-- The messages so far are of validators, and those of synchronous runs go by the kinds of their
values. -/
def Worded (s : Session) (events : List Event) : Prop :=
  ∀ i run f message, .recorded i run f message ∈ events →
    (∃ (v : Validator) (now : Context), message = v.word now f) ∧
      (run = none → ∃ v, s.validators[i]? = some v ∧ f.kind = v.kindOf f.field)

theorem Worded.move {s s' : Session} {events others : List Event} (hmove : Move s s' others)
    (h : Worded s events) : Worded s' (events ++ others) := by
  intro i run f message hm
  have hbefore : (∃ (v : Validator) (now : Context), message = v.word now f) ∧
      (run = none → ∃ v, s.validators[i]? = some v ∧ f.kind = v.kindOf f.field) :=
    (List.mem_append.1 hm).elim (h i run f message) hmove.recorded
  refine ⟨hbefore.1, fun hrun => ?_⟩
  obtain ⟨v, there, hkind⟩ := hbefore.2 hrun
  obtain ⟨v', there', hinput, hrules⟩ := hmove.keeps i v there
  exact ⟨v', there', by rw [hkind, Validator.kindOf, Validator.kindOf, hinput, hrules]⟩

theorem steps_worded (context : Context) (validators : List Validator) (ops : List Operation) :
    Worded (steps { context, validators } ops).1 (steps { context, validators } ops).2 := by
  have hinitial : Worded { context, validators } [] := by simp [Worded]
  have hmoves := steps_moves { context, validators } ops
  simpa using hmoves.keep (fun _ _ _ _ hmove h => h.move hmove) hinitial

/-- Whatever is recorded goes by the kind of the value of its field, and is worded by that kind. -/
theorem kind_of_recorded (context : Context) (validators : List Validator) (ops : List Operation)
    (h : .recorded i run f message ∈ (steps { context, validators } ops).2) :
    (∃ v, (steps { context, validators } ops).1.validators[i]? = some v ∧
      f.kind = v.kindOf f.field) ∧
      ∃ (v : Validator) (now : Context), message = v.word now f := by
  obtain ⟨hword, hnone⟩ := steps_worded context validators ops i run f message h
  refine ⟨?_, hword⟩
  cases run with
  | none => exact hnone rfl
  | some run =>
    have hledger := steps_ledger context validators ops
    have hreport : .failed f ∈
        (Run.steps {} (operations run (steps { context, validators } ops).2)).2 := by
      rw [hledger.faithful.alone.steps run]
      exact List.mem_filterMap.2 ⟨_, h, by simp [Event.report?]⟩
    obtain ⟨g, hadd, hf⟩ := Run.exists_added hreport
    obtain ⟨host, v, hhost, there, hg⟩ :=
      (steps_sourced context validators ops).slots run g (mem_operations.1 hadd)
    obtain rfl : i = host := Option.some.inj ((hledger.hosted i run f message h).symm.trans hhost)
    refine ⟨v, there, ?_⟩
    rw [hf, hg]
    rfl

end Session

end FieldRules
