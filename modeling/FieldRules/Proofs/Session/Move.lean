import FieldRules.Engine.Session
import Mathlib.Data.List.Induction

namespace FieldRules.Session

/-- A move from a session to the next, with what happens. -/
inductive Move (s : Session) : Session → List Event → Prop where
  /-- The validators and the runs stay as they are. -/
  | aside (s' : Session) (validators : s'.validators = s.validators) (runs : s'.runs = s.runs) :
      Move s s' []
  | reworded (index : Nat) (f : Wording → Wording) : Move s (s.modifyWording index f) []
  | created (v : Validator) (empty : v.bag = MessageBag.empty) :
      Move s { s with validators := s.validators ++ [v] } []
  | checked (index : Nat) (v : Validator) (there : s.validators[index]? = some v) :
      Move s (s.check index v).1 (s.check index v).2.2
  | opened (index : Nat) (v : Validator) (listener : Listener) (s' : Session) (events : List Event)
      (there : s.validators[index]? = some v)
      (accepted : s.openRun index v listener = .ok (s', events)) : Move s s' events
  | asked (run : Nat) : Move s (s.ask run).1 (s.ask run).2
  | closed (run : Nat) : Move s (s.close run).1 (s.close run).2
  | completed (run slot : Nat) (outcome : Outcome) :
      Move s (s.operate run (.complete slot outcome)).1 (s.operate run (.complete slot outcome)).2

/-- Steps one after the other, with all that happens. -/
inductive Trail (R : Session → Session → List Event → Prop) (s : Session) :
    Session → List Event → Prop where
  | none : Trail R s s []
  | snoc {s' s'' : Session} {events others : List Event} (earlier : Trail R s s' events)
      (last : R s' s'' others) : Trail R s s'' (events ++ others)

namespace Trail

variable {R : Session → Session → List Event → Prop} {s s' s'' : Session}
  {events others history : List Event}

theorem single (h : R s s' events) : Trail R s s' events := by
  simpa using Trail.none.snoc h

theorem trans (h : Trail R s s' events) (h' : Trail R s' s'' others) :
    Trail R s s'' (events ++ others) := by
  induction h' with
  | none => simpa using h
  | snoc _ last ih =>
    rw [← List.append_assoc]
    exact ih.snoc last

theorem inTurn {ι : Type} {act : Session → ι → Session × List Event} {inputs : List ι}
    (single : ∀ s, ∀ input ∈ inputs, Trail R s (act s input).1 (act s input).2) :
    Trail R s (inTurn act s inputs).1 (inTurn act s inputs).2 :=
  inTurn_rel (fun _ => .none) trans single

/-- What every step keeps is kept. -/
theorem keep {P : Session → List Event → Prop}
    (hstep : ∀ s s' history events, R s s' events → P s history → P s' (history ++ events))
    (h : Trail R s s' events) (hp : P s history) : P s' (history ++ events) := by
  induction h with
  | none => simpa using hp
  | snoc _ last ih =>
    rw [← List.append_assoc]
    exact hstep _ _ _ _ last ih

end Trail

abbrev Moves : Session → Session → List Event → Prop := Trail Move

theorem Move.moves {s s' : Session} {events : List Event} (h : Move s s' events) :
    Moves s s' events := Trail.single h

/-- Moves before a last move that is silent and keeps validators and runs. -/
theorem Moves.aside {s s' : Session} {events : List Event} (h : Moves s s' events) (s'' : Session)
    (validators : s''.validators = s'.validators) (runs : s''.runs = s'.runs) :
    Moves s s'' events := by
  simpa using h.snoc (Move.aside s'' validators runs)

theorem moves_aside (s s' : Session) (validators : s'.validators = s.validators)
    (runs : s'.runs = s.runs) : Moves s s' [] := (Move.aside s' validators runs).moves

theorem askAll_succ (s : Session) (run count : Nat) :
    s.askAll run (count + 1) =
      (((s.ask run).1.askAll run count).1,
        (s.ask run).2 ++ ((s.ask run).1.askAll run count).2) := rfl

theorem askAll_moves (s : Session) (run count : Nat) :
    Moves s (s.askAll run count).1 (s.askAll run count).2 :=
  .inTurn fun _ run _ => (Move.asked run).moves

theorem schedule_moves (s : Session) (run : Nat) :
    Moves s (s.schedule run).1 (s.schedule run).2 :=
  (askAll_moves s run _).snoc (Move.closed run)

/-- Where there is no run, there is nothing to schedule. -/
theorem schedule_missing {s : Session} {run : Nat} (hnone : s.runs[run]? = none) :
    s.schedule run = (s, []) := by
  simp [schedule, hnone, askAll, close]

theorem openCall_moves {s : Session} {index : Nat} {v : Validator}
    (there : s.validators[index]? = some v) (onPass onFail : Bool) :
    Moves s (s.openCall index v onPass onFail).1 (s.openCall index v onPass onFail).2.2 := by
  have hcounted : Moves s { s with calls := s.calls + 1 } [] := moves_aside _ _ rfl rfl
  unfold openCall
  simp only
  split
  · next opened events accepted =>
    simpa using hcounted.snoc (Move.opened index v _ opened events there accepted)
  · exact hcounted

theorem openFuture_moves {s : Session} {index : Nat} {v : Validator}
    (there : s.validators[index]? = some v) (negated : Bool) :
    Moves s (s.openFuture index v negated).1 (s.openFuture index v negated).2.2 := by
  unfold openFuture
  split
  · next opened events accepted =>
    exact (Move.opened index v _ opened events there accepted).moves.aside _ rfl rfl
  · exact moves_aside _ _ rfl rfl

theorem scheduled_moves {s : Session} {opened : Session × Answer × List Event}
    (h : Moves s opened.1 opened.2.2) :
    Moves s (s.scheduled opened).1 (s.scheduled opened).2.2 :=
  h.trans (schedule_moves opened.1 _)

/-- A poll changes nothing but the futures. -/
theorem poll_futures (s : Session) (future : Nat) :
    ∃ futures, (s.poll future).1 = { s with futures } := by
  unfold poll
  split
  · split
    · exact ⟨s.futures, rfl⟩
    · exact ⟨_, rfl⟩
  · exact ⟨s.futures, rfl⟩

theorem poll_aside (s : Session) (future : Nat) :
    (s.poll future).1.validators = s.validators ∧ (s.poll future).1.runs = s.runs := by
  obtain ⟨futures, heq⟩ := poll_futures s future
  rw [heq]
  exact ⟨rfl, rfl⟩

theorem startFuture_moves {s : Session} {index : Nat} {v : Validator}
    (there : s.validators[index]? = some v) (negated : Bool) :
    Moves s (s.startFuture index v negated).1 (s.startFuture index v negated).2.2 := by
  have h := scheduled_moves (openFuture_moves there negated)
  unfold startFuture
  split
  · next heq => simpa [heq] using h
  · next after _ events _ heq =>
    have hpoll := poll_aside after s.futures.length
    rw [heq] at h
    exact h.aside _ hpoll.1 hpoll.2

theorem complete_moves (s : Session) (handle : Nat) (outcome : Outcome) :
    Moves s (s.complete handle outcome).1 (s.complete handle outcome).2 := by
  unfold complete
  split
  · exact (Move.completed _ _ outcome).moves
  · exact .none

/-- What holds of what is done with any validator, and of nothing done, holds. -/
theorem withValidator_cases {s : Session} {index : Nat}
    {act : Validator → Session × Answer × List Event} {P : Session × Answer × List Event → Prop}
    (missing : P (s, .missing, [])) (found : ∀ v, P (act v)) : P (s.withValidator index act) := by
  unfold withValidator
  split
  · exact found _
  · exact missing

theorem withValidator_moves {s : Session} {index : Nat}
    {act : Validator → Session × Answer × List Event}
    (h : ∀ v, s.validators[index]? = some v → Moves s (act v).1 (act v).2.2) :
    Moves s (s.withValidator index act).1 (s.withValidator index act).2.2 := by
  unfold withValidator
  split
  · next v there => exact h v there
  · exact .none

theorem create_bag {context : Context} {input : Json} {rules : RawRules} {v : Validator}
    (h : Validator.create context input rules = .ok v) : v.bag = MessageBag.empty := by
  unfold Validator.create at h
  split at h
  · cases hp : Plan.make context (RuleSet.parse rules) with
    | error e => simp [hp, bind, Except.bind] at h
    | ok plan =>
      simp only [hp, bind, Except.bind, pure, Except.pure, Except.ok.injEq] at h
      rw [← h]
  · simp [throw, throwThe, MonadExceptOf.throw] at h

theorem step_moves (s : Session) (op : Operation) :
    Moves s (s.step op).1 (s.step op).2.2 := by
  cases op with
  | register | unregister | setLanguage | addLanguage | setConfig | reset =>
    exact moves_aside _ _ rfl rfl
  | dropFuture | drop => exact moves_aside _ _ rfl rfl
  | create input rules messages =>
    simp only [step]
    split
    · next v accepted =>
      have empty := create_bag accepted
      exact (Move.created { v with wording := v.wording.setCustom messages } empty).moves
    · exact .none
  | setCustom index messages => exact (Move.reworded index (·.setCustom messages)).moves
  | setNames index names => exact (Move.reworded index (·.setNames names)).moves
  | setFormatter index formatter =>
    exact (Move.reworded index fun w => { w with formatter := some formatter }).moves
  | pinLanguage index language =>
    exact (Move.reworded index fun w => { w with language := some language }).moves
  | hasAsync => exact withValidator_moves fun _ _ => .none
  | check | fails => exact withValidator_moves fun v there => (Move.checked _ v there).moves
  | checkAsync index onPass onFail =>
    exact withValidator_moves fun v there => scheduled_moves (openCall_moves there onPass onFail)
  | future index negated =>
    exact withValidator_moves fun v there => startFuture_moves there negated
  | openCall index onPass onFail =>
    exact withValidator_moves fun v there => openCall_moves there onPass onFail
  | openFuture index negated =>
    exact withValidator_moves fun v there => openFuture_moves there negated
  | ask run => exact (Move.asked run).moves
  | close run => exact (Move.closed run).moves
  | poll future =>
    have hpoll := poll_aside s future
    exact moves_aside _ _ hpoll.1 hpoll.2
  | complete handle outcome => exact complete_moves s handle outcome

theorem steps_append (s : Session) (first others : List Operation) :
    s.steps (first ++ others) =
      (((s.steps first).1.steps others).1, (s.steps first).2 ++ ((s.steps first).1.steps others).2) :=
  inTurn_append _ s first others

theorem steps_snoc (s : Session) (ops : List Operation) (op : Operation) :
    s.steps (ops ++ [op]) =
      (((s.steps ops).1.step op).1, (s.steps ops).2 ++ ((s.steps ops).1.step op).2.2) :=
  inTurn_snoc _ s ops op

theorem steps_moves (s : Session) (ops : List Operation) :
    Moves s (s.steps ops).1 (s.steps ops).2 :=
  .inTurn fun s op _ => step_moves s op

end FieldRules.Session
