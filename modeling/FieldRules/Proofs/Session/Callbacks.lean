import FieldRules.Proofs.Session.Handles

namespace FieldRules

/-- Whether the event tells a verdict. -/
def Event.isTelling : Event → Bool
  | verdict _ _ | finished _ _ => true
  | _ => false

/-- The callbacks of a call act on a verdict. -/
def Listener.Hears (listener : Listener) (call : Nat) (passed : Bool) : Prop :=
  ∃ onPass onFail, listener = .callbacks call onPass onFail ∧
    (if passed then onPass else onFail) = true

namespace Session

/-- The listeners of the runs, and how many calls there were. -/
def audience (s : Session) : List Listener × Nat := (s.runs.map (·.listener), s.calls)

/-- Some run tells its verdict to the callbacks of a call. -/
def Awaited (s : Session) (call : Nat) : Prop :=
  ∃ onPass onFail, .callbacks call onPass onFail ∈ s.audience.1

theorem audience_modifyRun (s : Session) (index : Nat) {f : StartedRun → StartedRun}
    (hf : ∀ started, (f started).listener = started.listener) :
    (s.modifyRun index f).audience = s.audience :=
  Prod.ext (map_modify_of_unchanged hf s.runs index) rfl

theorem unoperated_audience : Unoperated audience where
  message _ _ _ _ := rfl
  verdict s index _ := audience_modifyRun s index fun _ => rfl
  run s index _ := audience_modifyRun s index fun _ => rfl

theorem audience_operate (s : Session) (index : Nat) (operation : Run.Operation) :
    (s.operate index operation).1.audience = s.audience :=
  unoperated_audience.operate s index operation

theorem Stroke.audience {s s' : Session} {events : List Event} (h : Stroke s s' events) :
    s'.audience = s.audience := by
  cases h with
  | turned index rest context => exact audience_modifyRun s index fun _ => rfl
  | handed | noted => rfl
  | operated index operation => exact audience_operate s index operation

theorem Strokes.audience {s s' : Session} {events : List Event} (h : Strokes s s' events) :
    s'.audience = s.audience := by
  induction h with
  | none => rfl
  | snoc _ last ih => rw [last.audience, ih]

theorem schedule_strokes (s : Session) (index : Nat) :
    Strokes s (s.schedule index).1 (s.schedule index).2 := by
  have hasked (count : Nat) : Strokes s (s.askAll index count).1 (s.askAll index count).2 :=
    .inTurn fun s index _ => ask_strokes s index
  exact (hasked _).trans (close_strokes _ index)

/-- Whoever listens goes on listening. -/
theorem Move.audience {s s' : Session} {events : List Event} (h : Move s s' events) :
    s.audience.1 <+: s'.audience.1 := by
  cases h with
  | aside _ validators runs => rw [Session.audience, Session.audience, runs]
  | reworded | created => exact List.prefix_rfl
  | checked index v there =>
    unfold Session.check
    split <;> exact List.prefix_rfl
  | opened index v listener _ _ there accepted =>
    obtain ⟨plan, -, -, hruns, -⟩ := openRun_ok accepted
    rw [Session.audience, Session.audience, hruns, List.map_append]
    exact List.prefix_append _ _
  | asked run => rw [(ask_strokes s run).audience]
  | closed run => rw [(close_strokes s run).audience]
  | completed run slot outcome => rw [audience_operate]

/-- Every verdict is told to the listener of its run at once, and callbacks are told nothing else. -/
inductive Announced (listeners : List Listener) : List Event → Prop where
  | nil : Announced listeners []
  | other {e : Event} {rest : List Event} (quiet : e.isTelling = false)
      (others : Announced listeners rest) : Announced listeners (e :: rest)
  | verdict {run : Nat} {passed : Bool} {listener : Listener} {rest : List Event}
      (there : listeners[run]? = some listener) (others : Announced listeners rest) :
      Announced listeners (.verdict run passed :: (announce listener passed ++ rest))

/-- A listener tells nothing, or tells the verdict to its callbacks. -/
theorem announce_cases (listener : Listener) (passed : Bool) :
    announce listener passed = [] ∨ ∃ call, listener.Hears call passed ∧
      announce listener passed = [.finished call passed] := by
  cases listener with
  | future => exact .inl rfl
  | callbacks call onPass onFail =>
    by_cases hheard : (if passed then onPass else onFail) = true
    · exact .inr ⟨call, ⟨onPass, onFail, rfl, hheard⟩, if_pos hheard⟩
    · exact .inl (if_neg hheard)

theorem announce_of_hears {listener : Listener} {call : Nat} {passed : Bool}
    (h : listener.Hears call passed) : announce listener passed = [.finished call passed] := by
  obtain ⟨onPass, onFail, rfl, hheard⟩ := h
  exact if_pos hheard

section Announced

variable {listeners : List Listener} {events others : List Event}

theorem announced_of_quiet (h : ∀ e ∈ events, e.isTelling = false) :
    Announced listeners events := by
  induction events with
  | nil => exact .nil
  | cons e rest ih =>
    exact .other (h e List.mem_cons_self) (ih fun e he => h e (List.mem_cons_of_mem _ he))

theorem Announced.append (h : Announced listeners events) (h' : Announced listeners others) :
    Announced listeners (events ++ others) := by
  induction h with
  | nil => exact h'
  | other quiet _ ih => exact .other quiet ih
  | verdict there _ ih =>
    rw [List.cons_append, List.append_assoc]
    exact .verdict there ih

theorem Announced.mono (h : Announced listeners events) {more : List Listener}
    (hmore : listeners <+: more) : Announced more events := by
  obtain ⟨newcomers, rfl⟩ := hmore
  induction h with
  | nil => exact .nil
  | other quiet _ ih => exact .other quiet ih
  | verdict there _ ih =>
    refine .verdict ?_ ih
    rwa [List.getElem?_append_left (List.getElem?_eq_some_iff.1 there).1]

/-- After a verdict comes what the listener of the run tells. -/
theorem Announced.after_verdict (h : Announced listeners events) {past rest : List Event}
    {run : Nat} {passed : Bool} (hsplit : events = past ++ .verdict run passed :: rest) :
    ∃ listener, listeners[run]? = some listener ∧ announce listener passed <+: rest := by
  induction h generalizing past with
  | nil => simp at hsplit
  | @other e rest' quiet _ ih =>
    rcases List.cons_eq_append_iff.1 hsplit with ⟨-, heq⟩ | ⟨past', -, heq⟩
    · obtain ⟨rfl, -⟩ := List.cons.inj heq
      simp [Event.isTelling] at quiet
    · exact ih heq
  | @verdict run' passed' listener rest' there _ ih =>
    rcases List.cons_eq_append_iff.1 hsplit with ⟨-, heq⟩ | ⟨past', -, heq⟩
    · obtain ⟨he, rfl⟩ := List.cons.inj heq
      obtain ⟨rfl, rfl⟩ := Event.verdict.inj he
      exact ⟨listener, there, List.prefix_append _ _⟩
    · rcases announce_cases listener passed' with hnone | ⟨call, -, hone⟩
      · rw [hnone, List.nil_append] at heq
        exact ih heq
      · rw [hone, List.singleton_append] at heq
        rcases List.cons_eq_append_iff.1 heq with ⟨-, heq⟩ | ⟨past'', -, heq⟩
        · simp at heq
        · exact ih heq

/-- Callbacks are told a verdict right after it was given in the run that they listen to. -/
theorem Announced.before_finished (h : Announced listeners events) {past rest : List Event}
    {call : Nat} {passed : Bool} (hsplit : events = past ++ .finished call passed :: rest) :
    ∃ earlier run listener, past = earlier ++ [.verdict run passed] ∧
      listeners[run]? = some listener ∧ listener.Hears call passed := by
  induction h generalizing past with
  | nil => simp at hsplit
  | @other e rest' quiet _ ih =>
    rcases List.cons_eq_append_iff.1 hsplit with ⟨-, heq⟩ | ⟨past', rfl, heq⟩
    · obtain ⟨rfl, -⟩ := List.cons.inj heq
      simp [Event.isTelling] at quiet
    · obtain ⟨earlier, run, listener, rfl, hhears⟩ := ih heq
      exact ⟨e :: earlier, run, listener, rfl, hhears⟩
  | @verdict run' passed' listener' rest' there _ ih =>
    rcases List.cons_eq_append_iff.1 hsplit with ⟨-, heq⟩ | ⟨past', rfl, htold⟩
    · simp at heq
    rcases announce_cases listener' passed' with hnone | ⟨call', hheard, hone⟩
    · rw [hnone, List.nil_append] at htold
      obtain ⟨earlier, run, listener, rfl, hhears⟩ := ih htold
      exact ⟨_ :: earlier, run, listener, rfl, hhears⟩
    · rw [hone, List.singleton_append] at htold
      rcases List.cons_eq_append_iff.1 htold with ⟨rfl, heq⟩ | ⟨past'', rfl, heq⟩
      · obtain ⟨he, -⟩ := List.cons.inj heq
        obtain ⟨rfl, rfl⟩ := Event.finished.inj he
        exact ⟨[], run', listener', rfl, there, hheard⟩
      · obtain ⟨earlier, run, listener, rfl, hhears⟩ := ih heq
        exact ⟨_ :: _ :: earlier, run, listener, rfl, hhears⟩

end Announced

theorem hear_announced {listeners : List Listener} {started : StartedRun} {index : Nat}
    (there : listeners[index]? = some started.listener) (s : Session) (report : Run.Report) :
    Announced listeners (s.hear index started report).2 := by
  cases report with
  | failed f =>
    apply announced_of_quiet
    simp only [hear]
    split <;> simp [Event.isTelling]
  | verdict passed =>
    have htold : Announced listeners (.verdict index passed ::
        (announce started.listener passed ++ [])) := .verdict there .nil
    rwa [List.append_nil] at htold

theorem operate_announced (s : Session) (index : Nat) (operation : Run.Operation) :
    Announced s.audience.1 (s.operate index operation).2 := by
  cases hs : s.runs[index]? with
  | none =>
    rw [operate_missing s index operation hs]
    exact .nil
  | some started =>
    have there : s.audience.1[index]? = some started.listener := by
      rw [audience, List.getElem?_map, hs]
      rfl
    rw [operate_eq s index operation hs]
    exact .other rfl (inTurn_rel (R := fun _ _ events => Announced s.audience.1 events)
      (fun _ => .nil) .append fun s report _ => hear_announced there s report)

theorem Stroke.announced {s s' : Session} {events : List Event} (h : Stroke s s' events) :
    Announced s.audience.1 events := by
  cases h with
  | turned | handed => exact .nil
  | noted e note =>
    apply announced_of_quiet
    cases e <;> simp_all [Event.isNote, Event.isTelling]
  | operated index operation => exact operate_announced s index operation

theorem Strokes.announced {s s' : Session} {events : List Event} (h : Strokes s s' events) :
    Announced s.audience.1 events := by
  induction h with
  | none => exact .nil
  | snoc earlier last ih =>
    refine ih.append ?_
    rw [← Strokes.audience earlier]
    exact last.announced

theorem Move.announced {s s' : Session} {events : List Event} (h : Move s s' events) :
    Announced s.audience.1 events := by
  cases h with
  | aside | reworded | created => exact .nil
  | checked index v there =>
    apply announced_of_quiet
    unfold Session.check
    split
    · simp only [List.forall_mem_cons, List.forall_mem_map]
      exact ⟨rfl, fun _ _ => rfl⟩
    · simp
  | opened index v listener _ _ there accepted =>
    obtain ⟨plan, -, rfl, -⟩ := openRun_ok accepted
    exact .other rfl .nil
  | asked run => exact (ask_strokes s run).announced
  | closed run => exact (close_strokes s run).announced
  | completed run slot outcome => exact operate_announced s run _

theorem Moves.announced {s s' : Session} {events : List Event} (h : Moves s s' events) :
    Announced s'.audience.1 events := by
  induction h with
  | none => exact .nil
  | snoc _ last ih => exact (ih.append last.announced).mono last.audience

/-- Only whoever waits for it is told a verdict. -/
theorem Moves.finished {s s' : Session} {events : List Event} (h : Moves s s' events) {call : Nat}
    {passed : Bool} (hm : .finished call passed ∈ events) : s'.Awaited call := by
  obtain ⟨past, rest, hsplit⟩ := List.append_of_mem hm
  obtain ⟨-, run, _, -, there, onPass, onFail, rfl, -⟩ := h.announced.before_finished hsplit
  exact ⟨onPass, onFail, List.mem_of_getElem? there⟩

/-- At most one joins the audience, who is a future or has the next number of a call. -/
def Joined (s s' : Session) : Prop :=
  ∃ more n, s'.audience = (s.audience.1 ++ more, s.calls + n) ∧ more.length ≤ 1 ∧
    ∀ call onPass onFail, .callbacks call onPass onFail ∈ more → call = s.calls ∧ n = 1

theorem Joined.of_eq {s s' : Session} (h : s'.audience = s.audience) : Joined s s' :=
  ⟨[], 0, by rw [h]; simp [audience], by simp, by simp⟩

theorem openCall_joined (s : Session) (index : Nat) (v : Validator) (onPass onFail : Bool) :
    Joined s (s.openCall index v onPass onFail).1 := by
  rcases openCall_cases s index v onPass onFail with ⟨e, heq⟩ | ⟨plan, heq⟩
  · refine ⟨[], 1, ?_, by simp, by simp⟩
    rw [heq, List.append_nil]
    rfl
  · refine ⟨[.callbacks s.calls onPass onFail], 1, ?_, le_rfl, ?_⟩
    · simp [heq, audience, underway]
    · intro call first second hm
      simp only [List.mem_singleton, Listener.callbacks.injEq] at hm
      exact ⟨hm.1, rfl⟩

theorem openFuture_joined (s : Session) (index : Nat) (v : Validator) (negated : Bool) :
    Joined s (s.openFuture index v negated).1 := by
  rcases openFuture_cases s index v negated with ⟨e, heq⟩ | ⟨plan, heq⟩
  · rw [heq]
    exact .of_eq rfl
  · refine ⟨[.future], 0, ?_, le_rfl, by simp⟩
    simp [heq, audience, underway]

theorem Joined.scheduled {s : Session} {opened : Session × Answer × List Event}
    (h : Joined s opened.1) : Joined s (s.scheduled opened).1 := by
  have hsame : (s.scheduled opened).1.audience = opened.1.audience :=
    (schedule_strokes opened.1 s.runs.length).audience
  rwa [Joined, hsame]

theorem audience_poll (s : Session) (future : Nat) : (s.poll future).1.audience = s.audience := by
  obtain ⟨futures, heq⟩ := poll_futures s future
  rw [heq]
  rfl

theorem withValidator_joined {s : Session} {index : Nat}
    {act : Validator → Session × Answer × List Event} (h : ∀ v, Joined s (act v).1) :
    Joined s (s.withValidator index act).1 :=
  withValidator_cases (P := fun done => Joined s done.1) (.of_eq rfl) h

theorem step_joined (s : Session) (op : Operation) : Joined s (s.step op).1 := by
  cases op with
  | checkAsync index onPass onFail =>
    exact withValidator_joined fun v => (openCall_joined s index v onPass onFail).scheduled
  | openCall index onPass onFail =>
    exact withValidator_joined fun v => openCall_joined s index v onPass onFail
  | openFuture index negated => exact withValidator_joined fun v => openFuture_joined s index v negated
  | future index negated =>
    apply withValidator_joined
    intro v
    have hscheduled := (openFuture_joined s index v negated).scheduled
    rwa [Joined, (startFuture_eq s index v negated).1, audience_poll]
  | create input rules messages =>
    simp only [step]
    split <;> exact .of_eq rfl
  | check index | fails index =>
    apply withValidator_joined
    intro v
    simp only [Session.check]
    split <;> exact .of_eq rfl
  | hasAsync index => exact withValidator_joined fun v => .of_eq rfl
  | ask run => exact .of_eq (ask_strokes s run).audience
  | close run => exact .of_eq (close_strokes s run).audience
  | poll future => exact .of_eq (audience_poll s future)
  | complete handle outcome =>
    apply Joined.of_eq
    simp only [step, complete]
    split
    · exact audience_operate s _ _
    · rfl
  | _ => exact .of_eq rfl

theorem Joined.awaited {s s' : Session} (h : Joined s s') {call : Nat} (hcall : s'.Awaited call) :
    s.Awaited call ∨ (call = s.calls ∧ call < s'.calls) := by
  obtain ⟨more, n, heq, -, hmore⟩ := h
  obtain ⟨onPass, onFail, hm⟩ := hcall
  have hcalls : s'.calls = s.calls + n := congrArg Prod.snd heq
  rw [heq] at hm
  rcases List.mem_append.1 hm with hm | hm
  · exact .inl ⟨onPass, onFail, hm⟩
  · obtain ⟨rfl, rfl⟩ := hmore call onPass onFail hm
    exact .inr ⟨rfl, by omega⟩

theorem Joined.calls_le {s s' : Session} (h : Joined s s') : s.calls ≤ s'.calls := by
  obtain ⟨more, n, heq, -⟩ := h
  have hcalls : s'.calls = s.calls + n := congrArg Prod.snd heq
  omega

/-- Every call that is waited for has been counted, and no two runs report to one call. -/
structure Numbered (s : Session) : Prop where
  counted : ∀ call, s.Awaited call → call < s.calls
  apart : ∀ (i j call : Nat) (onPass onFail onPass' onFail' : Bool),
    s.audience.1[i]? = some (.callbacks call onPass onFail) →
      s.audience.1[j]? = some (.callbacks call onPass' onFail') → i = j

theorem numbered_initial (context : Context) (validators : List Validator) :
    Numbered { context, validators } where
  counted call hcall := by
    obtain ⟨onPass, onFail, hm⟩ := hcall
    simp [audience] at hm
  apart := by simp [audience]

theorem Joined.numbered {s s' : Session} (h : Joined s s') (hs : s.Numbered) : s'.Numbered := by
  have hcounted : ∀ call, s'.Awaited call → call < s'.calls := by
    intro call hcall
    rcases h.awaited hcall with hold | hnew
    · exact (hs.counted call hold).trans_le h.calls_le
    · exact hnew.2
  obtain ⟨more, n, heq, hlength, hmore⟩ := h
  have haudience : s'.audience.1 = s.audience.1 ++ more := congrArg Prod.fst heq
  -- who listened before has an earlier number than whoever joins
  have hcases {i call : Nat} {onPass onFail : Bool}
      (hi : s'.audience.1[i]? = some (.callbacks call onPass onFail)) :
      (s.audience.1[i]? = some (.callbacks call onPass onFail) ∧ call < s.calls) ∨
        (i = s.audience.1.length ∧ call = s.calls) := by
    rw [haudience, List.getElem?_append] at hi
    split at hi
    · exact .inl ⟨hi, hs.counted call ⟨onPass, onFail, List.mem_of_getElem? hi⟩⟩
    · have hlt := (List.getElem?_eq_some_iff.1 hi).1
      exact .inr ⟨by omega, (hmore call onPass onFail (List.mem_of_getElem? hi)).1⟩
  refine ⟨hcounted, fun i j call _ _ _ _ hi hj => ?_⟩
  rcases hcases hi with ⟨hi, hold⟩ | ⟨hi, hnew⟩ <;> rcases hcases hj with ⟨hj, hold'⟩ | ⟨hj, hnew'⟩
  · exact hs.apart i j call _ _ _ _ hi hj
  · omega
  · omega
  · omega

theorem act_joined (s : Session) (deed : Deed) : Joined s (s.act deed).1 := by
  cases deed with
  | operation op => exact step_joined s op
  | copy handle => exact .of_eq rfl

theorem acts_numbered (context : Context) (validators : List Validator) (deeds : List Deed) :
    Numbered (acts { context, validators } deeds).1 :=
  inTurn_rel (R := fun s s' _ => s.Numbered → s'.Numbered) (fun _ hs => hs)
    (fun h h' hs => h' (h hs)) (fun s deed _ => (act_joined s deed).numbered)
    (numbered_initial context validators)

theorem steps_numbered (context : Context) (validators : List Validator) (ops : List Operation) :
    Numbered (steps { context, validators } ops).1 := by
  rw [← acts_operations]
  exact acts_numbered context validators _

end Session

end FieldRules
