import FieldRules.Proofs.Session.Bag
import FieldRules.Proofs.Session.Ledger

namespace FieldRules.Session

/-- The messages that were recorded for a validator, with the runs that they are of. -/
def recordedIn (index : Nat) (events : List Event) : List (Option Nat × Failure × String) :=
  events.filterMap fun
    | .recorded i run f message => if i = index then some (run, f, message) else none
    | _ => none

theorem mem_recordedIn {index : Nat} {events : List Event} {run : Option Nat} {f : Failure}
    {message : String} :
    (run, f, message) ∈ recordedIn index events ↔ .recorded index run f message ∈ events := by
  simp only [recordedIn, List.mem_filterMap]
  constructor
  · intro hin
    obtain ⟨e, he, heq⟩ := hin
    cases e with
    | recorded i r g text =>
      by_cases hi : i = index <;> simp [hi] at heq
      obtain ⟨rfl, rfl, rfl⟩ := heq
      rwa [← hi]
    | _ => simp at heq
  · intro h
    exact ⟨_, h, by simp⟩

/-- Without a run that begins, a bag only gets messages. -/
theorem foldl_onBag {index : Nat} {since : List Event} (h : ∀ run, .began index run ∉ since)
    (bag : MessageBag) :
    since.foldl (Event.onBag index) bag =
      ((recordedIn index since).map (·.2)).foldl
        (fun bag (f, message) => bag.add f.field message) bag := by
  induction since generalizing bag with
  | nil => rfl
  | cons e rest ih =>
    have hrest := ih fun run hm => h run (List.mem_cons_of_mem _ hm)
    rw [List.foldl_cons, hrest]
    cases e with
    | began i run =>
      have hi : i ≠ index := by
        intro he
        subst he
        exact h run List.mem_cons_self
      simp [recordedIn, Event.onBag, hi]
    | recorded i run f message => by_cases hi : i = index <;> simp [recordedIn, Event.onBag, hi]
    | _ => rfl

/-- A slot of an earlier run of the validator had no completion when the last one began, and got a
failing one after that. -/
def StaleFailure (index : Nat) (run : Option Nat) (past events : List Event) : Prop :=
  ∃ older, some older ≠ run ∧ .began index (some older) ∈ events ∧ ∃ slot outcome,
    Run.firstCompletion (operations older past) slot = none ∧
      Run.firstCompletion (operations older events) slot = some outcome ∧ outcome.passed = false

/-- What a run told since some moment is what its operations since then tell. -/
theorem reports_since {s s' : Session} {past since : List Event} (h : Faithful s (past ++ since))
    (hpast : Faithful s' past) (run : Nat) :
    reports run since =
      ((Run.after (operations run past)).steps (operations run since)).2 := by
  have hall := h.alone.steps run
  have hbefore := hpast.alone.steps run
  rw [operations_append, reports_append, Run.steps_append, hbefore] at hall
  rw [Run.after, hbefore]
  exact (List.append_cancel_left (Prod.mk.inj hall).2).symm

theorem mem_reports_failed {run : Nat} {f : Failure} {events : List Event} :
    .failed f ∈ reports run events ↔
      ∃ i message, .recorded i (some run) f message ∈ events := by
  simp only [reports, List.mem_filterMap]
  constructor
  · intro hin
    obtain ⟨e, he, heq⟩ := hin
    cases e with
    | recorded i r g message =>
      cases r with
      | none => simp [Event.report?] at heq
      | some r =>
        by_cases hr : r = run <;> simp [Event.report?, hr] at heq
        obtain rfl := heq
        exact ⟨i, message, by rwa [← hr]⟩
    | verdict r passed => by_cases hr : r = run <;> simp [Event.report?, hr] at heq
    | _ => simp [Event.report?] at heq
  · intro hin
    obtain ⟨i, message, h⟩ := hin
    exact ⟨_, h, by simp [Event.report?]⟩

section Ledger

variable {s : Session} {past since : List Event} {index : Nat} {run : Option Nat}

theorem Ledger.began_iff {events : List Event} (h : Ledger s events) (index run : Nat) :
    .began index (some run) ∈ events ↔ s.hosts[run]? = some index := by
  rw [h.faithful.orderly.began, hosts, List.getElem?_map]
  cases s.outlines[run]? with
  | none => simp
  | some o => simp [Prod.ext_iff]

theorem Ledger.failed_since_iff (h : Ledger s (past ++ .began index run :: since)) (older : Nat) :
    (∃ i f message, .recorded i (some older) f message ∈ since) ↔
      ∃ slot outcome, Run.firstCompletion (operations older past) slot = none ∧
        Run.firstCompletion (operations older (past ++ .began index run :: since)) slot =
          some outcome ∧ outcome.passed = false := by
  obtain ⟨s', hpast⟩ := h.marked past (.began index run) ⟨since, by simp⟩ index run rfl
  have hreports := reports_since h.faithful hpast older
  have hops : operations older (.began index run :: since) = operations older since := by
    simp [Event.operation?]
  have htold : reports older (.began index run :: since) = reports older since :=
    List.filterMap_cons_none rfl
  rw [operations_append, hops, ← Run.failed_mem_steps_iff, ← hops, ← hreports, htold]
  simp only [mem_reports_failed]
  constructor
  · intro hin
    obtain ⟨i, f, message, hm⟩ := hin
    exact ⟨f, i, message, hm⟩
  · intro hin
    obtain ⟨f, i, message, hm⟩ := hin
    exact ⟨i, f, message, hm⟩

/-- All messages since the last run began are of that run, unless a stale handle failed. -/
theorem Ledger.all_recent_iff (h : Ledger s (past ++ .began index run :: since))
    (hlast : ∀ r, .began index r ∉ since) :
    (∀ entry ∈ recordedIn index since, entry.1 = run) ↔
      ¬ StaleFailure index run past (past ++ .began index run :: since) := by
  constructor
  · intro hall hin
    obtain ⟨older, hne, hbegan, hfails⟩ := hin
    obtain ⟨i, f, message, hm⟩ := (h.failed_since_iff older).2 hfails
    have hhost := h.hosted i older f message (by simp [hm])
    obtain rfl : index = i := by simpa [hhost, eq_comm] using (h.began_iff index older).1 hbegan
    exact hne (hall _ (mem_recordedIn.2 hm))
  · intro hstale hin hentry
    obtain ⟨owner, f, message⟩ := hin
    have hm := mem_recordedIn.1 hentry
    cases owner with
    | none =>
      obtain ⟨before, rest, hsplit⟩ := List.append_of_mem hm
      have hposition : (past ++ .began index run :: before) ++ [.recorded index none f message] <+:
          past ++ .began index run :: since := ⟨rest, by simp [hsplit]⟩
      have hown := h.own _ _ hposition index f message rfl
      rw [lastBegan_began] at hown
      · exact (Option.some.inj hown).symm
      · intro r hr
        exact hlast r (by simp [hsplit, hr])
    | some older =>
      by_contra hne
      have hbegan := (h.began_iff index older).2 (h.hosted index older f message (by simp [hm]))
      have hfails := (h.failed_since_iff older).1 ⟨index, f, message, hm⟩
      exact hstale ⟨older, hne, hbegan, hfails⟩

/-- Nothing is recorded before a run begins. -/
theorem Ledger.recordedIn_eq_nil {events : List Event} (h : Ledger s events)
    (hnone : ∀ r, .began index r ∉ events) : recordedIn index events = [] := by
  rw [List.eq_nil_iff_forall_not_mem]
  intro hin hentry
  obtain ⟨owner, f, message⟩ := hin
  have hm := mem_recordedIn.1 hentry
  cases owner with
  | none =>
    obtain ⟨before, rest, hsplit⟩ := List.append_of_mem hm
    have hposition : before ++ [.recorded index none f message] <+: events :=
      ⟨rest, by simp [hsplit]⟩
    have hbegan := mem_of_lastBegan (h.own _ _ hposition index f message rfl)
    exact hnone none (by simp [hsplit, hbegan])
  | some run => exact hnone _ ((h.began_iff index run).2 (h.hosted index run f message hm))

/-- Two bags of which one leaves messages out are different. -/
theorem ofLog_filter_iff (entries : List (Option Nat × Failure × String)) (run : Option Nat) :
    MessageBag.ofLog (entries.map (·.2)) =
        MessageBag.ofLog ((entries.filter fun entry => entry.1 = run).map (·.2)) ↔
      ∀ entry ∈ entries, entry.1 = run := by
  constructor
  · intro h
    have hcount := congrArg MessageBag.count h
    simp only [MessageBag.count_ofLog, List.length_map] at hcount
    have hall := List.length_filter_eq_length_iff.1 hcount.symm
    simpa using hall
  · intro h
    rw [List.filter_eq_self.2 (by simpa using h)]

end Ledger

/-- The bag of a validator holds the messages that were recorded for it since its last run began.
They are of that run alone if and only if no handle of another run has failed, since then, a slot
that had no completion when it began. -/
theorem bag_of_last_run_iff (context : Context) (validators : List Validator)
    (ops : List Operation) (index : Nat) :
    let s := (steps { context, validators } ops).1
    let events := (steps { context, validators } ops).2
    (∀ past run since, events = past ++ .began index run :: since →
      (∀ r, .began index r ∉ since) →
        s.bagOf index = MessageBag.ofLog ((recordedIn index since).map (·.2)) ∧
        (s.bagOf index = MessageBag.ofLog
            (((recordedIn index since).filter fun entry => entry.1 = run).map (·.2)) ↔
          ¬ StaleFailure index run past events)) ∧
    ((∀ run, .began index run ∉ events) →
      s.bagOf index = ({ context, validators } : Session).bagOf index) := by
  intro s events
  have hledger : Ledger s events := steps_ledger context validators ops
  have hbag : BagFollows index { context, validators } s events := steps_bag _ ops index
  constructor
  · intro past run since hsplit hlast
    rw [hsplit] at hledger hbag ⊢
    have heq : s.bagOf index = MessageBag.ofLog ((recordedIn index since).map (·.2)) := by
      rw [hbag, List.foldl_append, List.foldl_cons, foldl_onBag hlast]
      simp [Event.onBag, MessageBag.ofLog]
    refine ⟨heq, ?_⟩
    rw [heq, ofLog_filter_iff, hledger.all_recent_iff hlast]
  · intro hnone
    rw [hbag, foldl_onBag hnone, hledger.recordedIn_eq_nil hnone]
    rfl

/-- Two runs wait for a rule that keeps its handles. The second passes; then the handle of the first
fails. -/
def staleHistory : List Operation :=
  [.register "later" (.async fun _ _ => ⟨[], 1⟩) false ":attribute is late.",
    .create (.object [("a", .string "x")]) (Dict.ofList [("a", .piped "later")]) [],
    .checkAsync 0 true true,
    .checkAsync 0 true true,
    .complete 1 .pass,
    .complete 0 .fail]

/-- The last run passed and recorded nothing, but the bag shows the failure of the one before. -/
theorem stale_failure_in_bag :
    let ended := steps { context := Context.initial } staleHistory
    let failure : Failure := ⟨"a", ⟨"later", none⟩, .string, none⟩
    lastBegan 0 ended.2 = some (some 1) ∧ verdicts 1 ended.2 = [true] ∧
      recordedIn 0 ended.2 = [(some 0, failure, "a is late.")] ∧
      ended.1.bagOf 0 = MessageBag.ofLog [(failure, "a is late.")] := by
  refine ⟨by decide +kernel, by decide +kernel, by decide +kernel, ?_⟩
  apply congrArg MessageBag.mk
  apply Dict.ext
  decide +kernel

end FieldRules.Session
