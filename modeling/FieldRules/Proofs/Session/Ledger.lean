import FieldRules.Proofs.Session.Faithful

namespace FieldRules

/-- The run of a validator that began. -/
def Event.began? (index : Nat) : Event → Option (Option Nat)
  | began i run => if i = index then some run else none
  | _ => none

namespace Session

/-- The run of a validator that began last. -/
def lastBegan (index : Nat) (events : List Event) : Option (Option Nat) :=
  (events.filterMap (Event.began? index)).getLast?

theorem lastBegan_began (index : Nat) (run : Option Nat) (past : List Event) {since : List Event}
    (h : ∀ r, .began index r ∉ since) :
    lastBegan index (past ++ .began index run :: since) = some run := by
  have hnone : since.filterMap (Event.began? index) = [] := by
    rw [List.filterMap_eq_nil_iff]
    intro e he
    cases e with
    | began i r =>
      have hne : i ≠ index := by
        intro he
        subst he
        exact h r he
      simp [Event.began?, hne]
    | _ => rfl
  simp [lastBegan, Event.began?, hnone]

theorem mem_of_lastBegan {index : Nat} {run : Option Nat} {past : List Event}
    (h : lastBegan index past = some run) : .began index run ∈ past := by
  obtain ⟨e, he, hbegan⟩ := List.mem_filterMap.1 (List.mem_of_getLast? h)
  cases e with
  | began i r =>
    by_cases hi : i = index <;> simp [Event.began?, hi] at hbegan
    rwa [← hi, ← hbegan]
  | _ => simp [Event.began?] at hbegan

theorem Stroke.recorded {s s' : Session} {events : List Event} (h : Stroke s s' events) {i : Nat}
    {run : Option Nat} {f : Failure} {message : String}
    (hm : .recorded i run f message ∈ events) : ∃ r, run = some r ∧ s.hosts[r]? = some i := by
  cases h with
  | turned | handed => simp at hm
  | noted e note =>
    rw [List.mem_singleton] at hm
    rw [← hm] at note
    simp [Event.isNote] at note
  | operated index operation =>
    cases hs : s.runs[index]? with
    | none => simp [operate_missing s index operation hs] at hm
    | some started =>
      rw [operate_eq s index operation hs, List.mem_cons] at hm
      obtain ⟨-, rfl, rfl⟩ := recorded_mem_hearAll _ _ _ (hm.resolve_left (by simp))
      refine ⟨index, rfl, ?_⟩
      rw [getElem?_hosts, hs]
      rfl

theorem Stroke.began {s s' : Session} {events : List Event} (h : Stroke s s' events) (i : Nat)
    (run : Option Nat) : .began i run ∉ events := by
  intro hm
  cases h with
  | turned | handed => simp at hm
  | noted e note =>
    rw [List.mem_singleton] at hm
    rw [← hm] at note
    simp [Event.isNote] at note
  | operated index operation =>
    rcases operate_events s index operation with hnone | ⟨told, heq, htold⟩
    · simp [hnone] at hm
    · rw [heq, List.mem_cons] at hm
      have hreport := htold _ (hm.resolve_left (by simp))
      simp [Event.isReport] at hreport

theorem Strokes.recorded {s s' : Session} {events : List Event} (h : Strokes s s' events) {i : Nat}
    {run : Option Nat} {f : Failure} {message : String}
    (hm : .recorded i run f message ∈ events) : ∃ r, run = some r ∧ s.hosts[r]? = some i := by
  induction h with
  | none => simp at hm
  | snoc earlier last ih =>
    rcases List.mem_append.1 hm with hm | hm
    · exact ih hm
    · rw [← Strokes.hosts earlier]
      exact last.recorded hm

theorem Strokes.began {s s' : Session} {events : List Event} (h : Strokes s s' events) (i : Nat)
    (run : Option Nat) : .began i run ∉ events := by
  induction h with
  | none => simp
  | snoc _ last ih =>
    rw [List.mem_append, not_or]
    exact ⟨ih, last.began i run⟩

/-- The messages of a history are recorded for the runs that they are of. -/
structure Ledger (s : Session) (events : List Event) : Prop where
  faithful : Faithful s events
  hosted : ∀ i run f message, .recorded i (some run) f message ∈ events → s.hosts[run]? = some i
  own : Always (fun past e => ∀ i f message, e = .recorded i none f message →
    lastBegan i past = some none) events
  marked : Always (fun past e => ∀ i run, e = .began i run → ∃ s', Faithful s' past) events

theorem Ledger.strokes {s s' : Session} {events others : List Event} (h : Ledger s events)
    (hstrokes : Strokes s s' others) (hfaithful : Faithful s' (events ++ others)) :
    Ledger s' (events ++ others) := by
  refine ⟨hfaithful, ?_, ?_, ?_⟩
  · intro i run f message hm
    rw [hstrokes.hosts]
    rcases List.mem_append.1 hm with hm | hm
    · exact h.hosted i run f message hm
    · obtain ⟨r, hr, hhost⟩ := hstrokes.recorded hm
      rw [Option.some.inj hr]
      exact hhost
  · apply h.own.append
    intro past e rest hsplit i f message he
    subst he
    have hm : .recorded i none f message ∈ others := by simp [hsplit]
    obtain ⟨r, hr, -⟩ := hstrokes.recorded hm
    simp at hr
  · apply h.marked.append
    intro past e rest hsplit i run he
    subst he
    exact absurd (by simp [hsplit]) (hstrokes.began i run)

/-- A move after which there may be more runs, and which records messages of a synchronous run only
right after that began. -/
theorem Ledger.begin {s s' : Session} {events others : List Event} (h : Ledger s events)
    (hfaithful : Faithful s' (events ++ others)) (hhosts : s.hosts <+: s'.hosts)
    (hothers : others = [] ∨ ∃ i run log, others = .began i run :: log ∧
      ∀ e ∈ log, run = none ∧ ∃ f message, e = .recorded i none f message) :
    Ledger s' (events ++ others) := by
  have hold : ∀ i run f message, .recorded i (some run) f message ∉ others := by
    intro i run f message hm
    rcases hothers with rfl | ⟨j, r, log, rfl, hlog⟩
    · simp at hm
    · obtain ⟨-, f', message', he⟩ := hlog _ ((List.mem_cons.1 hm).resolve_left (by simp))
      simp at he
  refine ⟨hfaithful, ?_, ?_, ?_⟩
  · intro i run f message hm
    have hm := (List.mem_append.1 hm).resolve_right (hold i run f message)
    have hhost := h.hosted i run f message hm
    obtain ⟨more, hmore⟩ := hhosts
    rw [← hmore, List.getElem?_append_left (List.getElem?_eq_some_iff.1 hhost).1, hhost]
  · apply h.own.append
    intro past e rest hsplit i f message he
    subst he
    rcases hothers with rfl | ⟨j, r, log, rfl, hlog⟩
    · simp at hsplit
    · cases past with
      | nil => simp at hsplit
      | cons first past =>
        obtain ⟨rfl, hrest⟩ := List.cons.inj hsplit
        obtain ⟨rfl, f', message', he⟩ := hlog (.recorded i none f message) (by simp [hrest])
        obtain ⟨rfl, -⟩ := Event.recorded.inj he
        apply lastBegan_began
        intro r hr
        obtain ⟨-, f', message', he⟩ := hlog (.began i r) (by simp [hrest, hr])
        simp at he
  · apply h.marked.append
    intro past e rest hsplit i run he
    subst he
    rcases hothers with rfl | ⟨j, r, log, rfl, hlog⟩
    · simp at hsplit
    · cases past with
      | nil => exact ⟨s, by simpa using h.faithful⟩
      | cons first past =>
        obtain ⟨rfl, hrest⟩ := List.cons.inj hsplit
        obtain ⟨-, f', message', he⟩ := hlog (.began i run) (by simp [hrest])
        simp at he

theorem Ledger.move {s s' : Session} {events others : List Event} (hmove : Move s s' others)
    (h : Ledger s events) : Ledger s' (events ++ others) := by
  have hfaithful := h.faithful.move hmove
  cases hmove with
  | aside _ validators runs =>
    have hhosts : s'.hosts = s.hosts := by rw [hosts, hosts, outlines, outlines, runs]
    exact h.begin hfaithful (by rw [hhosts]) (.inl rfl)
  | reworded | created => exact h.begin hfaithful List.prefix_rfl (.inl rfl)
  | checked index v there =>
    unfold Session.check at hfaithful ⊢
    split at hfaithful
    · apply h.begin hfaithful List.prefix_rfl
      refine .inr ⟨index, none, _, rfl, ?_⟩
      simp only [List.forall_mem_map]
      exact fun entry _ => ⟨trivial, entry.1, entry.2, rfl⟩
    · exact h.begin hfaithful List.prefix_rfl (.inl rfl)
  | opened index v listener _ _ there accepted =>
    obtain ⟨plan, -, rfl, hruns, -⟩ := openRun_ok accepted
    have hhosts : s.hosts <+: s'.hosts := ⟨[index], by simp [hosts, outlines, hruns]⟩
    exact h.begin hfaithful hhosts (.inr ⟨index, _, [], rfl, by simp⟩)
  | asked run => exact h.strokes (ask_strokes s run) hfaithful
  | closed run => exact h.strokes (close_strokes s run) hfaithful
  | completed run slot outcome => exact h.strokes (Stroke.operated run _).strokes hfaithful

/-- After any history the ledger of a session is in order. -/
theorem steps_ledger (context : Context) (validators : List Validator) (ops : List Operation) :
    Ledger (steps { context, validators } ops).1 (steps { context, validators } ops).2 := by
  have hinitial : Ledger { context, validators } [] :=
    ⟨faithful_initial context validators, by simp, always_nil, always_nil⟩
  have hmoves := steps_moves { context, validators } ops
  simpa using hmoves.keep (fun _ _ _ _ hmove h => h.move hmove) hinitial

end Session

end FieldRules
