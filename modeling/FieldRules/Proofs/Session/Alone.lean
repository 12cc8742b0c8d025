import FieldRules.Proofs.Run.Verdict
import FieldRules.Proofs.Session.Stroke

namespace FieldRules

namespace Event

def verdict? (run : Nat) : Event → Option Bool
  | verdict r passed => if r = run then some passed else none
  | _ => none

/-- Whether the event neither does something with a run nor is told by one. -/
def isAside : Event → Bool
  | operated _ _ | verdict _ _ | recorded _ (some _) _ _ => false
  | _ => true

end Event

namespace Session

/-- The verdicts of a run, in order. -/
def verdicts (run : Nat) (events : List Event) : List Bool :=
  events.filterMap (Event.verdict? run)

theorem verdicts_eq (run : Nat) (events : List Event) :
    verdicts run events = Run.verdicts (reports run events) := by
  rw [verdicts, Run.verdicts, reports, List.filterMap_filterMap]
  apply List.filterMap_congr
  intro e _
  cases e with
  | verdict r passed =>
    by_cases h : r = run <;> simp [Event.verdict?, Event.report?, Run.Report.verdict?, h]
  | recorded index r failure message =>
    cases r with
    | none => rfl
    | some r => by_cases h : r = run <;> simp [Event.verdict?, Event.report?, Run.Report.verdict?, h]
  | _ => rfl

theorem mem_reports_verdict (run : Nat) (passed : Bool) (events : List Event) :
    .verdict passed ∈ reports run events ↔ .verdict run passed ∈ events := by
  simp only [reports, List.mem_filterMap]
  constructor
  · intro hin
    obtain ⟨e, he, hr⟩ := hin
    cases e with
    | verdict r p =>
      by_cases h : r = run <;> simp [Event.report?, h] at hr
      rwa [← h, ← hr]
    | recorded index r failure message =>
      cases r with
      | none => simp [Event.report?] at hr
      | some r => by_cases h : r = run <;> simp [Event.report?, h] at hr
    | _ => simp [Event.report?] at hr
  · intro h
    exact ⟨_, h, by simp [Event.report?]⟩

/-- The property holds of every event of a history and what was before it. -/
def Always (P : List Event → Event → Prop) (events : List Event) : Prop :=
  ∀ past e, past ++ [e] <+: events → P past e

section Always

variable {P : List Event → Event → Prop} {events others : List Event}

theorem always_nil : Always P [] := by
  intro past e h
  simp at h

theorem always_snoc {e : Event} : Always P (events ++ [e]) ↔ Always P events ∧ P events e := by
  constructor
  · intro h
    refine ⟨fun past e' hp => h past e' (hp.trans (List.prefix_append _ _)), ?_⟩
    exact h events e List.prefix_rfl
  · intro hin past e' hp
    obtain ⟨h, he⟩ := hin
    rcases List.prefix_concat_iff.1 hp with heq | hp
    · obtain ⟨rfl, rfl⟩ := List.append_singleton_inj.1 heq
      exact he
    · exact h past e' hp

theorem Always.append (h : Always P events)
    (ho : ∀ past e rest, others = past ++ e :: rest → P (events ++ past) e) :
    Always P (events ++ others) := by
  induction others using List.reverseRecOn with
  | nil => simpa using h
  | append_singleton others e ih =>
    rw [← List.append_assoc, always_snoc]
    refine ⟨ih fun past e' rest heq => ?_, ho others e [] rfl⟩
    exact ho past e' (rest ++ [e]) (by simp [heq])

end Always

/-- The last operation of a run settled it for the first time, and the verdict is the right one. -/
def Due (run : Nat) (passed : Bool) (past : List Event) : Prop :=
  (∃ earlier op, operations run past = earlier ++ [op] ∧ Run.FirstSettled earlier op) ∧
    (passed = true ↔ Run.Unfailed (operations run past))

/-- The runs of a session go as they would alone. -/
structure Alone (s : Session) (events : List Event) : Prop where
  present : ∀ index ∈ s.hosts, index < s.specs.length
  steps : ∀ run, Run.steps {} (operations run events) = (s.runOf run, reports run events)
  prompt : Always (fun past e => ∀ run passed, e = .verdict run passed → Due run passed past) events

theorem Alone.runOf {s : Session} {events : List Event} (h : Alone s events) (run : Nat) :
    s.runOf run = Run.after (operations run events) := by
  rw [Run.after, h.steps run]

theorem Alone.armed_iff {s : Session} {events : List Event} (h : Alone s events) (run : Nat) :
    (s.runOf run).armed = true ↔ .arm ∈ operations run events := by
  rw [h.runOf run]
  exact (Run.after_tracks _).armed

theorem Alone.length_slots {s : Session} {events : List Event} (h : Alone s events) (run : Nat) :
    (s.runOf run).slots.length = (Run.completions (operations run events)).length := by
  rw [h.runOf run]
  exact (Run.after_tracks _).length_slots

theorem operations_of_isAside {events : List Event} (h : ∀ e ∈ events, e.isAside = true)
    (run : Nat) : operations run events = [] := by
  rw [operations, List.filterMap_eq_nil_iff]
  intro e he
  have := h e he
  cases e <;> simp_all [Event.isAside, Event.operation?]

theorem reports_of_isAside {events : List Event} (h : ∀ e ∈ events, e.isAside = true)
    (run : Nat) : reports run events = [] := by
  rw [reports, List.filterMap_eq_nil_iff]
  intro e he
  have := h e he
  cases e with
  | recorded index r failure message => cases r <;> simp_all [Event.isAside, Event.report?]
  | _ => simp_all [Event.isAside, Event.report?]

/-- Moves that let all runs alone. -/
theorem Alone.aside {s s' : Session} {events others : List Event} (h : Alone s events)
    (hpresent : ∀ index ∈ s'.hosts, index < s'.specs.length)
    (hrun : ∀ run, s'.runOf run = s.runOf run) (hside : ∀ e ∈ others, e.isAside = true) :
    Alone s' (events ++ others) := by
  refine ⟨hpresent, ?_, ?_⟩
  · intro run
    rw [operations_append, reports_append, operations_of_isAside hside,
      reports_of_isAside hside, hrun, List.append_nil, List.append_nil, h.steps]
  · apply h.prompt.append
    intro past e rest hsplit run passed he
    subst he
    have hv := hside (.verdict run passed) (by simp [hsplit])
    simp [Event.isAside] at hv

theorem Alone.operate {s : Session} {events : List Event} (h : Alone s events) (index : Nat)
    (operation : Run.Operation) :
    Alone (s.operate index operation).1 (events ++ (s.operate index operation).2) := by
  refine ⟨?_, ?_, ?_⟩
  · rw [hosts, outlines_operate, specs_operate]
    exact h.present
  · intro run
    rw [operations_append, reports_append, operations_operate,
      reports_operate s index operation h.present run, runOf_operate]
    by_cases hc : index = run ∧ index < s.runs.length
    · rw [if_pos hc, if_pos hc, if_pos hc, Run.steps_snoc, h.steps run]
    · rw [if_neg hc, if_neg hc, if_neg hc, List.append_nil, List.append_nil, h.steps run]
  · apply h.prompt.append
    intro past e rest hsplit run passed he
    subst he
    have hreport : Run.Report.verdict passed ∈ reports run (s.operate index operation).2 := by
      rw [mem_reports_verdict]
      simp [hsplit]
    rw [reports_operate s index operation h.present run] at hreport
    by_cases hc : index = run ∧ index < s.runs.length
    · rw [if_pos hc, h.runOf run, Run.verdict_mem_step_iff] at hreport
      -- before the verdict there are the operation and reports only
      have hpast : operations run past = [operation] := by
        rcases operate_events s index operation with hnone | ⟨told, heq, htold⟩
        · simp [hnone] at hsplit
        · rw [heq] at hsplit
          cases past with
          | nil => simp at hsplit
          | cons first past =>
            obtain ⟨rfl, hrest⟩ := List.cons.inj hsplit
            have hreports : ∀ e ∈ past, e.isReport = true :=
              fun e he => htold e (by simp [hrest, he])
            rw [operations_cons, operations_eq_nil hreports]
            simp [Event.operation?, hc.1]
      refine ⟨⟨operations run events, operation, ?_, hreport.1⟩, ?_⟩
      · rw [operations_append, hpast]
      · rw [operations_append, hpast]
        exact hreport.2
    · rw [if_neg hc] at hreport
      simp at hreport

theorem isAside_of_isNote {e : Event} (h : e.isNote = true) : e.isAside = true := by
  cases e <;> simp_all [Event.isNote, Event.isAside]

theorem Alone.stroke {s s' : Session} {events others : List Event} (hstroke : Stroke s s' others)
    (h : Alone s events) : Alone s' (events ++ others) := by
  have hpresent : ∀ index ∈ s'.hosts, index < s'.specs.length := by
    rw [hstroke.hosts, hstroke.specs]
    exact h.present
  cases hstroke with
  | turned index rest context => exact h.aside hpresent (runOf_advance s index rest context) (by simp)
  | handed => exact h.aside hpresent (fun _ => rfl) (by simp)
  | noted e note =>
    apply h.aside hpresent (fun _ => rfl)
    simp [isAside_of_isNote note]
  | operated index operation => exact h.operate index operation

theorem Alone.strokes {s s' : Session} {events others : List Event}
    (hstrokes : Strokes s s' others) (h : Alone s events) : Alone s' (events ++ others) :=
  hstrokes.keep (fun _ _ _ _ hstroke h => h.stroke hstroke) h

end Session

end FieldRules
