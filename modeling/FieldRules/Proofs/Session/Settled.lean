import FieldRules.Proofs.Session.Schedule

namespace FieldRules.Session

/-- Every synchronous rule of the run accepted, and the first completion of every asynchronous slot
of it is a pass. -/
def Passing (run : Nat) (past : List Event) : Prop :=
  (∀ slot accepted, .judged run slot accepted ∈ past → accepted = true) ∧
    ∀ slot rule field, .called run slot rule field ∈ past →
      ∃ outcome, Run.firstCompletion (operations run past) slot = some outcome ∧
        outcome.passed = true

section Faithful

variable {s : Session} {events past : List Event} {run : Nat}

theorem Faithful.length_verdicts (h : Faithful s events) (run : Nat) :
    (verdicts run events).length ≤ 1 := by
  have hlen := Run.length_verdicts (operations run events)
  rw [h.alone.steps run] at hlen
  rw [verdicts_eq, hlen]
  exact Bool.toNat_le _

theorem Faithful.settled_iff (h : Faithful s events) (run : Nat) :
    (∃ earlier, earlier <+: operations run events ∧ Run.Settled earlier) ↔
      ∃ passed, .verdict run passed ∈ events := by
  have hlen := Run.length_verdicts (operations run events)
  rw [h.alone.steps run] at hlen
  rw [← (Run.after_tracks (operations run events)).fired]
  simp only [← mem_reports_verdict, ← Run.mem_verdicts]
  constructor
  · intro hfired
    rw [hfired] at hlen
    obtain ⟨passed, heq⟩ := List.length_eq_one_iff.1 hlen
    exact ⟨passed, by simp [heq]⟩
  · intro hin
    obtain ⟨passed, hm⟩ := hin
    cases hfired : (Run.after (operations run events)).fired with
    | true => rfl
    | false =>
      rw [hfired] at hlen
      have hnone := List.length_eq_zero_iff.1 hlen
      simp [hnone] at hm

/-- Once a run is closed to questions it gets no more slots. -/
theorem Faithful.slotCount_eq (h : Faithful s events) (hp : past <+: events)
    (harmed : .arm ∈ operations run past) : slotCount run past = slotCount run events := by
  obtain ⟨others, rfl⟩ := hp
  have hfinal := h.orderly.final
  clear h
  induction others using List.reverseRecOn with
  | nil => simp
  | append_singleton others e ih =>
    rw [← List.append_assoc] at hfinal ⊢
    obtain ⟨hrest, hlast⟩ := always_snoc.1 hfinal
    rw [ih hrest, slotCount, slotCount, operations_append run (past ++ others)]
    have hstill : .arm ∈ operations run (past ++ others) := by
      rw [operations_append]
      exact List.mem_append_left _ harmed
    cases ho : e.operation? run with
    | none => simp [ho]
    | some operation =>
      have he : e = .operated run operation := by
        cases e <;> simp_all [Event.operation?]
      have hcomplete : ¬ IsScheduling operation := fun hs => hlast run operation he hs hstill
      simp only [operations_cons, operations_nil, ho, Option.toList_some, List.append_nil,
        Run.length_completions_snoc]
      cases operation <;> simp_all [IsScheduling]

/-- A run that is closed to questions had the rule of every slot asked before. -/
theorem Faithful.asked_of_armed (h : Faithful s events) (hp : past <+: events)
    (harmed : .arm ∈ operations run past) : Asked run past := by
  obtain ⟨before, others, hsplit⟩ := List.append_of_mem (mem_operations.1 harmed)
  have hbefore : before ++ [.operated run .arm] <+: events :=
    List.IsPrefix.trans ⟨others, by simp [hsplit]⟩ hp
  have hasked := (h.orderly.scheduled before _ hbefore run rfl).1
  have hcount : slotCount run past = slotCount run (before ++ [.operated run .arm]) := by
    have harm : .arm ∈ operations run (before ++ [.operated run .arm]) := by
      rw [mem_operations]
      simp
    rw [h.slotCount_eq hp harmed, h.slotCount_eq hbefore harm]
  have hsame : slotCount run (before ++ [.operated run .arm]) = slotCount run before := by
    rw [slotCount, operations_append, operations_operated, if_pos rfl, Run.length_completions_snoc]
    rfl
  intro slot hslot
  rw [hcount, hsame] at hslot
  rcases hasked slot hslot with ⟨accepted, hj⟩ | ⟨rule, field, hc⟩
  · exact .inl ⟨accepted, by simp [hsplit, hj]⟩
  · exact .inr ⟨rule, field, by simp [hsplit, hc]⟩

/-- A settled run failed nothing if and only if all its rules passed. -/
theorem Faithful.unfailed_iff (h : Faithful s events) (hp : past <+: events)
    (hsettled : Run.Settled (operations run past)) :
    Run.Unfailed (operations run past) ↔ Passing run past := by
  have hcount := h.slotCount_eq hp hsettled.1
  have hsame (slot : Nat) (outcome : Outcome)
      (hf : Run.firstCompletion (operations run past) slot = some outcome) :
      Run.firstCompletion (operations run events) slot = some outcome := by
    obtain ⟨others, rfl⟩ := hp
    rw [operations_append]
    exact Run.firstCompletion_append hf _
  have hfirst (slot : Nat) (hslot : slot < slotCount run events) :
      ∃ outcome, Run.firstCompletion (operations run past) slot = some outcome := by
    rw [← hcount] at hslot
    exact Run.settled_firstCompletion hsettled hslot
  have hjudged (slot : Nat) (accepted : Bool) (hj : .judged run slot accepted ∈ past) :
      Run.firstCompletion (operations run past) slot = some (.ofBool accepted) := by
    have hin := h.orderly.judged run slot accepted (hp.subset hj)
    obtain ⟨outcome, hf⟩ := hfirst slot (Run.firstCompletion_lt hin)
    rw [hf, ← hsame slot outcome hf, hin]
  rw [Run.unfailed_iff_firstCompletion]
  constructor
  · intro hpass
    refine ⟨fun slot accepted hj => ?_, fun slot rule field hc => ?_⟩
    · have := hpass slot _ (hjudged slot accepted hj)
      cases accepted with
      | true => rfl
      | false => simp [Outcome.ofBool, Outcome.passed] at this
    · obtain ⟨outcome, hf⟩ := hfirst slot (h.orderly.called run slot rule field (hp.subset hc))
      exact ⟨outcome, hf, hpass slot outcome hf⟩
  · intro hin slot outcome hf
    obtain ⟨hj, hc⟩ := hin
    rcases h.asked_of_armed hp hsettled.1 slot (Run.firstCompletion_lt hf) with
      ⟨accepted, hm⟩ | ⟨rule, field, hm⟩
    · have hin := hjudged slot accepted hm
      rw [hf, hj slot accepted hm] at hin
      rw [Option.some.inj hin]
      rfl
    · obtain ⟨other, ho, hpass⟩ := hc slot rule field hm
      rw [hf] at ho
      rwa [Option.some.inj ho]

theorem Faithful.due (h : Faithful s events) {passed : Bool}
    (hm : .verdict run passed ∈ events) :
    ∃ past, past ++ [.verdict run passed] <+: events ∧ Due run passed past := by
  obtain ⟨past, rest, hsplit⟩ := List.append_of_mem hm
  have hp : past ++ [.verdict run passed] <+: events := ⟨rest, by simp [hsplit]⟩
  exact ⟨past, hp, h.alone.prompt past _ hp run passed rfl⟩

theorem Due.settled {passed : Bool} (h : Due run passed past) :
    Run.Settled (operations run past) := by
  obtain ⟨⟨earlier, op, heq, hfirst⟩, -⟩ := h
  rw [heq]
  exact hfirst.1

/-- A run without slots has its verdict as soon as it is closed to questions, and passes. -/
theorem Faithful.verdict_of_no_slots {others : List Event} (h : Faithful s (events ++ others))
    (hnone : ∀ failure, .operated run (.add failure) ∉ events ++ others)
    (harm : .operated run .arm ∈ others) : .verdict run true ∈ others := by
  have hempty {past : List Event} (hp : past <+: events ++ others) :
      Run.completions (operations run past) = [] := by
    apply Run.completions_eq_nil
    intro failure hm
    exact hnone failure (hp.subset (mem_operations.1 hm))
  have hnew : .arm ∉ operations run events := by
    obtain ⟨before, rest, hsplit⟩ := List.append_of_mem harm
    have hp : (events ++ before) ++ [.operated run .arm] <+: events ++ others :=
      ⟨rest, by simp [hsplit]⟩
    have hfinal := h.orderly.final _ _ hp run .arm rfl trivial
    rw [operations_append, List.mem_append, not_or] at hfinal
    exact hfinal.1
  have hsettled : Run.Settled (operations run (events ++ others)) := by
    refine ⟨mem_operations.2 (List.mem_append_right _ harm), ?_⟩
    rw [hempty List.prefix_rfl]
    simp
  obtain ⟨passed, hm⟩ := (h.settled_iff run).1 ⟨_, List.prefix_rfl, hsettled⟩
  obtain ⟨past, hp, hdue⟩ := h.due hm
  have hpast : past <+: events ++ others := (List.prefix_append past _).trans hp
  have hpassed : passed = true := by
    rw [hdue.2, Run.Unfailed, hempty hpast]
    simp
  rw [hpassed, List.mem_append] at hm
  refine hm.resolve_left fun hearly => hnew ?_
  -- a verdict among the earlier events would come after the run was closed
  obtain ⟨before, rest, hsplit⟩ := List.append_of_mem hearly
  have hbefore : before ++ [.verdict run true] <+: events ++ others :=
    ⟨rest ++ others, by simp [hsplit]⟩
  have harmed := (h.alone.prompt before _ hbefore run true rfl).settled.1
  rw [hsplit, operations_append]
  exact List.mem_append_left _ harmed

end Faithful

end FieldRules.Session
