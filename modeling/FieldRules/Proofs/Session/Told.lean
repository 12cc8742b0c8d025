import FieldRules.Proofs.Session.Handles

namespace FieldRules

/-- The run was armed, and every slot that was added has a completion that counts. -/
theorem Run.settled_iff_firstCompletion (ops : List Run.Operation) :
    Run.Settled ops ↔ .arm ∈ ops ∧ ∀ slot < (Run.completions ops).length,
      ∃ outcome, Run.firstCompletion ops slot = some outcome := by
  constructor
  · intro h
    exact ⟨h.1, fun slot hslot => Run.settled_firstCompletion h hslot⟩
  · intro h
    refine ⟨h.1, fun c hc he => ?_⟩
    obtain ⟨slot, hslot, hget⟩ := List.getElem_of_mem hc
    obtain ⟨outcome, hfirst⟩ := h.2 slot hslot
    obtain ⟨rest, hrest⟩ := Run.firstCompletion_some hfirst
    rw [List.getElem?_eq_getElem hslot, hget, he] at hrest
    simp at hrest

namespace Session

/-- The verdicts that the listener of a run was told. -/
def verdictsOf (s : Session) (run : Nat) : List Bool :=
  match s.runs[run]? with
  | some started => started.verdicts
  | none => []

theorem verdictsOf_eq (s : Session) (run : Nat) :
    s.verdictsOf run = ((s.runs.map (·.verdicts))[run]?).getD [] := by
  rw [verdictsOf, List.getElem?_map]
  cases s.runs[run]? <;> rfl

/-- The verdicts that happen are those that are told to the listeners. -/
def Tells (s s' : Session) (events : List Event) : Prop :=
  ∀ run, s'.verdictsOf run = s.verdictsOf run ++ verdicts run events

theorem verdicts_append (run : Nat) (first others : List Event) :
    verdicts run (first ++ others) = verdicts run first ++ verdicts run others :=
  List.filterMap_append

theorem Tells.of_eq {s s' : Session} {events : List Event}
    (h : ∀ run, s'.verdictsOf run = s.verdictsOf run) (hevents : ∀ run, verdicts run events = []) :
    Tells s s' events := by
  intro run
  rw [h run, hevents run, List.append_nil]

theorem Tells.trans {s s' s'' : Session} {events others : List Event} (h : Tells s s' events)
    (h' : Tells s' s'' others) : Tells s s'' (events ++ others) := by
  intro run
  rw [h' run, h run, verdicts_append, List.append_assoc]

theorem verdictsOf_modifyRun (s : Session) (index : Nat) {f : StartedRun → StartedRun}
    (hf : ∀ started, (f started).verdicts = started.verdicts) (run : Nat) :
    (s.modifyRun index f).verdictsOf run = s.verdictsOf run := by
  rw [verdictsOf_eq, modifyRun, map_modify_of_unchanged hf, verdictsOf_eq]

theorem hear_tells (s : Session) {index : Nat} (started : StartedRun) (report : Run.Report)
    (h : index < s.runs.length) :
    Tells s (s.hear index started report).1 (s.hear index started report).2 := by
  cases report with
  | failed f =>
    simp only [hear]
    split <;> exact .of_eq (fun _ => rfl) fun _ => rfl
  | verdict passed =>
    intro run
    have hquiet := verdicts_announce started.listener passed run
    by_cases hr : index = run
    · subst hr
      simp only [hear, verdicts, List.filterMap_cons, Event.verdict?] at hquiet ⊢
      simp [verdictsOf, modifyRun, h, hquiet]
    · simp only [hear, verdicts, List.filterMap_cons, Event.verdict?, if_neg hr] at hquiet ⊢
      rw [hquiet, List.append_nil]
      simp only [verdictsOf, modifyRun, List.getElem?_modify, if_neg hr]
      cases s.runs[run]? <;> rfl

theorem hearAll_tells (s : Session) {index : Nat} (started : StartedRun) (told : List Run.Report)
    (h : index < s.runs.length) :
    Tells s (s.hearAll index started told).1 (s.hearAll index started told).2 := by
  induction told generalizing s with
  | nil => exact .of_eq (fun _ => rfl) fun _ => rfl
  | cons report rest ih =>
    have hlength : (s.hear index started report).1.runs.length = s.runs.length := by
      rw [← length_outlines, unoperated_outlines.hear, length_outlines]
    exact (hear_tells s started report h).trans (ih _ (hlength ▸ h))

theorem operate_tells (s : Session) (index : Nat) (operation : Run.Operation) :
    Tells s (s.operate index operation).1 (s.operate index operation).2 := by
  cases hs : s.runs[index]? with
  | none =>
    rw [operate_missing s index operation hs]
    exact .of_eq (fun _ => rfl) fun _ => rfl
  | some started =>
    have hlt : index < (s.strike index operation started).runs.length := by
      rw [← length_outlines, unoperated_outlines.strike, length_outlines]
      exact (List.getElem?_eq_some_iff.1 hs).1
    have hstruck : Tells s (s.strike index operation started) [.operated index operation] :=
      .of_eq (verdictsOf_modifyRun s index fun _ => rfl) fun _ => rfl
    rw [operate_eq s index operation hs]
    exact hstruck.trans (hearAll_tells _ started _ hlt)

theorem Stroke.tells {s s' : Session} {events : List Event} (h : Stroke s s' events) :
    Tells s s' events := by
  cases h with
  | turned index rest context =>
    exact .of_eq (verdictsOf_modifyRun s index fun _ => rfl) fun _ => rfl
  | handed => exact .of_eq (fun _ => rfl) fun _ => rfl
  | noted e note =>
    refine .of_eq (fun _ => rfl) fun run => ?_
    cases e <;> simp_all [Event.isNote, verdicts, Event.verdict?]
  | operated index operation => exact operate_tells s index operation

theorem Strokes.tells {s s' : Session} {events : List Event} (h : Strokes s s' events) :
    Tells s s' events := by
  induction h with
  | none => exact .of_eq (fun _ => rfl) fun _ => rfl
  | snoc _ last ih => exact ih.trans last.tells

theorem Move.tells {s s' : Session} {events : List Event} (h : Move s s' events) :
    Tells s s' events := by
  cases h with
  | aside _ validators runs =>
    exact .of_eq (fun run => by rw [verdictsOf, runs, verdictsOf]) fun _ => rfl
  | reworded | created => exact .of_eq (fun _ => rfl) fun _ => rfl
  | checked index v there =>
    unfold Session.check
    split
    · refine .of_eq (fun _ => rfl) fun run => List.filterMap_eq_nil_iff.2 ?_
      simp only [List.forall_mem_cons, List.forall_mem_map]
      exact ⟨rfl, fun _ _ => rfl⟩
    · exact .of_eq (fun _ => rfl) fun _ => rfl
  | opened index v listener _ _ there accepted =>
    obtain ⟨plan, -, rfl, hruns, -⟩ := openRun_ok accepted
    refine .of_eq (fun run => ?_) fun _ => rfl
    simp only [verdictsOf, hruns, List.getElem?_append]
    by_cases hlt : run < s.runs.length
    · rw [if_pos hlt]
    · rw [if_neg hlt, List.getElem?_eq_none (l := s.runs) (by omega)]
      cases run - s.runs.length <;> rfl
  | asked run => exact (ask_strokes s run).tells
  | closed run => exact (close_strokes s run).tells
  | completed run slot outcome => exact operate_tells s run _

theorem Moves.tells {s s' : Session} {events : List Event} (h : Moves s s' events) :
    Tells s s' events := by
  induction h with
  | none => exact .of_eq (fun _ => rfl) fun _ => rfl
  | snoc _ last ih => exact ih.trans last.tells

/-- A session keeps the verdicts that happened in it. -/
theorem acts_verdictsOf (context : Context) (validators : List Validator) (deeds : List Deed)
    (run : Nat) :
    (acts { context, validators } deeds).1.verdictsOf run =
      verdicts run (acts { context, validators } deeds).2 := by
  simpa [verdictsOf] using (acts_moves { context, validators } deeds).tells run

section Closed

variable {s : Session} {events : List Event} {run : Nat} (h : Faithful s events)
include h

/-- What counts for a slot when a run is settled counts ever after. -/
theorem Faithful.firstCompletion_eq {past : List Event} (hp : past <+: events)
    (hsettled : Run.Settled (operations run past)) (slot : Nat) :
    Run.firstCompletion (operations run events) slot =
      Run.firstCompletion (operations run past) slot := by
  have hcount := h.slotCount_eq hp hsettled.1
  obtain ⟨others, rfl⟩ := hp
  by_cases hslot : slot < slotCount run past
  · obtain ⟨outcome, hfirst⟩ := Run.settled_firstCompletion hsettled hslot
    rw [operations_append, Run.firstCompletion_append hfirst, hfirst]
  · have hnone {history : List Event} (hc : slotCount run history = slotCount run past) :
        Run.firstCompletion (operations run history) slot = none := by
      apply Option.eq_none_iff_forall_ne_some.2
      intro outcome hfirst
      exact hslot (hc ▸ Run.firstCompletion_lt hfirst)
    rw [hnone hcount.symm, hnone rfl]

theorem Faithful.settled_of_prefix {past : List Event} (hp : past <+: events)
    (hsettled : Run.Settled (operations run past)) : Run.Settled (operations run events) := by
  have hcount := h.slotCount_eq hp hsettled.1
  have hfirst := h.firstCompletion_eq hp hsettled
  rw [Run.settled_iff_firstCompletion] at hsettled ⊢
  refine ⟨mem_operations.2 (hp.subset (mem_operations.1 hsettled.1)), fun slot hslot => ?_⟩
  rw [slotCount, slotCount] at hcount
  rw [hfirst slot]
  exact hsettled.2 slot (by omega)

/-- The verdict of a run is there if and only if the run is settled, and then it says whether no slot
failed. -/
theorem Faithful.head_verdicts_iff (passed : Bool) :
    (verdicts run events).head? = some passed ↔
      Run.Settled (operations run events) ∧
        (passed = true ↔ Run.Unfailed (operations run events)) := by
  have hmem {given : Bool} : given ∈ verdicts run events ↔ .verdict run given ∈ events := by
    rw [verdicts_eq, Run.mem_verdicts, mem_reports_verdict]
  have hright {given : Bool} (hg : .verdict run given ∈ events) :
      Run.Settled (operations run events) ∧
        (given = true ↔ Run.Unfailed (operations run events)) := by
    obtain ⟨past, hp, hdue⟩ := h.due hg
    have hpast : past <+: events := (List.prefix_append past _).trans hp
    refine ⟨h.settled_of_prefix hpast hdue.settled, ?_⟩
    rw [hdue.2, Run.unfailed_iff_firstCompletion, Run.unfailed_iff_firstCompletion]
    simp only [h.firstCompletion_eq hpast hdue.settled]
  constructor
  · intro hhead
    exact hright (hmem.1 (List.mem_of_head? hhead))
  · intro hboth
    obtain ⟨hsettled, hpassed⟩ := hboth
    obtain ⟨given, hg⟩ := (h.settled_iff run).1 ⟨_, List.prefix_rfl, hsettled⟩
    have hsame : given = passed := by
      rw [Bool.eq_iff_iff, (hright hg).2, hpassed]
    obtain ⟨only, hrest⟩ : ∃ only, verdicts run events = [only] := by
      have hlength := h.length_verdicts run
      have hpos := List.length_pos_of_mem (hmem.2 hg)
      exact List.length_eq_one_iff.1 (by omega)
    have honly := hmem.2 hg
    rw [hrest, List.mem_singleton] at honly
    rw [hrest, ← hsame, honly]
    rfl

/-- The verdicts of a run are known from what was done with it. -/
theorem Faithful.verdicts_congr {s' : Session} {history : List Event} (h' : Faithful s' history)
    (hsame : operations run history = operations run events) :
    verdicts run history = verdicts run events := by
  have hsteps := h'.alone.steps run
  rw [hsame, h.alone.steps run] at hsteps
  rw [verdicts_eq, verdicts_eq, (Prod.mk.inj hsteps).2]

end Closed

end Session

end FieldRules
