import FieldRules.Engine.Run
import Mathlib.Data.List.Basic
import Mathlib.Data.List.Infix

namespace FieldRules

def Slot.isResolved : Slot → Bool
  | waiting _ => false
  | resolved => true

namespace Run

/-- Notes an operation in the completions of the slots. -/
def note (noted : List (List Outcome)) : Operation → List (List Outcome)
  | .add _ => noted ++ [[]]
  | .complete slot outcome => noted.modify slot (· ++ [outcome])
  | .arm => noted

/-- The completions of each slot that was added, in the order in which they came. -/
def completions (ops : List Operation) : List (List Outcome) := ops.foldl note []

/-- The run was armed, and every slot that was added has been completed. -/
def Settled (ops : List Operation) : Prop := .arm ∈ ops ∧ ∀ c ∈ completions ops, c ≠ []

/-- No slot has a failing first completion. -/
def Unfailed (ops : List Operation) : Prop :=
  ∀ c ∈ completions ops, ∀ outcome, c.head? = some outcome → outcome.passed = true

def isCompleted (c : List Outcome) : Bool := !c.isEmpty

/-- Whether the first of the completions of a slot fails. -/
def isFailed (c : List Outcome) : Bool := c.head?.any (!·.passed)

theorem completions_snoc (ops : List Operation) (op : Operation) :
    completions (ops ++ [op]) = note (completions ops) op := by
  simp [completions]

theorem settled_iff (ops : List Operation) :
    Settled ops ↔
      .arm ∈ ops ∧ (completions ops).length ≤ (completions ops).countP isCompleted := by
  have hle := List.countP_le_length (p := isCompleted) (l := completions ops)
  have hall : (completions ops).countP isCompleted = (completions ops).length ↔
      ∀ c ∈ completions ops, c ≠ [] := by
    simp [List.countP_eq_length, isCompleted]
  rw [Settled, ← hall]
  exact and_congr_right fun _ => by omega

theorem unfailed_iff (ops : List Operation) :
    Unfailed ops ↔ (completions ops).countP isFailed = 0 := by
  simp only [Unfailed, List.countP_eq_zero, isFailed]
  constructor
  · intro h c hc
    cases hh : c.head? with
    | none => simp
    | some outcome => simp [h c hc outcome hh]
  · intro h c hc outcome hh
    simpa [hh] using h c hc

theorem countP_modify {α : Type} (p : α → Bool) (f : α → α) (l : List α) (i : Nat)
    (h : ∀ a, l[i]? = some a → p (f a) = p a) : (l.modify i f).countP p = l.countP p := by
  induction l generalizing i with
  | nil => simp
  | cons b rest ih =>
    cases i with
    | zero => simp [List.countP_cons, h b (by simp)]
    | succ i => simp [List.countP_cons, ih i (by simpa using h)]

theorem countP_modify_succ {α : Type} (p : α → Bool) (f : α → α) (l : List α) (i : Nat) (a : α)
    (hi : l[i]? = some a) (ha : p a = false) (hf : p (f a) = true) :
    (l.modify i f).countP p = l.countP p + 1 := by
  induction l generalizing i with
  | nil => simp at hi
  | cons b rest ih =>
    cases i with
    | zero =>
      have hb : b = a := by simpa using hi
      simp [hb, ha, hf]
    | succ i =>
      simp only [List.modify_succ_cons, List.countP_cons, ih i (by simpa using hi)]
      omega

/-- The completion that counts for a slot. -/
def firstCompletion (ops : List Operation) (slot : Nat) : Option Outcome :=
  (completions ops)[slot]?.bind List.head?

theorem firstCompletion_some {ops : List Operation} {slot : Nat} {outcome : Outcome}
    (h : firstCompletion ops slot = some outcome) :
    ∃ rest, (completions ops)[slot]? = some (outcome :: rest) := by
  obtain ⟨c, hc, hhead⟩ := Option.bind_eq_some_iff.1 h
  obtain ⟨rest, rfl⟩ := List.head?_eq_some_iff.1 hhead
  exact ⟨rest, hc⟩

theorem firstCompletion_lt {ops : List Operation} {slot : Nat} {outcome : Outcome}
    (h : firstCompletion ops slot = some outcome) : slot < (completions ops).length := by
  obtain ⟨rest, hc⟩ := firstCompletion_some h
  exact (List.getElem?_eq_some_iff.1 hc).1

theorem length_completions_snoc (ops : List Operation) (op : Operation) :
    (completions (ops ++ [op])).length =
      (completions ops).length + match op with | .add _ => 1 | _ => 0 := by
  rw [completions_snoc]
  cases op <;> simp [note]

/-- Without slots there is nothing to complete. -/
theorem completions_eq_nil {ops : List Operation} (h : ∀ failure, .add failure ∉ ops) :
    completions ops = [] := by
  induction ops using List.reverseRecOn with
  | nil => rfl
  | append_singleton ops op ih =>
    have hrest : completions ops = [] := ih fun failure hm => h failure (by simp [hm])
    rw [completions_snoc, hrest]
    cases op with
    | add failure => exact absurd (by simp) (h failure)
    | arm | complete => simp [note]

/-- What an operation does to the first completion of a slot. -/
theorem firstCompletion_snoc (ops : List Operation) (op : Operation) (slot : Nat) :
    firstCompletion (ops ++ [op]) slot =
      match op with
      | .complete other outcome =>
        if other = slot ∧ (completions ops)[slot]? = some [] then some outcome
        else firstCompletion ops slot
      | _ => firstCompletion ops slot := by
  rw [firstCompletion, firstCompletion, completions_snoc]
  cases op with
  | add failure =>
    simp only [note, List.getElem?_append]
    split
    · rfl
    · next hge =>
      rw [List.getElem?_eq_none (l := completions ops) (by omega)]
      cases slot - (completions ops).length <;> rfl
  | arm => rfl
  | complete other outcome =>
    by_cases ho : other = slot
    · subst ho
      cases hc : (completions ops)[other]? with
      | none => simp [note, hc]
      | some c => cases c <;> simp [note, hc]
    · simp [note, ho]

/-- What was the first completion stays the first. -/
theorem firstCompletion_append {ops : List Operation} {slot : Nat} {outcome : Outcome}
    (h : firstCompletion ops slot = some outcome) (others : List Operation) :
    firstCompletion (ops ++ others) slot = some outcome := by
  induction others using List.reverseRecOn with
  | nil => simpa using h
  | append_singleton others op ih =>
    obtain ⟨rest, hc⟩ := firstCompletion_some ih
    rw [← List.append_assoc, firstCompletion_snoc, ih]
    cases op <;> simp [hc]

/-- A completion of the slot that was added last is its first one. -/
theorem firstCompletion_new (ops : List Operation) (failure : Failure) (outcome : Outcome) :
    firstCompletion (ops ++ [.add failure, .complete (completions ops).length outcome])
      (completions ops).length = some outcome := by
  have heq : ops ++ [.add failure, .complete (completions ops).length outcome] =
      (ops ++ [.add failure]) ++ [.complete (completions ops).length outcome] := by simp
  rw [heq, firstCompletion, completions_snoc, completions_snoc]
  simp [note]

theorem settled_firstCompletion {ops : List Operation} (h : Settled ops) {slot : Nat}
    (hs : slot < (completions ops).length) : ∃ outcome, firstCompletion ops slot = some outcome := by
  have hne := h.2 _ (List.getElem_mem hs)
  obtain ⟨outcome, rest, hc⟩ := List.exists_cons_of_ne_nil hne
  exact ⟨outcome, by simp [firstCompletion, List.getElem?_eq_getElem hs, hc]⟩

theorem unfailed_iff_firstCompletion (ops : List Operation) :
    Unfailed ops ↔ ∀ slot outcome, firstCompletion ops slot = some outcome →
      outcome.passed = true := by
  constructor
  · intro h slot outcome hf
    obtain ⟨rest, hc⟩ := firstCompletion_some hf
    exact h _ (List.mem_of_getElem? hc) outcome rfl
  · intro h c hc outcome hhead
    obtain ⟨slot, hs⟩ := List.mem_iff_getElem?.1 hc
    exact h slot outcome (by simp [firstCompletion, hs, hhead])

/-- The state of a run, apart from whether the verdict was given, is that of its history. -/
structure Counts (r : Run) (ops : List Operation) : Prop where
  slots : r.slots.map Slot.isResolved = (completions ops).map isCompleted
  resolved : r.resolved = (completions ops).countP isCompleted
  failed : r.failed = (completions ops).countP isFailed
  armed : r.armed = true ↔ .arm ∈ ops

/-- The verdict was given if and only if it has been due at some time. -/
structure Tracks (r : Run) (ops : List Operation) : Prop extends Counts r ops where
  fired : r.fired = true ↔ ∃ earlier, earlier <+: ops ∧ Settled earlier

namespace Counts

variable {r : Run} {ops : List Operation}

theorem length_slots (h : Counts r ops) : r.slots.length = (completions ops).length := by
  simpa using congrArg List.length h.slots

/-- A slot waits as long as it has no completion. -/
theorem waiting_iff (h : Counts r ops) (slot : Nat) :
    (∃ failure, r.slots[slot]? = some (.waiting failure)) ↔ (completions ops)[slot]? = some [] := by
  have hs := congrArg (·[slot]?) h.slots
  simp only [List.getElem?_map] at hs
  cases hr : r.slots[slot]? with
  | none =>
    have hc : (completions ops)[slot]? = none := by simpa [hr] using hs.symm
    simp [hc]
  | some state =>
    cases hc : (completions ops)[slot]? with
    | none => simp [hr, hc] at hs
    | some c => cases state <;> cases c <;> simp_all [Slot.isResolved, isCompleted]

theorem settled_iff (h : Counts r ops) :
    Settled ops ↔ r.armed = true ∧ r.slots.length ≤ r.resolved := by
  rw [Run.settled_iff, h.armed, h.length_slots, h.resolved]

theorem unfailed_iff (h : Counts r ops) : Unfailed ops ↔ r.failed = 0 := by
  rw [Run.unfailed_iff, h.failed]

end Counts

theorem fireIfDone_counts {r : Run} {ops : List Operation} (h : Counts r ops) :
    Counts (fireIfDone r).1 ops := by
  unfold fireIfDone
  split <;> exact ⟨h.slots, h.resolved, h.failed, h.armed⟩

/-- The run with a slot resolved and counted, before the verdict is thought of. -/
def resolve (r : Run) (slot : Nat) (outcome : Outcome) : Run :=
  { r with
    slots := r.slots.set slot .resolved
    resolved := r.resolved + 1
    failed := r.failed + (!outcome.passed).toNat }

/-- What is told of a slot that was waiting. -/
def failedReports (failure : Failure) (outcome : Outcome) : List Report :=
  if outcome.passed then [] else [.failed { failure with message := outcome.message? }]

theorem complete_cases (r : Run) (slot : Nat) (outcome : Outcome) :
    (∃ failure, r.slots[slot]? = some (.waiting failure) ∧
      r.complete slot outcome =
        ((r.resolve slot outcome).fireIfDone.1,
          failedReports failure outcome ++ (r.resolve slot outcome).fireIfDone.2)) ∨
    ((∀ failure, r.slots[slot]? ≠ some (.waiting failure)) ∧ r.complete slot outcome = (r, [])) := by
  cases hs : r.slots[slot]? with
  | none => exact .inr ⟨by simp, by simp [complete, hs]⟩
  | some state =>
    cases state with
    | waiting failure =>
      refine .inl ⟨failure, rfl, ?_⟩
      cases ho : outcome.passed <;> simp [complete, count, resolve, failedReports, hs, ho]
    | resolved => exact .inr ⟨by simp, by simp [complete, hs]⟩

theorem fireIfDone_fired (r : Run) :
    (fireIfDone r).1.fired = (r.fired || (r.armed && decide (r.slots.length ≤ r.resolved))) := by
  unfold fireIfDone
  split <;> grind

theorem tracks_initial : Tracks {} [] := by
  refine ⟨⟨rfl, rfl, rfl, by simp⟩, ?_⟩
  simp [Settled]

theorem exists_settled_snoc {ops : List Operation} {op : Operation} :
    (∃ earlier, earlier <+: ops ++ [op] ∧ Settled earlier) ↔
      (∃ earlier, earlier <+: ops ∧ Settled earlier) ∨ Settled (ops ++ [op]) := by
  simp only [List.prefix_concat_iff]
  grind

/-- A step that neither settles the run nor changes the mark keeps the invariant. -/
theorem Tracks.quiet {r r' : Run} {ops : List Operation} {op : Operation} (h : Tracks r ops)
    (hc : Counts r' (ops ++ [op])) (hf : r'.fired = r.fired)
    (hs : Settled (ops ++ [op]) → Settled ops) : Tracks r' (ops ++ [op]) := by
  refine ⟨hc, ?_⟩
  rw [hf, h.fired, exists_settled_snoc]
  exact ⟨.inl, fun h => h.elim id fun hn => ⟨ops, List.prefix_refl ops, hs hn⟩⟩

/-- Giving the verdict when it is due keeps the invariant. -/
theorem Tracks.fire {r r' : Run} {ops : List Operation} {op : Operation} (h : Tracks r ops)
    (hc : Counts r' (ops ++ [op])) (hf : r'.fired = r.fired) :
    Tracks (fireIfDone r').1 (ops ++ [op]) := by
  refine ⟨fireIfDone_counts hc, ?_⟩
  rw [fireIfDone_fired, exists_settled_snoc, hc.settled_iff, ← h.fired, hf]
  simp

theorem counts_add {r : Run} {ops : List Operation} (h : Counts r ops) (failure : Failure) :
    Counts (r.add failure) (ops ++ [.add failure]) where
  slots := by simp [add, completions_snoc, note, h.slots, Slot.isResolved, isCompleted]
  resolved := by simp [add, completions_snoc, note, h.resolved, isCompleted]
  failed := by simp [add, completions_snoc, note, h.failed, isFailed]
  armed := by simp [add, h.armed]

theorem counts_arm {r : Run} {ops : List Operation} (h : Counts r ops) :
    Counts { r with armed := true } (ops ++ [.arm]) where
  slots := by simp [completions_snoc, note, h.slots]
  resolved := by simp [completions_snoc, note, h.resolved]
  failed := by simp [completions_snoc, note, h.failed]
  armed := by simp

theorem counts_resolve {r : Run} {ops : List Operation} (h : Counts r ops) {slot : Nat}
    {failure : Failure} (hs : r.slots[slot]? = some (.waiting failure)) (outcome : Outcome) :
    Counts (r.resolve slot outcome) (ops ++ [.complete slot outcome]) := by
  have hc : (completions ops)[slot]? = some [] := (h.waiting_iff slot).1 ⟨failure, hs⟩
  refine { slots := ?slots, resolved := ?resolved, failed := ?failed, armed := ?armed }
  case slots =>
    have hset : (completions ops).modify slot (· ++ [outcome]) =
        (completions ops).set slot [outcome] := by
      rw [List.modify_eq_set, hc]
      simp
    simp only [resolve, completions_snoc, note, hset, List.map_set, h.slots]
    rfl
  case resolved =>
    rw [completions_snoc, note, countP_modify_succ isCompleted _ _ slot [] hc rfl rfl, ← h.resolved]
    rfl
  case failed =>
    rw [completions_snoc, note]
    cases ho : outcome.passed with
    | true =>
      rw [countP_modify isFailed _ _ slot fun c hi => ?_, ← h.failed]
      · simp [resolve, ho]
      · obtain rfl : [] = c := by simpa [hc] using hi
        simp [isFailed, ho]
    | false =>
      rw [countP_modify_succ isFailed _ _ slot [] hc rfl (by simp [isFailed, ho]), ← h.failed]
      simp [resolve, ho]
  case armed => simp [resolve, h.armed]

theorem counts_ignored {r : Run} {ops : List Operation} (h : Counts r ops) {slot : Nat}
    (hs : ∀ failure, r.slots[slot]? ≠ some (.waiting failure)) (outcome : Outcome) :
    Counts r (ops ++ [.complete slot outcome]) := by
  have hc (c : List Outcome) (hi : (completions ops)[slot]? = some c) : c ≠ [] := by
    intro he
    subst he
    obtain ⟨failure, hw⟩ := (h.waiting_iff slot).2 hi
    exact hs failure hw
  have hcompleted (c : List Outcome) (hi : (completions ops)[slot]? = some c) :
      isCompleted (c ++ [outcome]) = isCompleted c := by
    obtain ⟨first, rest, rfl⟩ := List.exists_cons_of_ne_nil (hc c hi)
    rfl
  have hfailed (c : List Outcome) (hi : (completions ops)[slot]? = some c) :
      isFailed (c ++ [outcome]) = isFailed c := by
    obtain ⟨first, rest, rfl⟩ := List.exists_cons_of_ne_nil (hc c hi)
    rfl
  refine { slots := ?slots, resolved := ?resolved, failed := ?failed, armed := ?armed }
  case slots =>
    rw [completions_snoc, note, h.slots]
    apply List.ext_getElem?
    intro i
    by_cases hi : slot = i
    · subst hi
      cases hl : (completions ops)[slot]? with
      | none => simp [hl]
      | some c => simp [hl, hcompleted c hl]
    · simp [hi]
  case resolved =>
    rw [completions_snoc, note, countP_modify isCompleted _ _ slot hcompleted, h.resolved]
  case failed => rw [completions_snoc, note, countP_modify isFailed _ _ slot hfailed, h.failed]
  case armed => simp [h.armed]

theorem step_tracks {r : Run} {ops : List Operation} (h : Tracks r ops) (op : Operation) :
    Tracks (r.step op).1 (ops ++ [op]) := by
  cases op with
  | add failure =>
    have hnew : ¬ Settled (ops ++ [.add failure]) := fun hs =>
      hs.2 [] (by simp [completions_snoc, note]) rfl
    exact h.quiet (counts_add h.toCounts failure) rfl fun hs => absurd hs hnew
  | arm => exact h.fire (counts_arm h.toCounts) rfl
  | complete slot outcome =>
    obtain ⟨failure, hw, heq⟩ | ⟨hw, heq⟩ := r.complete_cases slot outcome
    · simp only [step, heq]
      exact h.fire (counts_resolve h.toCounts hw outcome) rfl
    · simp only [step, heq]
      have hc := counts_ignored h.toCounts hw outcome
      exact h.quiet hc rfl fun hs => h.settled_iff.2 (hc.settled_iff.1 hs)

theorem steps_append (r : Run) (first others : List Operation) :
    r.steps (first ++ others) =
      (((r.steps first).1.steps others).1, (r.steps first).2 ++ ((r.steps first).1.steps others).2) :=
  inTurn_append step r first others

theorem steps_snoc (r : Run) (ops : List Operation) (op : Operation) :
    r.steps (ops ++ [op]) =
      (((r.steps ops).1.step op).1, (r.steps ops).2 ++ ((r.steps ops).1.step op).2) :=
  inTurn_snoc step r ops op

/-- The run after a history. -/
def after (ops : List Operation) : Run := (steps {} ops).1

theorem after_snoc (ops : List Operation) (op : Operation) :
    after (ops ++ [op]) = ((after ops).step op).1 := by
  simp [after, steps_snoc]

/-- After any history the run is what the history says. -/
theorem after_tracks (ops : List Operation) : Tracks (after ops) ops := by
  induction ops using List.reverseRecOn with
  | nil => exact tracks_initial
  | append_singleton ops op ih =>
    rw [after_snoc]
    exact step_tracks ih op

end Run

end FieldRules
