import FieldRules.Proofs.Refusal
import FieldRules.Proofs.Session.Callbacks

namespace FieldRules.Session

/-- The validator that an operation runs, if it runs one. -/
def Operation.runs? : Operation → Option Nat
  | .check index | .fails index | .checkAsync index _ _ | .future index _
  | .openCall index _ _ | .openFuture index _ => some index
  | _ => none

/-- Whether the run has to answer at once. -/
def Operation.atOnce : Operation → Bool
  | .check _ | .fails _ => true
  | _ => false

/-- The session with the call or the future of an operation counted, and nothing else done. -/
def counted (s : Session) : Operation → Session
  | .checkAsync _ _ _ | .openCall _ _ _ => { s with calls := s.calls + 1 }
  | .future _ _ | .openFuture _ _ => { s with futures := s.futures ++ [.gone] }
  | _ => s

theorem counted_frame (s : Session) (op : Operation) :
    (s.counted op).validators = s.validators ∧ (s.counted op).context = s.context ∧
      (s.counted op).runs = s.runs ∧ (s.counted op).handles = s.handles := by
  cases op <;> exact ⟨rfl, rfl, rfl, rfl⟩

section Refusal

variable {s : Session} {index : Nat} {v : Validator} {op : Operation}

/-- What a refused call does. -/
theorem step_refused (there : s.validators[index]? = some v) (call : op.runs? = some index)
    {e : RuleError} (h : v.refusal? s.context op.atOnce = some e) :
    s.step op = (s.counted op, .refused e, []) := by
  have hcheck (hsync : op.atOnce = true) : s.check index v = (s, .error e, []) := by
    rw [hsync, ← Validator.check_error_iff] at h
    rw [Session.check, h]
  have hplan (hsync : op.atOnce = false) : v.plan s.context = .error e := by
    rwa [hsync, ← Validator.plan_error_iff] at h
  cases op with
  | check other | fails other =>
    obtain rfl := Option.some.inj call
    simp only [step, withValidator, there, hcheck rfl]
    rfl
  | checkAsync other onPass onFail =>
    obtain rfl := Option.some.inj call
    exact step_checkAsync_refused there (hplan rfl) onPass onFail
  | future other negated =>
    obtain rfl := Option.some.inj call
    exact step_future_refused there (hplan rfl) negated
  | openCall other onPass onFail =>
    obtain rfl := Option.some.inj call
    simp only [step, withValidator, there, openCall_refused s other (hplan rfl) onPass onFail]
    rfl
  | openFuture other negated =>
    obtain rfl := Option.some.inj call
    simp only [step, withValidator, there, openFuture_refused s other (hplan rfl) negated]
    rfl
  | _ => simp [Operation.runs?] at call

/-- A future is refused for nothing but that its run was abandoned. -/
theorem poll_refused {future : Nat} {e : RuleError} (h : (s.poll future).2 = .refused e) :
    e = .abandoned := by
  unfold poll at h
  split at h
  · next run negated _ =>
    unfold futureAnswer at h
    cases hverdict : s.runs[run]?.bind (·.verdicts.head?) with
    | some passed => simp [hverdict] at h
    | none =>
      cases hheld : s.isHeld run with
      | true => simp [hverdict, hheld] at h
      | false =>
        simp only [hverdict, hheld, Bool.false_eq_true, if_false, Answer.refused.injEq] at h
        exact h.symm
  · simp at h

/-- A call that is not refused answers something else. -/
theorem step_accepted (there : s.validators[index]? = some v) (call : op.runs? = some index)
    (h : v.refusal? s.context op.atOnce = none) {e : RuleError} (hready : e ≠ .abandoned) :
    (s.step op).2.1 ≠ .refused e := by
  have hcheck (hsync : op.atOnce = true) :
      ∃ passed scene, v.check s.context = .ok (passed, scene) := by
    cases hv : v.check s.context with
    | error other =>
      rw [Validator.check_error_iff, ← hsync, h] at hv
      simp at hv
    | ok result => exact ⟨result.1, result.2, rfl⟩
  have hplan (hsync : op.atOnce = false) : ∃ plan, v.plan s.context = .ok plan := by
    cases hv : v.plan s.context with
    | error other =>
      rw [Validator.plan_error_iff, ← hsync, h] at hv
      simp at hv
    | ok plan => exact ⟨plan, rfl⟩
  cases op with
  | check other | fails other =>
    obtain rfl := Option.some.inj call
    obtain ⟨passed, scene, hresult⟩ := hcheck rfl
    simp [step, withValidator, there, Session.check, hresult, ofResult, Except.map]
  | checkAsync other onPass onFail =>
    obtain rfl := Option.some.inj call
    obtain ⟨plan, hmade⟩ := hplan rfl
    simp [step_checkAsync there hmade]
  | future other negated =>
    obtain rfl := Option.some.inj call
    obtain ⟨plan, hmade⟩ := hplan rfl
    simp only [step_future there hmade]
    exact fun hrefused => hready (poll_refused hrefused)
  | openCall other onPass onFail =>
    obtain rfl := Option.some.inj call
    obtain ⟨plan, hmade⟩ := hplan rfl
    simp [step, withValidator, there, openCall_underway s other hmade onPass onFail]
  | openFuture other negated =>
    obtain rfl := Option.some.inj call
    obtain ⟨plan, hmade⟩ := hplan rfl
    simp [step, withValidator, there, openFuture_underway s other hmade negated]
  | _ => simp [Operation.runs?] at call

end Refusal

/-- A number that was counted without a run stays without one. -/
theorem not_awaited_steps {s : Session} {call : Nat} (hcounted : call < s.calls)
    (hnone : ¬ s.Awaited call) (ops : List Operation) :
    call < (s.steps ops).1.calls ∧ ¬ (s.steps ops).1.Awaited call := by
  induction ops using List.reverseRecOn with
  | nil => exact ⟨hcounted, hnone⟩
  | append_singleton ops op ih =>
    have hjoined := step_joined (s.steps ops).1 op
    rw [steps_snoc]
    refine ⟨ih.1.trans_le hjoined.calls_le, fun hcall => ?_⟩
    rcases hjoined.awaited hcall with hold | ⟨hnew, -⟩
    · exact ih.2 hold
    · have hlt := ih.1
      omega

theorem not_finished_of_not_awaited {s : Session} {call : Nat} (hcounted : call < s.calls)
    (hnone : ¬ s.Awaited call) (ops : List Operation) (passed : Bool) :
    .finished call passed ∉ (s.steps ops).2 := by
  intro hm
  have hlater := not_awaited_steps hcounted hnone ops
  exact hlater.2 ((steps_moves s ops).finished hm)

theorem step_hasAsync {s : Session} {index : Nat} {v : Validator}
    (there : s.validators[index]? = some v) :
    s.step (.hasAsync index) =
      (s, match v.rules.firstUnknown? s.context.registry with
          | some name => .refused (.unknownRule name)
          | none => .bool (v.rules.hasAsync s.context.registry), []) := by
  simp only [step, withValidator, there, Validator.hasAsync_eq]
  cases v.rules.firstUnknown? s.context.registry <;> rfl

/-- Making a validator of an object is refused only for a directive without a rule. -/
theorem step_create_object (s : Session) (members : Fields) (rules : RawRules)
    (messages : List (String × String)) :
    (s.step (.create (.object members) rules messages)).2.1 =
      match (RuleSet.parse rules).firstUnknown? s.context.registry with
      | some name => .refused (.unknownRule name)
      | none => .number s.validators.length := by
  simp only [step, Validator.create_object]
  cases (RuleSet.parse rules).firstUnknown? s.context.registry <;> rfl

theorem step_create_of_not_object (s : Session) {input : Json} (rules : RawRules)
    (messages : List (String × String)) (h : ∀ members, input ≠ .object members) :
    s.step (.create input rules messages) = (s, .refused (.inputNotObject input.typeName), []) := by
  simp only [step, Validator.create_of_not_object _ rules h]

/-- A call that runs a validator is refused if and only if some directive has no rule now, or an
asynchronous one where it has to answer at once. It changes nothing but the number of calls, and
nobody is ever told a verdict under its number. -/
theorem refused_call_changes_nothing (context : Context) (validators : List Validator)
    (ops : List Operation) {index : Nat} {v : Validator}
    (there : (steps { context, validators } ops).1.validators[index]? = some v) :
    let s := (steps { context, validators } ops).1
    (∀ op : Operation, op.runs? = some index →
      (∀ e, e ≠ .abandoned →
        ((s.step op).2.1 = .refused e ↔ v.refusal? s.context op.atOnce = some e)) ∧
      ∀ e, v.refusal? s.context op.atOnce = some e →
        let after := (s.step op).1
        after = s.counted op ∧ (s.step op).2.2 = [] ∧
        after.validators = s.validators ∧ after.context = s.context ∧
        after.runs = s.runs ∧ after.handles = s.handles ∧
        ∀ later call passed, s.calls ≤ call → call < after.calls →
          .finished call passed ∉ (after.steps later).2) ∧
    s.step (.hasAsync index) =
      (s, match v.rules.firstUnknown? s.context.registry with
          | some name => .refused (.unknownRule name)
          | none => .bool (v.rules.hasAsync s.context.registry), []) ∧
    (∀ members rules messages,
      (s.step (.create (.object members) rules messages)).2.1 =
        match (RuleSet.parse rules).firstUnknown? s.context.registry with
        | some name => .refused (.unknownRule name)
        | none => .number s.validators.length) ∧
    ∀ input rules messages, (∀ members, input ≠ .object members) →
      s.step (.create input rules messages) =
        (s, .refused (.inputNotObject input.typeName), []) := by
  intro s
  refine ⟨fun op call => ⟨?_, ?_⟩, step_hasAsync there, step_create_object s, ?_⟩
  · intro e hready
    constructor
    · intro hrefused
      cases h : v.refusal? s.context op.atOnce with
      | none => exact absurd hrefused (step_accepted there call h hready)
      | some other =>
        rw [step_refused there call h, Answer.refused.injEq] at hrefused
        rw [hrefused]
    · intro h
      rw [step_refused there call h]
  · intro e h after
    have hstep := step_refused there call h
    have hafter : after = s.counted op := congrArg Prod.fst hstep
    obtain ⟨hvalidators, hcontext, hruns, hhandles⟩ := counted_frame s op
    have hevents : (s.step op).2.2 = [] := by rw [hstep]
    rw [hafter]
    refine ⟨rfl, hevents, hvalidators, hcontext, hruns, hhandles, ?_⟩
    intro later call passed hle hlt
    apply not_finished_of_not_awaited hlt
    intro hawaited
    have hold : s.Awaited call := by rwa [Awaited, audience, hruns] at hawaited
    have hnumber : call < s.calls := (steps_numbered context validators ops).counted call hold
    omega
  · intro input rules messages h
    exact step_create_of_not_object s rules messages h

/-- A validator is made and run while a rule is registered that is withdrawn after that. -/
def withdrawnHistory : List Operation :=
  [.register "once" (.pure fun _ => true) false "Once.",
    .create (.object [("a", .null)]) (Dict.ofList [("a", .piped "required|once")]) [],
    .check 0,
    .unregister "once"]

/-- The run is refused for the rule that was withdrawn, and the message of the run before it stays in
the bag. -/
theorem refused_call_after_withdrawal :
    let s := (steps { context := Context.initial } withdrawnHistory).1
    let op : Operation := .checkAsync 0 true true
    (∃ v, s.validators[0]? = some v ∧
      v.refusal? s.context false = some (.unknownRule "once")) ∧
    (s.step op).2.1 = .refused (.unknownRule "once") ∧
    (s.bagOf 0).count = 1 ∧ (s.step op).1.validators = s.validators ∧
    s.step (.hasAsync 0) = (s, .refused (.unknownRule "once"), []) := by
  intro s op
  have hat : s.validators[0]?.map (fun v => v.refusal? s.context false) =
      some (some (.unknownRule "once")) := by decide +kernel
  have hunknown : s.validators[0]?.map (fun v => v.rules.firstUnknown? s.context.registry) =
      some (some "once") := by decide +kernel
  have hbag : (s.bagOf 0).count = 1 := by decide +kernel
  obtain ⟨v, there, hrefusal⟩ := Option.map_eq_some_iff.1 hat
  have hname : v.rules.firstUnknown? s.context.registry = some "once" := by
    simpa [there] using hunknown
  obtain ⟨hcalls, hasync, -⟩ :=
    refused_call_changes_nothing Context.initial [] withdrawnHistory there
  obtain ⟨hanswer, hafter⟩ := hcalls op rfl
  obtain ⟨-, -, hvalidators, -⟩ := hafter _ hrefusal
  refine ⟨⟨v, there, hrefusal⟩, (hanswer _ (by simp)).2 hrefusal, hbag, hvalidators, ?_⟩
  rw [hasync, hname]

end FieldRules.Session
