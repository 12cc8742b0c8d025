import FieldRules.Proofs.Bag
import FieldRules.Proofs.Plan

namespace FieldRules.Validator

theorem check_ok_iff (v : Validator) (context : Context) (passed : Bool) (scene : Scene) :
    v.check context = .ok (passed, scene) ↔
      ∃ plan failed, v.plan context = .ok plan ∧ plan.hasAsync = false ∧
        plan.steps.foldl (v.checkStep plan) (Validator.scene context, 0) = (scene, failed) ∧
        passed = (failed == 0) := by
  unfold check
  cases v.plan context with
  | error e => simp [bind, Except.bind]
  | ok plan =>
    cases hasync : plan.hasAsync with
    | true => simp [bind, Except.bind, hasync, throw, throwThe, MonadExceptOf.throw]
    | false =>
      obtain ⟨⟨last, failed⟩, hfold⟩ :
          ∃ state, plan.steps.foldl (v.checkStep plan) (Validator.scene context, 0) = state :=
        ⟨_, rfl⟩
      simp only [bind, Except.bind, hasync, hfold, pure, Except.pure]
      constructor
      · intro h
        obtain ⟨rfl, rfl⟩ := Prod.mk.inj (Except.ok.inj h)
        exact ⟨plan, failed, rfl, hasync, hfold, rfl⟩
      · intro hin
        obtain ⟨_, _, hplan, -, hsame, rfl⟩ := hin
        obtain rfl := Except.ok.inj hplan
        obtain ⟨rfl, rfl⟩ := Prod.mk.inj (hfold.symm.trans hsame)
        rfl

theorem record_bag {scene : Scene} (h : scene.bag = MessageBag.ofLog scene.log) (v : Validator)
    (f : Failure) : (v.record scene f).bag = MessageBag.ofLog (v.record scene f).log := by
  simp [record, MessageBag.ofLog_snoc, h]

theorem checkStep_bag {state : Scene × Nat} (h : state.1.bag = MessageBag.ofLog state.1.log)
    (v : Validator) (plan : Plan) (step : Step) :
    (v.checkStep plan state step).1.bag =
      MessageBag.ofLog (v.checkStep plan state step).1.log := by
  obtain ⟨scene, failed⟩ := state
  unfold checkStep
  simp only
  split
  · split
    · split
      · exact h
      · apply record_bag
        exact h
    · exact h
  · exact h

theorem check_bag {v : Validator} {context : Context} {passed : Bool} {scene : Scene}
    (h : v.check context = .ok (passed, scene)) : scene.bag = MessageBag.ofLog scene.log := by
  obtain ⟨plan, failed, -, -, hfold, -⟩ := (v.check_ok_iff context passed scene).1 h
  have hall : ∀ state : Scene × Nat, state.1.bag = MessageBag.ofLog state.1.log →
      (plan.steps.foldl (v.checkStep plan) state).1.bag =
        MessageBag.ofLog (plan.steps.foldl (v.checkStep plan) state).1.log := by
    intro state hstate
    induction plan.steps generalizing state with
    | nil => exact hstate
    | cons step rest ih => exact ih _ (checkStep_bag hstate v plan step)
  have hbag := hall (Validator.scene context, 0) rfl
  rwa [hfold] at hbag

/-- The verdict of a run and the messages that it leaves; nothing if the run is refused. -/
def outcome (v : Validator) (context : Context) : Option (Bool × List (String × List String)) :=
  (v.check context).toOption.map fun (passed, scene) => (passed, scene.bag.messages.entries)

end FieldRules.Validator
