import FieldRules.Engine.Context
import FieldRules.Engine.Run
import FieldRules.Message.Bag
import FieldRules.Message.Wording

namespace FieldRules

structure Validator where
  input : Fields
  rules : RuleSet
  wording : Wording
  bag : MessageBag

/-- A directive with its rule. -/
structure Step where
  field : String
  directive : Directive
  predicate : Predicate
  implicit : Bool
  /-- Whether the field is said to be a number. -/
  numeric : Bool

/-- Every directive of a run, and what the run goes by. -/
structure Plan where
  steps : List Step
  presence : Judge
  trim : Bool

/-- The step of a directive, if there is a rule of its name. -/
def Step.make (context : Context) (rules : RuleSet) :
    String × Directive → Except RuleError Step
  | (field, directive) => do
    let predicate ← context.registry.make directive.name
    return { field, directive, predicate,
             implicit := context.registry.isImplicit directive.name,
             numeric := rules.isNumeric field }

namespace Plan

def make (context : Context) (rules : RuleSet) : Except RuleError Plan := do
  let steps ← rules.directives.mapM (Step.make context rules)
  return ⟨steps, context.registry.presence, context.config.trim⟩

def hasAsync (plan : Plan) : Bool := plan.steps.any (·.predicate.isAsync)

/-- What the rule of a step sees. -/
def subject (plan : Plan) (input : Fields) (step : Step) : Subject :=
  { Subject.ofField input step.field plan.trim with
    argument := step.directive.argument
    numeric := step.numeric }

/-- Whether the rule of a step counts, with the context after the question. -/
def applies (plan : Plan) (input : Fields) (context : Context) (step : Step) : Bool × Context :=
  if step.implicit then (true, context)
  else context.consult plan.presence (Subject.ofField input step.field plan.trim)

end Plan

/-- A context and a bag, which change while a synchronous run goes on. -/
structure Scene where
  context : Context
  bag : MessageBag
  /-- What failed, with its messages in the order in which the bag got them. -/
  log : List (Failure × String) := []

namespace Validator

def create (context : Context) (input : Json) (rules : RawRules) :
    Except RuleError Validator := do
  match input with
  | .object members =>
    let rules := RuleSet.parse rules
    let _ ← Plan.make context rules
    return ⟨members, rules, {}, MessageBag.empty⟩
  | other => throw (.inputNotObject other.typeName)

def plan (v : Validator) (context : Context) : Except RuleError Plan := Plan.make context v.rules

def hasAsync (v : Validator) (context : Context) : Except RuleError Bool :=
  (v.plan context).map Plan.hasAsync

/-- What is told about a step if it fails. -/
def failureOf (v : Validator) (step : Step) : Failure :=
  ⟨step.field, step.directive, SizeKind.of step.numeric (v.input.value step.field), none⟩

/-- The message for a failure, by the phrasebook as it is. -/
def word (v : Validator) (context : Context) (f : Failure) : String :=
  v.wording.render context.phrasebook f.directive f.field f.kind f.message

def addMessage (v : Validator) (field message : String) : Validator :=
  { v with bag := v.bag.add field message }

def clear (v : Validator) : Validator := { v with bag := MessageBag.empty }

/-- The scene of a run that begins: the bag is emptied. -/
def scene (context : Context) : Scene := { context, bag := MessageBag.empty }

/-- Words a failure and adds the message to the bag. -/
def record (v : Validator) (scene : Scene) (f : Failure) : Scene :=
  let message := v.word scene.context f
  { scene with bag := scene.bag.add f.field message, log := scene.log ++ [(f, message)] }

/-- Asks the rule of one step and counts the failures. -/
def checkStep (v : Validator) (plan : Plan) : Scene × Nat → Step → Scene × Nat
  | (scene, failed), step =>
    let (applies, context) := plan.applies v.input scene.context step
    let scene := { scene with context }
    if applies then
      match step.predicate.judge? with
      | some judge =>
        let (passed, context) := scene.context.consult judge (plan.subject v.input step)
        let scene := { scene with context }
        if passed then (scene, failed) else (v.record scene (v.failureOf step), failed + 1)
      | none => (scene, failed)
    else (scene, failed)

/-- A run of synchronous rules: whether none failed, and the scene after it. -/
def check (v : Validator) (context : Context) : Except RuleError (Bool × Scene) := do
  let plan ← v.plan context
  if plan.hasAsync then throw .asyncRules
  else
    let (scene, failed) := plan.steps.foldl (v.checkStep plan) (scene context, 0)
    return (failed == 0, scene)

end Validator

end FieldRules
