import FieldRules.Builtin.Verdict
import FieldRules.Dict
import FieldRules.Engine.Run
import FieldRules.Error

namespace FieldRules

/-- What an asynchronous rule does with its handle when it is asked. -/
structure Conduct where
  /-- The completions that it makes at once. -/
  outcomes : List Outcome
  /-- How many copies of the handle it keeps. -/
  kept : Nat

mutual

/-- A rule that is registered. It need not answer the same question alike every time, so it is told how
many questions came before. -/
inductive CustomRule where
  | sync (judge : Nat → Subject → Bool × List Amendment)
  | async (attend : Nat → Subject → Conduct)

/-- A change of the context that a rule asks for. -/
inductive Amendment where
  | setLanguage (language : String)
  | register (name : String) (rule : CustomRule) (implicit : Bool) (message : String)

end

/-- How a rule answers at once: by the time and by what it sees. -/
abbrev Judge := Nat → Subject → Bool × List Amendment

/-- A rule that only looks at its subject. -/
def CustomRule.pure (accepts : Subject → Bool) : CustomRule := .sync fun _ s => (accepts s, [])

def Builtin.judge (rule : Builtin) : Judge := fun _ s => (rule.holds s, [])

/-- A rule as the registry knows it. -/
inductive Predicate where
  | builtin (rule : Builtin)
  | custom (rule : CustomRule)

namespace Predicate

def isAsync : Predicate → Bool
  | custom (.async _) => true
  | _ => false

/-- The judgement of a synchronous rule. -/
def judge? : Predicate → Option Judge
  | builtin rule => some rule.judge
  | custom (.sync judge) => some judge
  | custom (.async _) => none

/-- The kind of rule, as text. -/
def describe : Predicate → String
  | builtin rule => "Builtin(" ++ rule.title ++ ")"
  | custom (.sync _) => "Sync(<fn>)"
  | custom (.async _) => "Async(<fn>)"

end Predicate

structure RegistryEntry where
  rule : CustomRule
  /-- Whether the rule runs on absent values too. -/
  implicit : Bool

abbrev Registry := Dict RegistryEntry

namespace Registry

def initial : Registry := Dict.empty

/-- The rule of a name. -/
def make (r : Registry) (name : String) : Except RuleError Predicate :=
  match r.get? name with
  | some entry => .ok (.custom entry.rule)
  | none =>
    match Builtin.ofName? name with
    | some rule => .ok (.builtin rule)
    | none => .error (.unknownRule name)

/-- Whether a name has a rule. -/
def knows (r : Registry) (name : String) : Bool :=
  r.contains name || (Builtin.ofName? name).isSome

def isAsync (r : Registry) (name : String) : Bool :=
  match r.get? name with
  | some entry => (Predicate.custom entry.rule).isAsync
  | none => false

def isImplicit (r : Registry) (name : String) : Bool :=
  match r.get? name with
  | some entry => entry.implicit
  | none => (Builtin.ofName? name).any Builtin.isImplicit

def register (r : Registry) (name : String) (rule : CustomRule) (implicit : Bool) : Registry :=
  r.insert name ⟨rule, implicit⟩

def unregister (r : Registry) (name : String) : Registry := r.erase name

/-- The rule that decides whether a value is there: the one registered as `required` if it answers
at once, or else the built-in one. -/
def presence (r : Registry) : Judge :=
  match r.get? Builtin.required.name with
  | some ⟨.sync judge, _⟩ => judge
  | _ => Builtin.required.judge

end Registry

end FieldRules
