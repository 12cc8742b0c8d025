import FieldRules.Directive
import FieldRules.InTurn
import FieldRules.Size

namespace FieldRules

/-- What is told about a slot that fails: the field, the directive, the kind of the value, and the
template that the rule gave itself. -/
structure Failure where
  field : String
  directive : Directive
  kind : SizeKind
  message : Option String
deriving DecidableEq

/-- How a slot is completed. -/
inductive Outcome where
  | pass
  | fail
  /-- A failure with a template of its own. -/
  | failWith (message : String)
deriving DecidableEq

namespace Outcome

def ofBool : Bool → Outcome
  | true => pass
  | false => fail

def passed : Outcome → Bool
  | pass => true
  | fail | failWith _ => false

def message? : Outcome → Option String
  | failWith message => some message
  | pass | fail => none

end Outcome

inductive Slot where
  | waiting (failure : Failure)
  | resolved
deriving DecidableEq

/-- A slot for each rule that is asked, of which the first completion counts. Once the run is armed
and every slot is resolved it gives its verdict, and never another. -/
structure Run where
  slots : List Slot := []
  /-- How many slots are resolved and reported. -/
  resolved : Nat := 0
  /-- How many of them failed. -/
  failed : Nat := 0
  /-- Whether all rules have been asked. -/
  armed : Bool := false
  /-- Whether the verdict has been given. -/
  fired : Bool := false
deriving DecidableEq

namespace Run

/-- What a run tells while it goes on. -/
inductive Report where
  | failed (failure : Failure)
  | verdict (passed : Bool)
deriving DecidableEq

def Report.verdict? : Report → Option Bool
  | verdict passed => some passed
  | failed _ => none

/-- Gives the verdict if it is due. -/
def fireIfDone (r : Run) : Run × List Report :=
  if r.armed && r.slots.length ≤ r.resolved && !r.fired then
    ({ r with fired := true }, [.verdict (r.failed == 0)])
  else (r, [])

/-- Adds a slot; its number is the count of slots before. -/
def add (r : Run) (failure : Failure) : Run :=
  { r with slots := r.slots ++ [.waiting failure] }

/-- All rules have been asked. -/
def arm (r : Run) : Run × List Report := fireIfDone { r with armed := true }

/-- Counts a resolved slot and gives the verdict if it was the last. -/
def count (r : Run) : Run × List Report := fireIfDone { r with resolved := r.resolved + 1 }

def complete (r : Run) (slot : Nat) (outcome : Outcome) : Run × List Report :=
  match r.slots[slot]? with
  | some (.waiting failure) =>
    let r := { r with slots := r.slots.set slot .resolved }
    if outcome.passed then r.count
    else
      let (r, reports) := count { r with failed := r.failed + 1 }
      (r, .failed { failure with message := outcome.message? } :: reports)
  | _ => (r, [])

/-- What can be done with a run. -/
inductive Operation where
  | add (failure : Failure)
  | arm
  | complete (slot : Nat) (outcome : Outcome)
deriving DecidableEq

def step (r : Run) : Operation → Run × List Report
  | .add failure => (r.add failure, [])
  | .arm => r.arm
  | .complete slot outcome => r.complete slot outcome

/-- The operations one after the other, with all that they tell. -/
def steps (r : Run) (operations : List Operation) : Run × List Report := inTurn step r operations

/-- The four counts and flags of a run, as text. -/
def describe (r : Run) : String :=
  "AsyncRun \x7b slots: " ++ toString r.slots.length ++ ", resolved: " ++ toString r.resolved
    ++ ", failed: " ++ toString r.failed ++ ", armed: " ++ toString r.armed ++ " \x7d"

/-- The handle of a slot, as text. -/
def describeSlot (slot : Nat) : String := "Completion \x7b slot: " ++ toString slot ++ " \x7d"

end Run

end FieldRules
