import FieldRules.Engine.Session
import FieldRules.Proofs.Plan
import Mathlib.Data.List.Induction

namespace FieldRules.Registry

/-- What can be done with a registry. That a rule is asynchronous is part of the rule. -/
inductive Operation where
  | register (name : String) (rule : CustomRule) (implicit : Bool)
  | unregister (name : String)

namespace Operation

/-- The name that the operation is on. -/
def name : Operation → String
  | register name _ _ | unregister name => name

/-- What the operation leaves under its name. -/
def entry? : Operation → Option RegistryEntry
  | register _ rule implicit => some ⟨rule, implicit⟩
  | unregister _ => none

end Operation

def step (r : Registry) : Operation → Registry
  | .register name rule implicit => r.register name rule implicit
  | .unregister name => r.unregister name

/-- The registry after a history that begins without registered rules. -/
def after (ops : List Operation) : Registry := ops.foldl step initial

def lastOn? (name : String) (ops : List Operation) : Option Operation :=
  (ops.filter (·.name = name)).getLast?

/-- What a registry says of a name when it is asked its four questions. -/
structure Status where
  rule : Except RuleError Predicate
  isKnown : Bool
  isAsync : Bool
  isImplicit : Bool

def status (r : Registry) (name : String) : Status :=
  ⟨r.make name, r.knows name, r.isAsync name, r.isImplicit name⟩

namespace Status

/-- What the catalog says of a name. -/
def ofCatalog (name : String) : Status :=
  match Builtin.ofName? name with
  | some rule => ⟨.ok (.builtin rule), true, false, rule.isImplicit⟩
  | none => ⟨.error (.unknownRule name), false, false, false⟩

/-- What is said of a registered rule, whatever built-in rule it hides. -/
def ofRule (rule : CustomRule) (implicit : Bool) : Status :=
  ⟨.ok (.custom rule), true, (Predicate.custom rule).isAsync, implicit⟩

/-- What is to be said of a name after the last operation on it. -/
def owed (name : String) : Option Operation → Status
  | some (.register _ rule implicit) => ofRule rule implicit
  | some (.unregister _) | none => ofCatalog name

end Status

theorem after_snoc (ops : List Operation) (op : Operation) :
    after (ops ++ [op]) = (after ops).step op := by
  simp [after]

/-- An operation decides about its own name and leaves the others as they were. -/
theorem get?_step (r : Registry) (op : Operation) (name : String) :
    (r.step op).get? name = if op.name = name then op.entry? else r.get? name := by
  cases op with
  | register other rule implicit =>
    rw [step, register, Dict.get?_insert]
    simp only [Operation.name, Operation.entry?, eq_comm]
  | unregister other =>
    rw [step, unregister, Dict.get?_erase]
    simp only [Operation.name, Operation.entry?, eq_comm]

theorem lastOn?_snoc (name : String) (ops : List Operation) (op : Operation) :
    lastOn? name (ops ++ [op]) = if op.name = name then some op else lastOn? name ops := by
  rw [lastOn?, lastOn?, List.filter_append]
  by_cases h : op.name = name <;> simp [h]

/-- The entry of a name is what the last operation on it left. -/
theorem get?_after (ops : List Operation) (name : String) :
    (after ops).get? name = (lastOn? name ops).bind Operation.entry? := by
  induction ops using List.reverseRecOn with
  | nil => rfl
  | append_singleton ops op ih =>
    rw [after_snoc, get?_step, lastOn?_snoc, ih]
    split <;> rfl

theorem status_of_some {r : Registry} {name : String} {entry : RegistryEntry}
    (h : r.get? name = some entry) : r.status name = .ofRule entry.rule entry.implicit := by
  simp only [status, make, knows, Dict.contains, Registry.isAsync, Registry.isImplicit, h,
    Option.isSome_some, Bool.true_or]
  rfl

theorem status_of_none {r : Registry} {name : String} (h : r.get? name = none) :
    r.status name = .ofCatalog name := by
  simp only [status, make, knows, Dict.contains, Registry.isAsync, Registry.isImplicit, h,
    Option.isSome_none, Bool.false_or, Status.ofCatalog]
  cases Builtin.ofName? name <;> rfl

theorem status_after (ops : List Operation) (name : String) :
    (after ops).status name = .owed name (lastOn? name ops) := by
  have hentry := get?_after ops name
  cases hlast : lastOn? name ops with
  | none => exact status_of_none (by rw [hentry, hlast]; rfl)
  | some op =>
    cases op with
    | register other rule implicit =>
      have hsome : (after ops).get? name = some ⟨rule, implicit⟩ := by rw [hentry, hlast]; rfl
      exact status_of_some hsome
    | unregister other => exact status_of_none (by rw [hentry, hlast]; rfl)

theorem isAsync_iff (r : Registry) (name : String) :
    r.isAsync name = true ↔
      ∃ predicate, r.make name = .ok predicate ∧ predicate.isAsync = true := by
  constructor
  · intro h
    cases hentry : r.get? name with
    | none => simp [Registry.isAsync, hentry] at h
    | some entry =>
      have hmake : r.make name = .ok (.custom entry.rule) := by rw [make, hentry]
      exact ⟨_, hmake, (isAsync_of_make hmake).trans h⟩
  · intro h
    obtain ⟨predicate, hmake, hasync⟩ := h
    rw [← isAsync_of_make hmake, hasync]

/-- The last operation on a name decides: if it was a registration the name has that very rule, and
otherwise all is as the catalog says. What was done with other names does not matter. -/
theorem last_operation_decides (ops : List Operation) (name : String) :
    let r := after ops
    r.status name = .owed name (lastOn? name ops) ∧
    (after (ops.filter (·.name = name))).status name = r.status name ∧
    (∀ s : Session, s.context.registry = r →
      let done := s.step (.unregister name)
      done.1.context.registry = after (ops ++ [.unregister name]) ∧
      done.2.1 = .bool ((lastOn? name ops).bind Operation.entry?).isSome) ∧
    (r.knows name = true ↔ ∃ predicate, r.make name = .ok predicate) ∧
    (r.isAsync name = true ↔
      ∃ predicate, r.make name = .ok predicate ∧ predicate.isAsync = true) := by
  intro r
  have hothers : lastOn? name (ops.filter (·.name = name)) = lastOn? name ops := by
    simp [lastOn?, List.filter_filter]
  refine ⟨status_after ops name, ?_, ?_, r.knows_iff name, r.isAsync_iff name⟩
  · rw [status_after, status_after, hothers]
  · intro s hs done
    have hregistry : done.1.context.registry = s.context.registry.unregister name := rfl
    have hanswer : done.2.1 = .bool (s.context.registry.contains name) := rfl
    rw [hregistry, hanswer, hs, after_snoc, Dict.contains, get?_after]
    exact ⟨rfl, rfl⟩

/-- A built-in rule that runs on absent values is hidden, shown again, and hidden by a rule that
answers later and does not run on absent values. -/
def requiredOps : List Operation :=
  [.register "required" (.pure fun _ => true) true,
   .unregister "required",
   .register "max" (.pure fun _ => true) true,
   .register "required" (.async fun _ _ => ⟨[], 1⟩) false,
   .unregister "max"]

theorem last_operation_decides_required :
    let r := after requiredOps
    let s : Session := { context := { Context.initial with registry := r } }
    r.make "required" = .ok (.custom (.async fun _ _ => ⟨[], 1⟩)) ∧
    r.isAsync "required" = true ∧ r.isImplicit "required" = false ∧
    Registry.initial.isImplicit "required" = true ∧
    s.context.registry = r ∧ (s.step (.unregister "required")).2.1 = .bool true ∧
    r.make "max" = .ok (.builtin .max) ∧ r.isImplicit "max" = false ∧
    (s.step (.unregister "max")).2.1 = .bool false := by
  intro r s
  obtain ⟨hrequired, -, hout, -, -⟩ := last_operation_decides requiredOps "required"
  obtain ⟨hmax, -, hmaxOut, -, -⟩ := last_operation_decides requiredOps "max"
  have hcatalog : Status.ofCatalog "max" = ⟨.ok (.builtin .max), true, false, false⟩ := rfl
  refine ⟨congrArg Status.rule hrequired, congrArg Status.isAsync hrequired,
    congrArg Status.isImplicit hrequired, by decide, rfl, (hout s rfl).2, ?_, ?_,
    (hmaxOut s rfl).2⟩
  · exact (congrArg Status.rule hmax).trans (congrArg Status.rule hcatalog)
  · exact (congrArg Status.isImplicit hmax).trans (congrArg Status.isImplicit hcatalog)

end FieldRules.Registry
