import FieldRules.Proofs.Registry
import FieldRules.Proofs.Replaced
import FieldRules.Proofs.Session.Measured
import FieldRules.Proofs.Text.Trimmed

namespace FieldRules

namespace Directive

/-- An argument without commas is one part. -/
theorem splitArgument_clear {a : String} (ha : ',' ∉ a.toList) : splitArgument (some a) = [a] := by
  have hcut : Text.IsCut ',' a [a] := ⟨by simp, by simpa using ha, by simp⟩
  exact hcut.eq_splitAll.symm

theorem splitArgument_pair {a b : String} (ha : ',' ∉ a.toList) (hb : ',' ∉ b.toList) :
    splitArgument (some (a ++ "," ++ b)) = [a, b] := by
  have hcut : Text.IsCut ',' (a ++ "," ++ b) [a, b] := by
    refine ⟨by simp, by simp [ha, hb], ?_⟩
    simp [String.intercalate_cons_cons]
  exact hcut.eq_splitAll.symm

end Directive

namespace Builtin

/-- A value is within two bounds if it is within each of them. -/
theorem isWithin_eq (measure lower upper : Option Float) :
    isWithin measure lower upper =
      (compares atLeast measure lower && compares atMost measure upper) := by
  cases measure <;> cases lower <;> cases upper <;> simp [isWithin, compares]

theorem between_holds (s : Subject) {a b : String} (ha : ',' ∉ a.toList) (hb : ',' ∉ b.toList) :
    between.holds { s with argument := some (a ++ "," ++ b) } =
      (min.holds { s with argument := some a } && max.holds { s with argument := some b }) := by
  simp only [holds, isWithin_eq, Subject.numericArg?, Subject.arg?, Subject.args,
    Directive.splitArgument_pair ha hb, Directive.splitArgument_clear ha,
    Directive.splitArgument_clear hb]
  rfl

end Builtin

namespace Registry

variable {r : Registry} {rule : Builtin} (absent : r.get? rule.name = none)
include absent

/-- Of a name that is not registered the registry says what the catalog says. -/
theorem status_builtin :
    r.status rule.name = ⟨.ok (.builtin rule), true, false, rule.isImplicit⟩ := by
  rw [status_of_none absent, Status.ofCatalog, Builtin.ofName?_name]

theorem answer_builtin (s : Subject) : r.answer rule.name s = rule.holds s := by
  rw [answer, absent, Builtin.ofName?_name]
  rfl

end Registry

namespace Validator

/-- A directive of a built-in rule that is not implicit fails where the value is there and the rule
does not accept. -/
theorem isFailing_builtin {context : Context} {rule : Builtin}
    (absent : context.registry.get? rule.name = none) (himplicit : rule.isImplicit = false)
    (v : Validator) (field : String) (argument : Option String) :
    v.isFailing context (field, ⟨rule.name, argument⟩) =
      (context.registry.isPresent (Subject.ofField v.input field context.config.trim) &&
        !rule.holds (v.subjectOf context (field, ⟨rule.name, argument⟩))) := by
  have hstatus : context.registry.isImplicit rule.name = rule.isImplicit :=
    congrArg Registry.Status.isImplicit (Registry.status_builtin absent)
  simp only [isFailing, isApplicable, hstatus, himplicit, Registry.answer_builtin absent,
    Bool.false_or]

/-- With the directives for each bound a run has the verdict that it has with the one for both. -/
theorem verdict_of_between {v : Validator} {context : Context}
    (timeless : context.registry.IsTimeless)
    (absent : ∀ rule ∈ [Builtin.min, .max, .between], context.registry.get? rule.name = none)
    {field : String} {before after : List Directive} {a b : String}
    (there : v.rules.get? field = some (before ++ ⟨"between", some (a ++ "," ++ b)⟩ :: after))
    (ha : ',' ∉ a.toList) (hb : ',' ∉ b.toList) :
    let others := v.rules.insert field (before ++ ⟨"min", some a⟩ :: ⟨"max", some b⟩ :: after)
    ({ v with rules := others }.check context).map Prod.fst = (v.check context).map Prod.fst := by
  intro others
  have hmin : context.registry.get? Builtin.min.name = none := absent .min (by simp)
  have hmax : context.registry.get? Builtin.max.name = none := absent .max (by simp)
  have hbetween : context.registry.get? Builtin.between.name = none := absent .between (by simp)
  have hready {rule : Builtin} (h : context.registry.get? rule.name = none) :
      context.registry.knows rule.name = true ∧ context.registry.isAsync rule.name = false :=
    have hstatus := Registry.status_builtin h
    ⟨congrArg Registry.Status.isKnown hstatus, congrArg Registry.Status.isAsync hstatus⟩
  have hreplaced : v.rules.Replaced others field ⟨"between", some (a ++ "," ++ b)⟩
      [⟨"min", some a⟩, ⟨"max", some b⟩] :=
    RuleSet.replaced_insert there [⟨"min", some a⟩, ⟨"max", some b⟩]
  refine verdict_of_replaced timeless hreplaced ?_ (fun other => ?_) ?_
  · simp only [List.forall_mem_cons]
    exact ⟨hready hbetween, hready hmin, hready hmax, by simp⟩
  · rw [RuleSet.isNumeric, RuleSet.isNumeric, hreplaced.hasRule (by simp) (by simp) other,
      hreplaced.hasRule (by simp) (by simp) other]
  · -- the three rules see subjects that differ in the argument only
    let s := v.subjectOf context (field, ⟨"between", none⟩)
    have hholds := Builtin.between_holds s ha hb
    have hboth := isFailing_builtin hbetween rfl v field (some (a ++ "," ++ b))
    have hlower := isFailing_builtin hmin rfl v field (some a)
    have hupper := isFailing_builtin hmax rfl v field (some b)
    simp only [List.any_cons, List.any_nil, Bool.or_false]
    refine (congrArg₂ or hlower hupper).trans (Eq.trans ?_ hboth.symm)
    rw [← Bool.and_or_distrib_left, ← Bool.not_and]
    exact congrArg (fun held => _ && !held) hholds.symm

/-- A rule of presence that finds a value there only when it is asked for the first time. -/
def fickleContext : Context :=
  Context.initial.register "required" (.sync fun time _ => (time == 0, [])) true "No."

/-- A rule that has no value count as present from the next run on. -/
def blindingContext : Context :=
  let blind : CustomRule := .pure fun _ => false
  Context.initial.register "blinding" (.sync fun _ _ => (true, [.register "required" blind false ""]))
    false "No."

/-- A text of five characters, with rules for it. -/
def helloValidator (rules : List (String × List Directive)) : Validator where
  input := [("name", .string "hello"), ("x", .bool true)]
  rules := Dict.ofList rules
  wording := {}
  bag := MessageBag.empty

/-- A context with a rule that changes the language whenever it is asked. -/
def foreignContext : Context :=
  Context.initial.register "foreign" (.sync fun _ s => (true, [.setLanguage s.field])) false "No."

/-- A number as a text, that should be from four up to no number. -/
def boundedValidator : Validator where
  input := [("n", .string "5"), ("m", .bool true)]
  rules := Dict.ofList [("n", [⟨"foreign", none⟩, ⟨"between", some "4,x"⟩, ⟨"numeric", none⟩]),
    ("m", [⟨"size", some "1"⟩])]
  wording := {}
  bag := MessageBag.empty

end Validator

end FieldRules
