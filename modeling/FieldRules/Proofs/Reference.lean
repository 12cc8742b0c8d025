import FieldRules.Proofs.Check
import FieldRules.Proofs.Session.Bag

namespace FieldRules

namespace Registry

/-- Every registered rule that answers at once is such. -/
def Judges (r : Registry) (P : Judge → Prop) : Prop :=
  ∀ name judge implicit, r.get? name = some ⟨.sync judge, implicit⟩ → P judge

/-- The registered rules that answer at once only look at their subjects. -/
def IsPure (r : Registry) : Prop :=
  r.Judges fun judge => ∃ accepts, CustomRule.sync judge = .pure accepts

/-- What the rule of a name answers: the registered one, or else the built-in one. -/
def answer (r : Registry) (name : String) (s : Subject) : Bool :=
  match r.get? name with
  | some ⟨.sync judge, _⟩ => (judge 0 s).1
  | some ⟨.async _, _⟩ => false
  | none => (Builtin.ofName? name).any (·.holds s)

/-- Whether a value counts as present: what a registered `required` answers, if it answers at once,
or else the built-in one. -/
def isPresent (r : Registry) (s : Subject) : Bool :=
  match r.get? "required" with
  | some ⟨.sync judge, _⟩ => (judge 0 s).1
  | _ => Builtin.required.holds s

end Registry

namespace Validator

/-- What the rule of a directive sees. -/
def subjectOf (v : Validator) (context : Context) (entry : String × Directive) : Subject :=
  { Subject.ofField v.input entry.1 context.config.trim with
    argument := entry.2.argument
    numeric := v.rules.isNumeric entry.1 }

/-- Whether a directive counts. The presence of a value is asked for without an argument and not as
that of a number. -/
def isApplicable (v : Validator) (context : Context) (entry : String × Directive) : Bool :=
  context.registry.isImplicit entry.2.name ||
    context.registry.isPresent (Subject.ofField v.input entry.1 context.config.trim)

def isFailing (v : Validator) (context : Context) (entry : String × Directive) : Bool :=
  v.isApplicable context entry && !context.registry.answer entry.2.name (v.subjectOf context entry)

/-- What is told of a directive that fails, with its message. -/
def failureEntry (v : Validator) (context : Context) (entry : String × Directive) :
    Failure × String :=
  let f : Failure := ⟨entry.1, entry.2,
    SizeKind.of (v.rules.isNumeric entry.1) (v.input.value entry.1), none⟩
  (f, v.word context f)

/-- The failures that a run of synchronous rules finds. -/
def failures (v : Validator) (context : Context) : List (Failure × String) :=
  (v.rules.directives.filter (v.isFailing context)).map (v.failureEntry context)

/-- Every directive has a rule, and it answers at once. -/
def IsReady (v : Validator) (context : Context) : Prop :=
  ∀ entry ∈ v.rules.directives, ∃ predicate, context.registry.make entry.2.name = .ok predicate ∧
    predicate.isAsync = false

end Validator

/-- A context at another time. -/
def Context.atTime (c : Context) (time : Nat) : Context := { c with clock := time }

/-- The judge answers like this, at any time and with no wish. -/
def Answers (judge : Judge) (accepts : Subject → Bool) : Prop :=
  ∀ time s, judge time s = (accepts s, [])

theorem Answers.consult {judge : Judge} {accepts : Subject → Bool} (h : Answers judge accepts)
    (c : Context) (time : Nat) (s : Subject) :
    (c.atTime time).consult judge s = (accepts s, c.atTime (time + 1)) := by
  simp [Context.consult, h time s, Context.amendAll, Context.atTime, Context.tick]

theorem exists_pure_iff {judge : Judge} :
    (∃ accepts, CustomRule.sync judge = .pure accepts) ↔ Answers judge fun s => (judge 0 s).1 := by
  constructor
  · rintro ⟨accepts, heq⟩ time s
    rw [CustomRule.sync.inj heq]
  · intro h
    have heq : judge = fun _ s => ((judge 0 s).1, []) := funext₂ h
    exact ⟨fun s => (judge 0 s).1, congrArg CustomRule.sync heq⟩

namespace Registry

variable {P : Judge → Prop} {r : Registry}

theorem judges_initial (P : Judge → Prop) : Registry.initial.Judges P := by
  intro name judge implicit there
  simp [Registry.initial] at there

theorem Judges.register (h : r.Judges P) (name : String) {rule : CustomRule}
    (hrule : ∀ judge, rule = .sync judge → P judge) (implicit : Bool) :
    (r.register name rule implicit).Judges P := by
  intro other judge flag there
  rw [Registry.register, Dict.get?_insert] at there
  split at there
  · have hentry := RegistryEntry.mk.inj (Option.some.inj there)
    exact hrule judge hentry.1
  · exact h other judge flag there

theorem Judges.unregister (h : r.Judges P) (name : String) : (r.unregister name).Judges P := by
  intro other judge flag there
  rw [Registry.unregister, Dict.get?_erase] at there
  split at there
  · simp at there
  · exact h other judge flag there

/-- The rule of presence is a registered one or the built-in one. -/
theorem Judges.presence (h : r.Judges P) (builtin : ∀ rule : Builtin, P rule.judge) :
    P r.presence ∧ ∀ s, (r.presence 0 s).1 = r.isPresent s := by
  have hname : Builtin.required.name = "required" := by decide
  unfold Registry.presence isPresent
  rw [hname]
  cases there : r.get? "required" with
  | none => exact ⟨builtin _, fun _ => rfl⟩
  | some entry =>
    obtain ⟨rule, implicit⟩ := entry
    cases rule with
    | async attend => exact ⟨builtin _, fun _ => rfl⟩
    | sync judge => exact ⟨h _ judge implicit there, fun _ => rfl⟩

/-- The rule of a name is a registered one or a built-in one. -/
theorem Judges.make (h : r.Judges P) (builtin : ∀ rule : Builtin, P rule.judge) {name : String}
    {predicate : Predicate} (hmake : r.make name = .ok predicate)
    (hsync : predicate.isAsync = false) :
    ∃ judge, predicate.judge? = some judge ∧ P judge ∧
      ∀ s, (judge 0 s).1 = r.answer name s := by
  unfold Registry.make at hmake
  unfold answer
  cases there : r.get? name with
  | none =>
    cases hname : Builtin.ofName? name with
    | none => simp [there, hname] at hmake
    | some rule =>
      simp only [there, hname, Except.ok.injEq] at hmake
      subst hmake
      exact ⟨rule.judge, rfl, builtin rule, fun _ => rfl⟩
  | some entry =>
    obtain ⟨rule, implicit⟩ := entry
    simp only [there, Except.ok.injEq] at hmake
    subst hmake
    cases rule with
    | async attend => simp [Predicate.isAsync] at hsync
    | sync judge => exact ⟨judge, rfl, h name judge implicit there, fun _ => rfl⟩

/-- Registering a rule that only looks at its subject keeps a registry pure. -/
theorem IsPure.register (h : r.IsPure) (name : String) (accepts : Subject → Bool)
    (implicit : Bool) : (r.register name (.pure accepts) implicit).IsPure :=
  Judges.register h name (fun _ heq => ⟨accepts, heq.symm⟩) implicit

/-- The presence rule of a run answers as it should. -/
theorem IsPure.presence (h : r.IsPure) : Answers r.presence r.isPresent := by
  obtain ⟨hpure, hanswer⟩ := Judges.presence h fun rule => ⟨rule.holds, rfl⟩
  intro time s
  rw [← hanswer]
  exact exists_pure_iff.1 hpure time s

/-- The rule of a name answers as it should. -/
theorem IsPure.make (h : r.IsPure) {name : String} {predicate : Predicate}
    (hmake : r.make name = .ok predicate) (hsync : predicate.isAsync = false) :
    ∃ judge, predicate.judge? = some judge ∧ Answers judge (r.answer name) := by
  obtain ⟨judge, hjudge, hpure, hanswer⟩ :=
    Judges.make h (fun rule => ⟨rule.holds, rfl⟩) hmake hsync
  refine ⟨judge, hjudge, fun time s => ?_⟩
  rw [← hanswer]
  exact exists_pure_iff.1 hpure time s

end Registry

namespace Validator

/-- A validator with a plan is ready if none of its rules is asynchronous. -/
theorem isReady_of_plan {v : Validator} {context : Context} {plan : Plan}
    (h : v.plan context = .ok plan)
    (hsync : ∀ entry ∈ v.rules.directives, context.registry.isAsync entry.2.name = false) :
    v.IsReady context := by
  intro entry hm
  have hknown := (Plan.exists_make_iff context v.rules).1 ⟨plan, h⟩ entry hm
  obtain ⟨predicate, hmake⟩ := (Registry.knows_iff _ _).1 hknown
  exact ⟨predicate, hmake, (Registry.isAsync_of_make hmake).trans (hsync entry hm)⟩

/-- A validator that is ready has a plan, which asks only rules that answer at once. -/
theorem IsReady.plan {v : Validator} {context : Context} (h : v.IsReady context) :
    ∃ plan, v.plan context = .ok plan ∧ plan.hasAsync = false ∧
      List.Forall₂ (IsStep context v.rules) v.rules.directives plan.steps ∧
      plan.presence = context.registry.presence ∧ plan.trim = context.config.trim := by
  have hready : ∀ entry ∈ v.rules.directives, ∃ step : Step,
      step.predicate.isAsync = false ∧ IsStep context v.rules entry step := by
    intro entry hm
    obtain ⟨predicate, hmake, hsync⟩ := h entry hm
    exact ⟨⟨entry.1, entry.2, predicate, _, _⟩, hsync, rfl, hmake, rfl, rfl⟩
  obtain ⟨steps, hboth⟩ := (exists_forall₂_iff _ _).2 hready
  obtain ⟨hall, hflipped⟩ := (List.forall₂_and_left _ _).1 hboth.flip
  have hsteps : List.Forall₂ (IsStep context v.rules) v.rules.directives steps := hflipped.flip
  refine ⟨⟨steps, context.registry.presence, context.config.trim⟩, ?_, ?_, hsteps, rfl, rfl⟩
  · exact (Plan.make_ok_iff context v.rules _).2 ⟨hsteps, rfl, rfl⟩
  · simpa [Plan.hasAsync] using hall

section Run

variable {v : Validator} {context : Context} {plan : Plan}

theorem applies_reference (hpure : context.registry.IsPure)
    (hpresence : plan.presence = context.registry.presence)
    (htrim : plan.trim = context.config.trim) {entry : String × Directive} {step : Step}
    (hstep : IsStep context v.rules entry step) (time : Nat) :
    ∃ later, plan.applies v.input (context.atTime time) step =
      (v.isApplicable context entry, context.atTime later) := by
  have hfield : step.field = entry.1 := congrArg Prod.fst hstep.entry
  unfold Plan.applies isApplicable
  rw [← hstep.implicit]
  cases step.implicit with
  | true => exact ⟨time, rfl⟩
  | false =>
    refine ⟨time + 1, ?_⟩
    rw [hpresence, htrim, hfield]
    exact hpure.presence.consult context time _

theorem subject_reference (htrim : plan.trim = context.config.trim)
    {entry : String × Directive} {step : Step} (hstep : IsStep context v.rules entry step) :
    plan.subject v.input step = v.subjectOf context entry := by
  obtain ⟨hfield, hdirective⟩ := Prod.mk.inj hstep.entry
  rw [Plan.subject, subjectOf, htrim, hstep.numeric, hfield, hdirective]

theorem failure_reference {entry : String × Directive} {step : Step}
    (hstep : IsStep context v.rules entry step) (time : Nat) :
    (v.failureOf step, v.word (context.atTime time) (v.failureOf step)) =
      v.failureEntry context entry := by
  obtain ⟨hfield, hdirective⟩ := Prod.mk.inj hstep.entry
  have hfailure : v.failureOf step = (v.failureEntry context entry).1 := by
    rw [failureOf, hstep.numeric, hfield, hdirective]
    rfl
  rw [hfailure]
  rfl

/-- One step finds the failure of its directive, or none. -/
theorem checkStep_reference (hpure : context.registry.IsPure)
    (hpresence : plan.presence = context.registry.presence)
    (htrim : plan.trim = context.config.trim) {entry : String × Directive} {step : Step}
    (hstep : IsStep context v.rules entry step) (hsync : step.predicate.isAsync = false)
    (time : Nat) (bag : MessageBag) (log : List (Failure × String)) (failed : Nat) :
    ∃ later bag', v.checkStep plan (⟨context.atTime time, bag, log⟩, failed) step =
      if v.isFailing context entry then
        (⟨context.atTime later, bag', log ++ [v.failureEntry context entry]⟩, failed + 1)
      else (⟨context.atTime later, bag', log⟩, failed) := by
  obtain ⟨judge, hjudge, hanswer⟩ := hpure.make hstep.predicate hsync
  obtain ⟨asked, happlies⟩ := applies_reference (v := v) hpure hpresence htrim hstep time
  unfold checkStep isFailing
  simp only [happlies]
  cases v.isApplicable context entry with
  | false => exact ⟨asked, bag, by simp⟩
  | true =>
    have hconsult := hanswer.consult context asked (v.subjectOf context entry)
    simp only [hjudge, subject_reference htrim hstep, hconsult, if_true, Bool.true_and]
    cases context.registry.answer entry.2.name (v.subjectOf context entry) with
    | true => exact ⟨asked + 1, bag, by simp⟩
    | false =>
      have hfailure := failure_reference hstep (asked + 1)
      let message := v.word (context.atTime (asked + 1)) (v.failureOf step)
      refine ⟨asked + 1, bag.add (v.failureOf step).field message, ?_⟩
      simp only [record, hfailure]
      rfl

/-- The steps find the failures of their directives, in order. -/
theorem foldl_checkStep_reference (hpure : context.registry.IsPure)
    (hpresence : plan.presence = context.registry.presence)
    (htrim : plan.trim = context.config.trim) {entries : List (String × Directive)}
    {steps : List Step} (hsteps : List.Forall₂ (IsStep context v.rules) entries steps)
    (hsync : ∀ step ∈ steps, step.predicate.isAsync = false)
    (time : Nat) (bag : MessageBag) (log : List (Failure × String)) (failed : Nat) :
    ∃ later bag', steps.foldl (v.checkStep plan) (⟨context.atTime time, bag, log⟩, failed) =
      (⟨context.atTime later, bag',
          log ++ (entries.filter (v.isFailing context)).map (v.failureEntry context)⟩,
        failed + (entries.filter (v.isFailing context)).length) := by
  induction hsteps generalizing time bag log failed with
  | nil => exact ⟨time, bag, by simp⟩
  | @cons entry step entries steps hstep _ ih =>
    obtain ⟨hfirst, hrest⟩ := List.forall_mem_cons.1 hsync
    obtain ⟨later, bag', heq⟩ :=
      checkStep_reference hpure hpresence htrim hstep hfirst time bag log failed
    rw [List.foldl_cons, heq]
    cases hfailing : v.isFailing context entry with
    | true =>
      obtain ⟨last, bag'', hfold⟩ := ih hrest later bag' (log ++ [v.failureEntry context entry])
        (failed + 1)
      refine ⟨last, bag'', ?_⟩
      rw [if_pos rfl, hfold, List.filter_cons_of_pos hfailing]
      simp only [List.append_assoc, List.singleton_append, List.map_cons, List.length_cons]
      rw [Nat.add_right_comm, Nat.add_assoc]
    | false =>
      obtain ⟨last, bag'', hfold⟩ := ih hrest later bag' log failed
      refine ⟨last, bag'', ?_⟩
      rw [if_neg (by simp), hfold, List.filter_cons_of_neg (by simp [hfailing])]

/-- A run of synchronous rules finds the failures that it should, and leaves their bag. -/
theorem check_eq (hpure : context.registry.IsPure) (hready : v.IsReady context) :
    ∃ later, v.check context = .ok ((v.failures context).isEmpty,
      ⟨context.atTime later, MessageBag.ofLog (v.failures context), v.failures context⟩) := by
  obtain ⟨plan, hplan, hasync, hsteps, hpresence, htrim⟩ := hready.plan
  have hsync : ∀ step ∈ plan.steps, step.predicate.isAsync = false := by
    simpa [Plan.hasAsync] using hasync
  obtain ⟨later, bag, hfold⟩ := foldl_checkStep_reference hpure hpresence htrim hsteps hsync
    context.clock MessageBag.empty [] 0
  have hcheck := (v.check_ok_iff context _ _).2 ⟨plan, _, hplan, hasync, hfold, rfl⟩
  have hbag : bag = MessageBag.ofLog (v.failures context) := check_bag hcheck
  have hpassed : (0 + (v.rules.directives.filter (v.isFailing context)).length == 0) =
      (v.failures context).isEmpty := by
    unfold failures
    cases v.rules.directives.filter (v.isFailing context) with
    | nil => rfl
    | cons entry rest => simp
  rw [hpassed, hbag] at hcheck
  exact ⟨later, hcheck⟩

end Run

end Validator

namespace Session

variable {s : Session} {index : Nat} {v : Validator}

/-- What a synchronous run of a validator does to the session. -/
theorem step_check (there : s.validators[index]? = some v) {passed : Bool} {scene : Scene}
    (hcheck : v.check s.context = .ok (passed, scene)) :
    (s.step (.check index)).2.1 = .bool passed ∧
      (s.step (.check index)).1 =
        { s with context := scene.context }.modifyValidator index
          fun v => { v with bag := scene.bag } := by
  simp only [step, withValidator, there, Session.check, hcheck, ofResult]
  exact ⟨trivial, trivial⟩

/-- With pure registered rules, and a synchronous rule for every directive, a run answers whether no
directive fails and leaves in the bag one message for each that does, in order. Another run gives
the same answer and the same bag. -/
theorem check_finds_failures (there : s.validators[index]? = some v)
    (pure : s.context.registry.IsPure) (ready : v.IsReady s.context) :
    let log := v.failures s.context
    let after := s.step (.check index)
    let again := after.1.step (.check index)
    after.2.1 = .bool log.isEmpty ∧
    after.1.bagOf index = MessageBag.ofLog log ∧
    (after.1.bagOf index).isEmpty = log.isEmpty ∧
    (∃ later, after.1 = { s with context := s.context.atTime later }.modifyValidator index
      fun v => { v with bag := MessageBag.ofLog log }) ∧
    again.2.1 = after.2.1 ∧ again.1.bagOf index = after.1.bagOf index := by
  intro log after again
  obtain ⟨later, hcheck⟩ := Validator.check_eq pure ready
  obtain ⟨hanswer, hafter⟩ := step_check there hcheck
  have hbag : after.1.bagOf index = MessageBag.ofLog log := by
    rw [hafter, bagOf_modifyValidator (s := { s with context := s.context.atTime later }) there,
      if_pos rfl]
  have hempty : (after.1.bagOf index).isEmpty = log.isEmpty := by
    rw [hbag, Bool.eq_iff_iff, MessageBag.isEmpty_ofLog, List.isEmpty_iff]
  -- the second run meets the same registry, rules, input and wording
  have there' : after.1.validators[index]? = some { v with bag := MessageBag.ofLog log } := by
    rw [hafter]
    simp [modifyValidator, there, log]
  have hcontext : after.1.context = s.context.atTime later := by rw [hafter]; rfl
  have pure' : after.1.context.registry.IsPure := by
    rw [hcontext]
    exact pure
  have ready' : { v with bag := MessageBag.ofLog log }.IsReady after.1.context := by
    rw [hcontext]
    exact ready
  have hsame : { v with bag := MessageBag.ofLog log }.failures after.1.context = log := by
    rw [hcontext]
    rfl
  obtain ⟨last, hcheck'⟩ := Validator.check_eq pure' ready'
  rw [hsame] at hcheck'
  obtain ⟨hanswer', hafter'⟩ := step_check there' hcheck'
  refine ⟨hanswer, hbag, hempty, ⟨later, hafter⟩, hanswer'.trans hanswer.symm, ?_⟩
  rw [hafter', bagOf_modifyValidator (s := { after.1 with
    context := after.1.context.atTime last }) there', if_pos rfl, hbag]

/-- A context with a rule that asks for an argument. -/
def givenContext : Context :=
  Context.initial.register "given" (.pure fun s => s.argument.isSome) false "No :attribute given."

/-- Two of the directives fail; the rule of another does not count, as its value is absent. -/
def givenValidator : Validator :=
  { input := [("a", .string "x"), ("b", .null)]
    rules := Dict.ofList [("a", [⟨"given", none⟩, ⟨"given", some "1"⟩]), ("b", [⟨"given", none⟩]),
      ("c", [⟨"required", none⟩])]
    wording := {}
    bag := MessageBag.empty.add "b" "This was left before." }

theorem check_finds_failures_given :
    let s : Session := { context := givenContext, validators := [givenValidator] }
    let log : List (Failure × String) := [(⟨"a", ⟨"given", none⟩, .string, none⟩, "No a given."),
      (⟨"c", ⟨"required", none⟩, .unsized, none⟩, "The c field is required.")]
    givenContext.registry.IsPure ∧ givenValidator.IsReady givenContext ∧
      (s.step (.check 0)).2.1 = .bool false ∧
      (s.step (.check 0)).1.bagOf 0 = MessageBag.ofLog log := by
  intro s log
  have pure : givenContext.registry.IsPure :=
    Registry.IsPure.register (Registry.judges_initial _) "given" _ false
  have ready : givenValidator.IsReady givenContext := by
    have hentries : givenValidator.rules.directives = [("a", ⟨"given", none⟩),
        ("a", ⟨"given", some "1"⟩), ("b", ⟨"given", none⟩), ("c", ⟨"required", none⟩)] := by
      decide +kernel
    rw [Validator.IsReady, hentries]
    simp only [List.forall_mem_cons]
    refine ⟨⟨_, rfl, rfl⟩, ⟨_, rfl, rfl⟩, ⟨_, rfl, rfl⟩, ⟨_, rfl, rfl⟩, by simp⟩
  have hlog : givenValidator.failures givenContext = log := by decide +kernel
  obtain ⟨hanswer, hbag, -⟩ := @check_finds_failures s 0 givenValidator rfl pure ready
  have hcontext : s.context = givenContext := rfl
  rw [hcontext, hlog] at hanswer hbag
  exact ⟨pure, ready, hanswer, hbag⟩

end Session

end FieldRules
