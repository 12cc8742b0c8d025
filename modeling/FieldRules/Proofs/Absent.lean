import FieldRules.Proofs.Reference
import FieldRules.Proofs.Text.Trimmed

namespace FieldRules

/-- The input with a null member in some place. -/
structure NullMember (input input' : Fields) (key : String) : Prop where
  absent : input.lookup key = none
  split : ∃ before after, input = before ++ after ∧ input' = before ++ (key, .null) :: after

namespace NullMember

variable {input input' : Fields} {key : String} (h : NullMember input input' key)
include h

theorem lookup (other : String) :
    input'.lookup other = if other = key then some .null else input.lookup other := by
  obtain ⟨before, after, rfl, rfl⟩ := h.split
  have habsent := h.absent
  rw [List.lookup_append] at habsent ⊢
  rw [List.lookup_append, List.lookup_cons]
  by_cases ho : other = key
  · subst ho
    simp [(Option.or_eq_none_iff.1 habsent).1]
  · simp [ho, beq_false_of_ne ho]

/-- Its value is that of a member that is not there. -/
theorem value (other : String) : Fields.value input' other = Fields.value input other := by
  rw [Fields.value, Fields.value, h.lookup]
  by_cases ho : other = key
  · simp [ho, h.absent]
  · simp [ho]

end NullMember

namespace Subject

/-- The subject in another input. -/
def inInput (s : Subject) (input : Fields) : Subject := { s with input }

/-- Whether the value is a date that lies before or after the one that the argument writes, as a rule
that compares dates asks. -/
def meetsLiteral (rule : Builtin) (s : Subject) : Bool :=
  match rule, date? s.value, s.argument.bind Moment.parse? with
  | .after, some own, some reference => reference.before own
  | .before, some own, some reference => own.before reference
  | _, _, _ => false

variable {s : Subject} {input' : Fields} {key : String}

theorem reference?_inInput (h : NullMember s.input input' key) :
    (s.inInput input').reference? =
      if s.argument = some key then none else s.reference? := by
  unfold reference?
  cases hargument : s.argument with
  | none => simp [inInput, hargument]
  | some argument =>
    simp only [inInput, hargument, h.lookup, bind, Option.bind_some, Option.some.injEq]
    by_cases ha : argument = key
    · simp [ha, date?, Json.string?]
    · simp [ha]

/-- Without a member of that key, the reference is what the argument writes. -/
theorem reference?_of_absent (habsent : s.input.lookup key = none) (ha : s.argument = some key) :
    s.reference? = s.argument.bind Moment.parse? := by
  simp [reference?, ha, habsent]

end Subject

namespace Builtin

open Subject

variable {s : Subject} {input' : Fields} {key : String}

/-- Rules see other members only by their values, but for the rules that compare dates. -/
theorem holds_inInput (h : ∀ other, Fields.value input' other = Fields.value s.input other)
    (rule : Builtin) (hrule : (s.inInput input').reference? = s.reference? ∨
      (rule ≠ .after ∧ rule ≠ .before)) :
    rule.holds (s.inInput input') = rule.holds s := by
  have hother (other : String) : (s.inInput input').other other = s.other other := h other
  have hhas : (s.inInput input').hasOther = s.hasOther := by
    funext other
    rw [hasOther, hother]
    rfl
  have hequals : (s.inInput input').otherEquals? = s.otherEquals? := by
    unfold otherEquals?
    simp only [hother]
    rfl
  cases rule with
  | requiredIf | requiredUnless =>
    simp only [holds, hequals]
    rfl
  | requiredWith | requiredWithout =>
    simp only [holds, hhas]
    rfl
  | same | different | confirmed =>
    simp only [holds, hother]
    rfl
  | after | before =>
    obtain heq | ⟨hafter, hbefore⟩ := hrule
    · simp only [holds, heq]
      rfl
    · simp at hafter hbefore
  | _ => rfl

/-- The two rules that compare dates ask for nothing else than that. -/
theorem holds_eq_meetsLiteral {rule : Builtin} (hrule : rule = .after ∨ rule = .before)
    (hwritten : s.reference? = s.argument.bind Moment.parse?) :
    rule.holds s = s.meetsLiteral rule := by
  rcases hrule with rfl | rfl <;> simp only [holds, meetsLiteral, hwritten] <;>
    cases date? s.value <;> cases s.argument.bind Moment.parse? <;> rfl

theorem eq_of_meetsLiteral {rule : Builtin} (h : s.meetsLiteral rule = true) :
    (rule = .after ∨ rule = .before) ∧ ∃ own, date? s.value = some own := by
  unfold meetsLiteral at h
  split at h
  · next own _ hown _ => exact ⟨.inl rfl, own, hown⟩
  · next own _ hown _ => exact ⟨.inr rfl, own, hown⟩
  · simp at h

/-- With a null member a rule of the catalog holds as before, unless it compares the value with the
date that the key writes. -/
theorem holds_nullMember (h : NullMember s.input input' key) (rule : Builtin) :
    rule.holds (s.inInput input') =
      (rule.holds s && !(s.argument == some key && s.meetsLiteral rule)) := by
  by_cases ha : s.argument = some key
  · have hnone : (s.inInput input').reference? = none := by
      rw [reference?_inInput h, if_pos ha]
    by_cases hrule : rule = .after ∨ rule = .before
    · have hfails : rule.holds (s.inInput input') = false := by
        rcases hrule with rfl | rfl <;> simp [holds, hnone]
      have hliteral := holds_eq_meetsLiteral hrule (reference?_of_absent h.absent ha)
      simp [hfails, hliteral, ha]
    · have hquiet : s.meetsLiteral rule = false := by
        rw [← Bool.not_eq_true]
        exact fun hmeets => hrule (eq_of_meetsLiteral hmeets).1
      rw [holds_inInput h.value rule (.inr (not_or.1 hrule))]
      simp [hquiet]
  · have hsame : (s.inInput input').reference? = s.reference? := by
      rw [reference?_inInput h, if_neg ha]
    rw [holds_inInput h.value rule (.inl hsame)]
    simp [ha]

end Builtin

theorem Moment.parse?_of_isAllBlank {text : String} (h : Text.isAllBlank text = true) :
    Moment.parse? text = none := by
  rw [Moment.parse?, (Text.trimChars_eq_nil_iff text.toList).2 h]
  decide

theorem Json.isPresent_of_date {value : Json} {moment : Moment}
    (h : Subject.date? value = some moment) (trim : Bool) : value.isPresent trim = true := by
  cases value with
  | string text =>
    have hblank : Text.isAllBlank text = false := by
      rw [← Bool.not_eq_true]
      intro hblank
      have hnone := Moment.parse?_of_isAllBlank hblank
      simp [Subject.date?, Json.string?, hnone] at h
    have hempty : text.isEmpty = false := by
      rw [← Bool.not_eq_true]
      intro hempty
      rw [String.isEmpty_iff] at hempty
      simp [Text.isAllBlank, hempty] at hblank
    cases trim <;> simp [isPresent, hblank, hempty]
  | _ => simp [Subject.date?, Json.string?] at h

namespace Validator

/-- Whether a directive compares the date of its field with the one that the key writes, and is
content with what it finds. -/
def losesReference (v : Validator) (key : String) (entry : String × Directive) : Bool :=
  entry.2.argument == some key &&
    match Subject.date? (v.input.value entry.1), Moment.parse? key with
    | some own, some reference =>
      (entry.2.name == "after" && reference.before own) ||
        (entry.2.name == "before" && own.before reference)
    | _, _ => false

theorem losesReference_eq (v : Validator) (context : Context) {key : String}
    {entry : String × Directive} {rule : Builtin} (hrule : Builtin.ofName? entry.2.name = some rule) :
    v.losesReference key entry =
      (entry.2.argument == some key && (v.subjectOf context entry).meetsLiteral rule) := by
  have hname := Builtin.name_of_ofName? hrule
  have hafter : (entry.2.name == "after") = decide (rule = .after) := by
    rw [← hname]
    cases rule <;> decide
  have hbefore : (entry.2.name == "before") = decide (rule = .before) := by
    rw [← hname]
    cases rule <;> decide
  rw [losesReference, hafter, hbefore]
  cases ha : entry.2.argument == some key with
  | false => rfl
  | true =>
    have hargument : (v.subjectOf context entry).argument.bind Moment.parse? =
        Moment.parse? key := by
      show entry.2.argument.bind Moment.parse? = _
      rw [eq_of_beq ha]
      rfl
    have hvalue : (v.subjectOf context entry).value = v.input.value entry.1 := rfl
    unfold Subject.meetsLiteral
    rw [hargument, hvalue]
    cases Subject.date? (v.input.value entry.1) <;> cases Moment.parse? key <;> cases rule <;> simp

/-- A directive that loses its reference has a value that is there, and was content before. -/
theorem content_of_losesReference {v : Validator} {key : String} {entry : String × Directive}
    {rule : Builtin} (hrule : Builtin.ofName? entry.2.name = some rule) (context : Context)
    (habsent : v.input.lookup key = none) (h : v.losesReference key entry = true) :
    (v.subjectOf context entry).isPresent = true ∧
      rule.holds (v.subjectOf context entry) = true := by
  rw [losesReference_eq v context hrule, Bool.and_eq_true] at h
  obtain ⟨hargument, hmeets⟩ := h
  obtain ⟨hdates, own, hown⟩ := Builtin.eq_of_meetsLiteral hmeets
  have ha : (v.subjectOf context entry).argument = some key := eq_of_beq hargument
  have hwritten := Subject.reference?_of_absent (s := v.subjectOf context entry) habsent ha
  exact ⟨Json.isPresent_of_date hown _, (Builtin.holds_eq_meetsLiteral hdates hwritten).trans hmeets⟩

section Stock

variable {v : Validator} {context : Context} (stock : context.registry = Registry.initial)
include stock

theorem isAsync_of_stock (name : String) : context.registry.isAsync name = false := by
  rw [stock]
  rfl

theorem answer_of_stock (name : String) (s : Subject) :
    context.registry.answer name s = (Builtin.ofName? name).any (·.holds s) := by
  rw [stock]
  rfl

theorem isPresent_of_stock (s : Subject) : context.registry.isPresent s = s.isPresent := by
  rw [stock]
  rfl

theorem exists_rule_of_plan {plan : Plan} (h : v.plan context = .ok plan)
    (entry : String × Directive) (hm : entry ∈ v.rules.directives) :
    ∃ rule, Builtin.ofName? entry.2.name = some rule := by
  have hknown := (Plan.exists_make_iff context v.rules).1 ⟨plan, h⟩ entry hm
  rw [stock] at hknown
  exact Option.isSome_iff_exists.1 hknown

theorem isFailing_of_losesReference {key : String} {entry : String × Directive} {rule : Builtin}
    (hrule : Builtin.ofName? entry.2.name = some rule) (habsent : v.input.lookup key = none)
    (h : v.losesReference key entry = true) : v.isFailing context entry = false := by
  have hholds := (content_of_losesReference hrule context habsent h).2
  simp [isFailing, answer_of_stock stock, hrule, hholds]

/-- With a null member a directive fails if it did, and also if it loses its reference. -/
theorem isFailing_nullMember {input' : Fields} {key : String} (h : NullMember v.input input' key)
    {entry : String × Directive} {rule : Builtin}
    (hrule : Builtin.ofName? entry.2.name = some rule) :
    { v with input := input' }.isFailing context entry =
      (v.isFailing context entry || v.losesReference key entry) := by
  have hsubject : { v with input := input' }.subjectOf context entry =
      (v.subjectOf context entry).inInput input' := by
    simp [subjectOf, Subject.ofField, Subject.inInput, h.value]
  have happlicable : { v with input := input' }.isApplicable context entry =
      v.isApplicable context entry := by
    unfold isApplicable
    rw [isPresent_of_stock stock, isPresent_of_stock stock]
    simp [Subject.isPresent, Subject.ofField, h.value]
  have hholds : rule.holds ((v.subjectOf context entry).inInput input') =
      (rule.holds (v.subjectOf context entry) && !v.losesReference key entry) := by
    rw [losesReference_eq v context hrule]
    exact Builtin.holds_nullMember (s := v.subjectOf context entry) h rule
  unfold isFailing
  rw [happlicable, answer_of_stock stock, answer_of_stock stock, hsubject, hrule, Option.any_some,
    Option.any_some, hholds]
  cases hloses : v.losesReference key entry with
  | false => simp
  | true =>
    have hpresent := (content_of_losesReference hrule context h.absent hloses).1
    have hcounts : v.isApplicable context entry = true := by
      unfold isApplicable
      rw [isPresent_of_stock stock]
      exact Bool.or_eq_true_iff.2 (.inr hpresent)
    simp [hcounts]

/-- The same directives fail, and those that lose their reference. -/
theorem failures_nullMember {input' : Fields} {key : String} (h : NullMember v.input input' key)
    {plan : Plan} (hplan : v.plan context = .ok plan) :
    { v with input := input' }.failures context =
      (v.rules.directives.filter fun entry =>
        v.isFailing context entry || v.losesReference key entry).map (v.failureEntry context) := by
  have hentry : { v with input := input' }.failureEntry context = v.failureEntry context := by
    funext entry
    simp [failureEntry, word, h.value]
  have hfilter : v.rules.directives.filter ({ v with input := input' }.isFailing context) =
      v.rules.directives.filter fun entry =>
        v.isFailing context entry || v.losesReference key entry := by
    refine List.filter_congr fun entry hm => ?_
    obtain ⟨rule, hrule⟩ := exists_rule_of_plan stock hplan entry hm
    exact isFailing_nullMember stock h hrule
  rw [failures, hentry, hfilter]

/-- The bags differ as soon as one directive loses its reference. -/
theorem ofLog_failures_nullMember_iff {input' : Fields} {key : String}
    (h : NullMember v.input input' key) {plan : Plan} (hplan : v.plan context = .ok plan) :
    MessageBag.ofLog ({ v with input := input' }.failures context) =
        MessageBag.ofLog (v.failures context) ↔
      ∀ entry ∈ v.rules.directives, v.losesReference key entry = false := by
  rw [failures_nullMember stock h hplan]
  constructor
  · intro hbags entry hm
    have hsub : (v.rules.directives.filter (v.isFailing context)).Sublist
        (v.rules.directives.filter fun entry =>
          v.isFailing context entry || v.losesReference key entry) :=
      List.monotone_filter_right _ fun entry hfailing => by simp [hfailing]
    have hcount := congrArg MessageBag.count hbags
    rw [MessageBag.count_ofLog, MessageBag.count_ofLog, failures, List.length_map,
      List.length_map] at hcount
    have hsame := hsub.eq_of_length hcount.symm
    rw [← Bool.not_eq_true]
    intro hloses
    have hfailing : entry ∈ v.rules.directives.filter (v.isFailing context) := by
      rw [hsame, List.mem_filter]
      exact ⟨hm, by simp [hloses]⟩
    obtain ⟨rule, hrule⟩ := exists_rule_of_plan stock hplan entry hm
    have hcontent := isFailing_of_losesReference stock hrule h.absent hloses
    simp [hcontent] at hfailing
  · intro hkeeps
    have hfilter : (v.rules.directives.filter fun entry =>
        v.isFailing context entry || v.losesReference key entry) =
          v.rules.directives.filter (v.isFailing context) :=
      List.filter_congr fun entry hm => by simp [hkeeps entry hm]
    rw [hfilter, failures]

/-- With the rules of the catalog alone, a null member in the place of none changes the verdict or
the bag of a run exactly if some directive loses its reference by it. Those that do fail besides
what failed before. -/
theorem null_member_changes_iff {input' : Fields} {key : String}
    (added : NullMember v.input input' key) :
    let w := { v with input := input' }
    (∃ error, v.check context = .error error ∧ w.check context = .error error) ∨
    ∃ scene scene', v.check context = .ok (scene.log.isEmpty, scene) ∧
      w.check context = .ok (scene'.log.isEmpty, scene') ∧
      (scene'.log.isEmpty = scene.log.isEmpty ∧ scene'.bag = scene.bag ↔
        ∀ entry ∈ v.rules.directives, v.losesReference key entry = false) ∧
      (∀ entry ∈ v.rules.directives, v.losesReference key entry = true →
        v.isFailing context entry = false) ∧
      scene.log = (v.rules.directives.filter (v.isFailing context)).map (v.failureEntry context) ∧
      scene'.log = (v.rules.directives.filter fun entry =>
        v.isFailing context entry || v.losesReference key entry).map (v.failureEntry context) := by
  intro w
  have hpure : context.registry.IsPure := by
    rw [stock]
    exact Registry.judges_initial _
  cases hplan : v.plan context with
  | error error =>
    have hplan' : w.plan context = .error error := hplan
    left
    refine ⟨error, ?_, ?_⟩
    · rw [check, hplan]
      rfl
    · rw [check, hplan']
      rfl
  | ok plan =>
    have hplan' : w.plan context = .ok plan := hplan
    have hsync (entry : String × Directive) : context.registry.isAsync entry.2.name = false :=
      isAsync_of_stock stock _
    obtain ⟨later, hcheck⟩ := check_eq hpure (isReady_of_plan hplan fun entry _ => hsync entry)
    obtain ⟨later', hcheck'⟩ := check_eq hpure (isReady_of_plan hplan' fun entry _ => hsync entry)
    have hbags := ofLog_failures_nullMember_iff stock added hplan
    have hlog := failures_nullMember stock added hplan
    refine .inr ⟨⟨_, _, v.failures context⟩, ⟨_, _, w.failures context⟩, hcheck, hcheck', ?_, ?_,
      rfl, hlog⟩
    · constructor
      · exact fun hsame => hbags.1 hsame.2
      · intro hkeeps
        have hbag := hbags.2 hkeeps
        refine ⟨?_, hbag⟩
        rw [Bool.eq_iff_iff, List.isEmpty_iff, List.isEmpty_iff, ← MessageBag.isEmpty_ofLog,
          ← MessageBag.isEmpty_ofLog, hbag]
    · intro entry hm hloses
      obtain ⟨rule, hrule⟩ := exists_rule_of_plan stock hplan entry hm
      exact isFailing_of_losesReference stock hrule added.absent hloses

end Stock

/-- A day that should be after another day. -/
def dayValidator : Validator where
  input := [("day", .string "2024-05-01")]
  rules := Dict.ofList [("day", [⟨"after", some "2024-01-01"⟩])]
  wording := {}
  bag := MessageBag.empty

def dayInput : Fields := [("day", .string "2024-05-01"), ("2024-01-01", .null)]

/-- A run that passes fails once there is a null member that has the other day for its key. -/
theorem null_member_fails_day :
    NullMember dayValidator.input dayInput "2024-01-01" ∧
    dayValidator.outcome Context.initial = some (true, []) ∧
    { dayValidator with input := dayInput }.outcome Context.initial =
      some (false, [("day", ["The day must be after 2024-01-01."])]) := by
  refine ⟨⟨by decide, dayValidator.input, [], rfl, rfl⟩, ?_⟩
  decide +kernel

/-- The day should also be before an end, which is null. -/
def spanValidator : Validator where
  input := [("day", .string "2024-05-01"), ("end", .null)]
  rules := Dict.ofList [("day", [⟨"after", some "2024-01-01"⟩, ⟨"before", some "end"⟩])]
  wording := {}
  bag := MessageBag.empty

def spanInput : Fields := [("day", .string "2024-05-01"), ("2024-01-01", .null), ("end", .null)]

theorem nullMember_span : NullMember spanValidator.input spanInput "2024-01-01" where
  absent := by decide
  split := ⟨[("day", .string "2024-05-01")], [("end", .null)], rfl, rfl⟩

/-- The first of the two directives loses its reference; the other one failed before. -/
theorem null_member_changes_span :
    let failed (name argument : String) : Failure := ⟨"day", ⟨name, some argument⟩, .string, none⟩
    NullMember spanValidator.input spanInput "2024-01-01" ∧
    ∃ scene scene', spanValidator.check Context.initial = .ok (false, scene) ∧
      { spanValidator with input := spanInput }.check Context.initial = .ok (false, scene') ∧
      scene.log = [(failed "before" "end", "The day must be before end.")] ∧
      scene'.log = [(failed "after" "2024-01-01", "The day must be after 2024-01-01."),
        (failed "before" "end", "The day must be before end.")] ∧
      ¬(scene'.log.isEmpty = scene.log.isEmpty ∧ scene'.bag = scene.bag) := by
  intro failed
  refine ⟨nullMember_span, ?_⟩
  obtain ⟨error, herror, -⟩ | ⟨scene, scene', hcheck, hcheck', hsame, -, hlog, hlog'⟩ :=
    @null_member_changes_iff spanValidator Context.initial rfl spanInput "2024-01-01" nullMember_span
  · have hplanned : (spanValidator.check Context.initial).toOption.isSome = true := by
      decide +kernel
    simp [herror, Except.toOption] at hplanned
  · have hfailures : (spanValidator.rules.directives.filter
        (spanValidator.isFailing Context.initial)).map (spanValidator.failureEntry Context.initial) =
        [(failed "before" "end", "The day must be before end.")] := by decide +kernel
    have hfailures' : (spanValidator.rules.directives.filter fun entry =>
        spanValidator.isFailing Context.initial entry ||
          spanValidator.losesReference "2024-01-01" entry).map
            (spanValidator.failureEntry Context.initial) =
        [(failed "after" "2024-01-01", "The day must be after 2024-01-01."),
          (failed "before" "end", "The day must be before end.")] := by decide +kernel
    have hloses : ¬∀ entry ∈ spanValidator.rules.directives,
        spanValidator.losesReference "2024-01-01" entry = false := by decide +kernel
    rw [hfailures] at hlog
    rw [hfailures'] at hlog'
    rw [hlog] at hcheck
    rw [hlog'] at hcheck'
    exact ⟨scene, scene', hcheck, hcheck', hlog, hlog', mt hsame.1 hloses⟩

end Validator

end FieldRules
