import FieldRules.Proofs.Absent
import FieldRules.Proofs.Json.Rearranged
import FieldRules.Proofs.Rearranged

namespace FieldRules

namespace Json.Rearranged

variable {value other : Json} (h : Rearranged value other)
include h

theorem isPresent (trim : Bool) : other.isPresent trim = value.isPresent trim := by
  refine (h.congr (Json.isPresent trim) ?_ ?_).symm
  · intro items others hlength
    cases items <;> cases others <;> simp_all [Json.isPresent]
  · intro members others hlength
    cases members <;> cases others <;> simp_all [Json.isPresent]

theorem asText : other.asText = value.asText :=
  (h.congr Json.asText (fun _ _ _ => rfl) fun _ _ _ => rfl).symm

theorem asNumber : other.asNumber = value.asNumber :=
  (h.congr Json.asNumber (fun _ _ _ => rfl) fun _ _ _ => rfl).symm

theorem string? : other.string? = value.string? :=
  (h.congr Json.string? (fun _ _ _ => rfl) fun _ _ _ => rfl).symm

theorem size? (numeric : Bool) : other.size? numeric = value.size? numeric := by
  refine (h.congr (Json.size? numeric) (fun items others hlength => ?_) fun _ _ _ => rfl).symm
  simp [Json.size?, SizeKind.of, hlength]

theorem kind (numeric : Bool) : SizeKind.of numeric other = SizeKind.of numeric value :=
  (h.congr (SizeKind.of numeric) (fun _ _ _ => rfl) fun _ _ _ => rfl).symm

end Json.Rearranged

/-- The inputs have no member of that key, or members that are the same up to the order of the
members of objects in them. -/
def Fields.AlikeAt (input input' : Fields) (key : String) : Prop :=
  Option.Rel Json.Rearranged (input.lookup key) (input'.lookup key)

theorem Fields.AlikeAt.cases {input input' : Fields} {key : String} (h : AlikeAt input input' key) :
    (input.lookup key = none ∧ input'.lookup key = none) ∨
    ∃ member member', input.lookup key = some member ∧ input'.lookup key = some member' ∧
      member.Rearranged member' := by
  unfold Fields.AlikeAt at h
  generalize input.lookup key = found, input'.lookup key = found' at h ⊢
  cases h with
  | none => exact .inl ⟨rfl, rfl⟩
  | some halike => exact .inr ⟨_, _, rfl, rfl, halike⟩

theorem Fields.AlikeAt.value {input input' : Fields} {key : String} (h : AlikeAt input input' key) :
    (Fields.value input key).Rearranged (Fields.value input' key) := by
  rw [Fields.value, Fields.value]
  obtain ⟨hnone, hnone'⟩ | ⟨member, member', hsome, hsome', halike⟩ := h.cases
  · rw [hnone, hnone']
    exact .refl _
  · rw [hsome, hsome']
    exact halike

theorem Fields.alikeAt_of_rearranged {input input' : Fields}
    (h : Json.Rearranged (.object input) (.object input')) (key : String) :
    AlikeAt input input' key := by
  cases h with
  | refl =>
    unfold Fields.AlikeAt
    cases input.lookup key with
    | none => exact .none
    | some member => exact .some (.refl member)
  | object unique keys each => exact Json.lookup_rel unique keys each key

namespace Subject

/-- The keys under which a rule may look. -/
def named (s : Subject) : List String :=
  s.field :: (s.field ++ "_confirmation") :: (s.args ++ s.argument.toList)

/-- What a rule sees of two inputs that are alike at the keys under which it may look. -/
structure Alike (s s' : Subject) : Prop where
  field : s'.field = s.field
  argument : s'.argument = s.argument
  numeric : s'.numeric = s.numeric
  trim : s'.trim = s.trim
  value : s.value.Rearranged s'.value
  named : ∀ key ∈ s.named, Fields.AlikeAt s.input s'.input key

namespace Alike

variable {s s' : Subject} (h : s.Alike s')
include h

theorem args : s'.args = s.args := by rw [Subject.args, Subject.args, h.argument]

theorem other {key : String} (hkey : key ∈ s.named) : (s.other key).Rearranged (s'.other key) :=
  (h.named key hkey).value

theorem other_arg {key : String} (hkey : key ∈ s.args) : (s.other key).Rearranged (s'.other key) :=
  h.other (by simp [Subject.named, hkey])

theorem isPresent : s'.isPresent = s.isPresent := by
  rw [Subject.isPresent, Subject.isPresent, h.trim, h.value.isPresent]

theorem hasOther {key : String} (hkey : key ∈ s.args) : s'.hasOther key = s.hasOther key := by
  rw [Subject.hasOther, Subject.hasOther, h.trim, (h.other_arg hkey).isPresent]

theorem numericArg? (index : Nat) : s'.numericArg? index = s.numericArg? index := by
  rw [Subject.numericArg?, Subject.numericArg?, arg?, arg?, h.args]

theorem otherEquals? : s'.otherEquals? = s.otherEquals? := by
  unfold Subject.otherEquals?
  rw [arg?, arg?, arg?, arg?, h.args]
  cases hfirst : s.args[0]? with
  | none => rfl
  | some key =>
    cases s.args[1]? with
    | none => rfl
    | some expected =>
      have htext := (h.other_arg (List.mem_of_getElem? hfirst)).asText
      simp [htext]

theorem size? : s'.size? = s.size? := by
  rw [Subject.size?, Subject.size?, h.numeric, h.value.size?]

theorem digitCount? : s'.digitCount? = s.digitCount? := by
  rw [Subject.digitCount?, Subject.digitCount?, h.value.asText]

theorem hasForm (form : Pattern) : s'.hasForm form = s.hasForm form := by
  rw [Subject.hasForm, Subject.hasForm, h.value.asText]

theorem isListed? : s'.isListed? = s.isListed? := by
  rw [Subject.isListed?, Subject.isListed?, h.value.asText, h.args]

theorem date? : Subject.date? s'.value = Subject.date? s.value := by
  rw [Subject.date?, Subject.date?, h.value.string?]

theorem reference? : s'.reference? = s.reference? := by
  unfold Subject.reference?
  rw [h.argument]
  cases ha : s.argument with
  | none => rfl
  | some argument =>
    simp only [bind, Option.bind_some]
    obtain ⟨hnone, hnone'⟩ | ⟨member, member', hsome, hsome', halike⟩ :=
      (h.named argument (by simp [Subject.named, ha])).cases
    · rw [hnone, hnone']
    · simp only [hsome, hsome', Subject.date?, halike.string?]

end Alike

end Subject

/-- No rule of the catalog tells the two subjects apart. -/
theorem Builtin.holds_alike (rule : Builtin) {s s' : Subject} (h : s.Alike s') :
    rule.holds s' = rule.holds s := by
  cases rule with
  | required => exact h.isPresent
  | requiredIf | requiredUnless => simp only [holds, h.otherEquals?, h.isPresent]
  | requiredWith =>
    have hany : s.args.any s'.hasOther = s.args.any s.hasOther := by
      rw [Bool.eq_iff_iff, List.any_eq_true, List.any_eq_true]
      exact exists_congr fun key => and_congr_right fun hkey => by rw [h.hasOther hkey]
    simp only [holds, h.args, hany, h.isPresent]
  | requiredWithout =>
    have hany : (s.args.any fun key => !s'.hasOther key) = s.args.any fun key => !s.hasOther key := by
      rw [Bool.eq_iff_iff, List.any_eq_true, List.any_eq_true]
      exact exists_congr fun key => and_congr_right fun hkey => by rw [h.hasOther hkey]
    simp only [holds, h.args, hany, h.isPresent]
  | accepted => exact (h.value.congr isAccepted (fun _ _ _ => rfl) fun _ _ _ => rfl).symm
  | integer => exact (h.value.congr isInteger (fun _ _ _ => rfl) fun _ _ _ => rfl).symm
  | boolean => exact (h.value.congr isBoolean (fun _ _ _ => rfl) fun _ _ _ => rfl).symm
  | array => exact (h.value.congr isArray (fun _ _ _ => rfl) fun _ _ _ => rfl).symm
  | numeric => simp only [holds, h.value.asNumber]
  | string | ip => simp only [holds, h.value.string?]
  | min | max | between | size => simp only [holds, h.size?, h.numericArg?]
  | digits | digitsBetween => simp only [holds, h.digitCount?, h.numericArg?]
  | email | url | alpha | alphaDash | alphaNum => exact h.hasForm _
  | regex => simp only [holds, h.argument, h.value.asText]
  | date => simp only [holds, h.date?]
  | inList | notInList => simp only [holds, h.isListed?]
  | same | different =>
    simp only [holds, Subject.arg?, h.args]
    cases hfirst : s.args[0]? with
    | none => rfl
    | some key => simp only [(h.other_arg (List.mem_of_getElem? hfirst)).same h.value]
  | confirmed =>
    have hother : (s.other (s.field ++ "_confirmation")).Rearranged
        (s'.other (s.field ++ "_confirmation")) := h.other (by simp [Subject.named])
    simp only [holds, h.field, hother.same h.value]
  | after | before => simp only [holds, h.date?, h.reference?]

/-- The keys under which the rules of a field may look: that of the field, that of what confirms it,
and what the directives give as arguments, as a whole and part by part. -/
def RuleSet.watched (rules : RuleSet) (field : String) : List String :=
  field :: (field ++ "_confirmation") ::
    ((rules.get? field).getD []).flatMap fun d => d.args ++ d.argument.toList

/-- The messages of a field in the bag of a log are those of its failures. -/
theorem MessageBag.get_ofLog (log : List (Failure × String)) (field : String) :
    (ofLog log).get field = (log.filter (·.1.field = field)).map Prod.snd := by
  rw [ofLog_eq_ofPairs, get_ofPairs, List.filter_map, List.map_map]
  rfl

namespace Validator

variable {v : Validator} {context : Context} {input' : Fields}

theorem get_ofLog_failures (v : Validator) (context : Context) (field : String) :
    (MessageBag.ofLog (v.failures context)).get field =
      (v.rules.directives.filter fun e => e.1 = field && v.isFailing context e).map fun e =>
        (v.failureEntry context e).2 := by
  rw [MessageBag.get_ofLog, failures, List.filter_map, List.map_map, List.filter_filter]
  rfl

theorem named_subjectOf {entry : String × Directive} (hm : entry ∈ v.rules.directives)
    {key : String} (hkey : key ∈ (v.subjectOf context entry).named) :
    key ∈ v.rules.watched entry.1 := by
  obtain ⟨ds, hds, hd⟩ := (RuleSet.mem_directives _ entry.1 entry.2).1 hm
  have hnamed : (v.subjectOf context entry).named = entry.1 :: (entry.1 ++ "_confirmation") ::
      (entry.2.args ++ entry.2.argument.toList) := rfl
  rw [hnamed, List.mem_cons, List.mem_cons] at hkey
  rw [RuleSet.watched, List.mem_cons, List.mem_cons, hds]
  exact hkey.imp_right (.imp_right fun hin => List.mem_flatMap.2 ⟨entry.2, hd, hin⟩)

section Watched

variable (bag' : MessageBag) {entry : String × Directive} (hm : entry ∈ v.rules.directives)
  (watched : ∀ key ∈ v.rules.watched entry.1, Fields.AlikeAt v.input input' key)
include hm watched

theorem subjectOf_alike :
    (v.subjectOf context entry).Alike
      ({ v with input := input', bag := bag' }.subjectOf context entry) where
  field := rfl
  argument := rfl
  numeric := rfl
  trim := rfl
  value := (watched entry.1 (by simp [RuleSet.watched])).value
  named key hkey := watched key (named_subjectOf hm hkey)

theorem failureEntry_watched :
    { v with input := input', bag := bag' }.failureEntry context entry =
      v.failureEntry context entry := by
  have hsubject : (v.subjectOf context entry).Alike
      ({ v with input := input', bag := bag' }.subjectOf context entry) :=
    subjectOf_alike bag' hm watched
  have hkind := hsubject.value.kind (v.rules.isNumeric entry.1)
  exact congrArg (fun kind => let f : Failure := ⟨entry.1, entry.2, kind, none⟩
    (f, v.word context f)) hkind

/-- A directive fails in both inputs or in none. -/
theorem isFailing_watched (stock : context.registry = Registry.initial) :
    { v with input := input', bag := bag' }.isFailing context entry =
      v.isFailing context entry := by
  have hsubject : (v.subjectOf context entry).Alike
      ({ v with input := input', bag := bag' }.subjectOf context entry) :=
    subjectOf_alike bag' hm watched
  have hanswer : context.registry.answer entry.2.name
      ({ v with input := input', bag := bag' }.subjectOf context entry) =
        context.registry.answer entry.2.name (v.subjectOf context entry) := by
    rw [answer_of_stock stock, answer_of_stock stock]
    cases Builtin.ofName? entry.2.name with
    | none => rfl
    | some rule => exact rule.holds_alike hsubject
  unfold isFailing isApplicable
  rw [hanswer, isPresent_of_stock stock, isPresent_of_stock stock]
  exact congrArg (fun present => (context.registry.isImplicit entry.2.name || present) &&
    !context.registry.answer entry.2.name (v.subjectOf context entry)) hsubject.isPresent

end Watched

/-- With the rules of the catalog alone, what a run tells of a field rests on no more of the input
than the keys under which the rules of the field may look. So the order of members, anywhere in the
input, changes neither the verdict nor the bag. -/
theorem messages_of_watched {v : Validator} {context : Context}
    (stock : context.registry = Registry.initial)
    (builtin : ∀ entry ∈ v.rules.directives, (Builtin.ofName? entry.2.name).isSome = true)
    (input' : Fields) (bag' : MessageBag) :
    let w := { v with input := input', bag := bag' }
    ∃ passed scene passed' scene', v.check context = .ok (passed, scene) ∧
      w.check context = .ok (passed', scene') ∧
      (∀ field, (∀ key ∈ v.rules.watched field, Fields.AlikeAt v.input input' key) →
        scene'.bag.get field = scene.bag.get field) ∧
      (Json.Rearranged (.object v.input) (.object input') →
        passed' = passed ∧ scene'.bag = scene.bag ∧ scene'.log = scene.log) := by
  intro w
  have hpure : context.registry.IsPure := by
    rw [stock]
    exact Registry.judges_initial _
  have hready (u : Validator) (hrules : u.rules = v.rules) : u.IsReady context := by
    intro entry hm
    rw [hrules] at hm
    obtain ⟨rule, hrule⟩ := Option.isSome_iff_exists.1 (builtin entry hm)
    refine ⟨.builtin rule, ?_, rfl⟩
    rw [stock, Registry.make, hrule]
    rfl
  obtain ⟨later, hcheck⟩ := check_eq hpure (hready v rfl)
  obtain ⟨later', hcheck'⟩ := check_eq hpure (hready w rfl)
  refine ⟨_, _, _, _, hcheck, hcheck', fun field watched => ?_, fun hrearranged => ?_⟩
  · -- of the field the same directives fail, with the same messages
    rw [get_ofLog_failures, get_ofLog_failures]
    have hfilter : w.rules.directives.filter (fun e => e.1 = field && w.isFailing context e) =
        v.rules.directives.filter fun e => e.1 = field && v.isFailing context e := by
      refine List.filter_congr fun entry hm => ?_
      by_cases hfield : entry.1 = field
      · subst hfield
        rw [isFailing_watched (v := v) bag' hm watched stock]
      · simp [hfield]
    rw [hfilter]
    refine List.map_congr_left fun entry hentry => ?_
    rw [List.mem_filter, Bool.and_eq_true, decide_eq_true_iff] at hentry
    obtain ⟨hm, rfl, -⟩ := hentry
    rw [failureEntry_watched (v := v) bag' hm watched]
  · have hfailures : w.failures context = v.failures context := by
      have hwatched (entry : String × Directive) :
          ∀ key ∈ v.rules.watched entry.1, Fields.AlikeAt v.input input' key :=
        fun key _ => Fields.alikeAt_of_rearranged hrearranged key
      have hfilter : w.rules.directives.filter (w.isFailing context) =
          v.rules.directives.filter (v.isFailing context) :=
        List.filter_congr fun entry hm => isFailing_watched bag' hm (hwatched entry) stock
      rw [failures, hfilter, failures]
      refine List.map_congr_left fun entry hentry => ?_
      exact failureEntry_watched bag' (List.mem_of_mem_filter hentry) (hwatched entry)
    rw [hfailures]
    exact ⟨rfl, rfl, rfl⟩

theorem entries_of_outcome {passed : Bool} {scene : Scene}
    {result : Bool × List (String × List String)} (h : v.check context = .ok (passed, scene))
    (hresult : v.outcome context = some result) : scene.bag.messages.entries = result.2 := by
  rw [outcome, h] at hresult
  exact congrArg Prod.snd (Option.some.inj hresult)

/-- The place of work should be that of the home. -/
def placesValidator : Validator where
  input := [("home", .object [("city", .string "Bonn"), ("zip", .string "1")]),
    ("work", .object [("zip", .string "2"), ("city", .string "Bonn")])]
  rules := Dict.ofList [("work", [⟨"same", some "home"⟩, ⟨"confirmed", none⟩]),
    ("phone", [⟨"required_with", some "home"⟩])]
  wording := {}
  bag := MessageBag.empty

/-- The home is written the other way round, and there is a phone. -/
def placesInput : Fields :=
  [("phone", .string "555"),
    ("work", .object [("zip", .string "2"), ("city", .string "Bonn")]),
    ("home", .object [("zip", .string "1"), ("city", .string "Bonn")])]

theorem alikeAt_places (key : String) (hkey : key ≠ "phone") :
    Fields.AlikeAt placesValidator.input placesInput key := by
  have hhome : Json.Rearranged (.object [("city", .string "Bonn"), ("zip", .string "1")])
      (.object [("zip", .string "1"), ("city", .string "Bonn")]) := by
    refine .object (by decide) (List.Perm.swap _ _ _) fun key member other hm hm' => ?_
    simp only [List.mem_cons, Prod.mk.injEq, List.not_mem_nil, or_false] at hm hm'
    obtain ⟨rfl, rfl⟩ | ⟨rfl, rfl⟩ := hm <;> obtain ⟨hk, rfl⟩ | ⟨hk, rfl⟩ := hm' <;>
      first | exact .refl _ | simp at hk
  unfold Fields.AlikeAt placesValidator placesInput
  simp only [List.lookup_cons, beq_false_of_ne hkey]
  by_cases hfirst : key = "home"
  · subst hfirst
    exact .some hhome
  · simp only [beq_false_of_ne hfirst]
    by_cases hsecond : key = "work"
    · subst hsecond
      exact .some (.refl _)
    · simp only [beq_false_of_ne hsecond]
      exact .none

/-- The messages of one field are the same and those of the other are not, as a phone came. -/
theorem messages_of_watched_places :
    let w := { placesValidator with input := placesInput }
    (∀ entry ∈ placesValidator.rules.directives, (Builtin.ofName? entry.2.name).isSome = true) ∧
    (∀ key ∈ placesValidator.rules.watched "work",
      Fields.AlikeAt placesValidator.input placesInput key) ∧
    ∃ passed scene passed' scene', placesValidator.check Context.initial = .ok (passed, scene) ∧
      w.check Context.initial = .ok (passed', scene') ∧
      scene'.bag.get "work" = scene.bag.get "work" ∧
      scene.bag.get "work" =
        ["The work and home fields must match.", "The work confirmation does not match."] ∧
      scene.bag.get "phone" = ["The phone field is required when home is present."] ∧
      scene'.bag.get "phone" = [] := by
  intro w
  have builtin : ∀ entry ∈ placesValidator.rules.directives,
      (Builtin.ofName? entry.2.name).isSome = true := by decide +kernel
  have watched : ∀ key ∈ placesValidator.rules.watched "work",
      Fields.AlikeAt placesValidator.input placesInput key := by
    refine fun key hkey => alikeAt_places key ?_
    rintro rfl
    revert hkey
    decide +kernel
  obtain ⟨passed, scene, passed', scene', hcheck, hcheck', hfield, -⟩ :=
    @messages_of_watched placesValidator Context.initial rfl builtin placesInput MessageBag.empty
  have houtcome : placesValidator.outcome Context.initial = some (false,
      [("work", ["The work and home fields must match.", "The work confirmation does not match."]),
        ("phone", ["The phone field is required when home is present."])]) := by decide +kernel
  have houtcome' : w.outcome Context.initial = some (false,
      [("work", ["The work and home fields must match.",
        "The work confirmation does not match."])]) := by decide +kernel
  refine ⟨builtin, watched, _, _, _, _, hcheck, hcheck', hfield "work" watched, ?_⟩
  have hentries := entries_of_outcome hcheck houtcome
  have hentries' := entries_of_outcome hcheck' houtcome'
  simp only [MessageBag.get, Dict.get?, hentries, hentries']
  decide

end Validator

end FieldRules
