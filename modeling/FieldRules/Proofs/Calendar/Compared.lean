import FieldRules.Proofs.Reference

namespace FieldRules

/-- Two moments that differ come one after the other. -/
theorem Moment.before_or_before {a b : Moment} (h : a ≠ b) :
    a.before b = true ∨ b.before a = true := by
  obtain ⟨second, nano⟩ := a
  obtain ⟨second', nano'⟩ := b
  simp only [ne_eq, Moment.mk.injEq, not_and] at h
  simp only [before, Bool.or_eq_true, Bool.and_eq_true, decide_eq_true_eq, beq_iff_eq]
  omega

namespace Json

/-- The text of the value is a date. -/
def IsDate (value : Json) : Prop :=
  ∃ text, value = .string text ∧ (Moment.parse? text).isSome = true

/-- Both values are dates, and the first is the later one. -/
def IsLater (value other : Json) : Prop :=
  ∃ own reference, Subject.date? value = some own ∧ Subject.date? other = some reference ∧
    reference.before own = true

theorem isDate_iff (value : Json) : value.IsDate ↔ (Subject.date? value).isSome = true := by
  rw [IsDate, Subject.date?]
  cases value <;> simp [string?]

theorem not_isLater_self (value : Json) : ¬value.IsLater value := by
  rintro ⟨own, reference, hown, hreference, hbefore⟩
  obtain rfl : own = reference := Option.some.inj (hown.symm.trans hreference)
  rw [Moment.before_irrefl] at hbefore
  exact Bool.false_ne_true hbefore

namespace IsLater

variable {a b c : Json} (h : a.IsLater b)
include h

theorem trans (h' : b.IsLater c) : a.IsLater c := by
  obtain ⟨first, middle, hfirst, hmiddle, hbefore⟩ := h
  obtain ⟨middle', last, hmiddle', hlast, hbefore'⟩ := h'
  obtain rfl : middle = middle' := Option.some.inj (hmiddle.symm.trans hmiddle')
  exact ⟨first, last, hfirst, hlast, Moment.before_trans hbefore' hbefore⟩

theorem asymm : ¬b.IsLater a := fun h' => not_isLater_self a (h.trans h')

theorem isDate : a.IsDate ∧ b.IsDate := by
  obtain ⟨own, reference, hown, hreference, -⟩ := h
  rw [isDate_iff, isDate_iff, hown, hreference]
  exact ⟨rfl, rfl⟩

end IsLater

end Json

namespace Fields

variable (input : Fields) {key : String}

/-- The value that an argument stands for: that of the field which it names, or else itself as a
text. -/
def standsFor (argument : String) : Json := (input.lookup argument).getD (.string argument)

theorem standsFor_of_isSome (h : (input.lookup key).isSome = true) :
    input.standsFor key = input.value key := by
  obtain ⟨value, hvalue⟩ := Option.isSome_iff_exists.1 h
  rw [standsFor, Fields.value, hvalue]
  rfl

/-- A date is the value of a field that is there. -/
theorem standsFor_of_isDate (h : (input.value key).IsDate) :
    input.standsFor key = input.value key := by
  refine input.standsFor_of_isSome ?_
  obtain ⟨text, htext, -⟩ := h
  cases hlookup : input.lookup key with
  | none => simp [Fields.value, hlookup] at htext
  | some value => rfl

end Fields

namespace Subject

variable {s : Subject} {argument : String} (h : s.argument = some argument)
include h

theorem reference?_eq : s.reference? = date? (s.input.standsFor argument) := by
  simp only [reference?, h, Option.bind_eq_bind, Option.bind_some, Fields.standsFor]
  cases s.input.lookup argument <;> rfl

theorem holds_after_iff :
    Builtin.after.holds s = true ↔ s.value.IsLater (s.input.standsFor argument) := by
  simp only [Builtin.holds, reference?_eq h, Json.IsLater]
  cases date? s.value <;> cases date? (s.input.standsFor argument) <;> simp

theorem holds_before_iff :
    Builtin.before.holds s = true ↔ (s.input.standsFor argument).IsLater s.value := by
  simp only [Builtin.holds, reference?_eq h, Json.IsLater]
  cases date? s.value <;> cases date? (s.input.standsFor argument) <;> simp

end Subject

namespace Validator

/-- The rule accepts a field when it is given an argument. -/
def Accepts (v : Validator) (context : Context) (rule : Builtin) (field argument : String) : Prop :=
  rule.holds (v.subjectOf context (field, ⟨rule.name, some argument⟩)) = true

section Accepts

variable (v : Validator) (context : Context) (field argument : String)

theorem accepts_after_iff : v.Accepts context .after field argument ↔
    (v.input.value field).IsLater (v.input.standsFor argument) :=
  Subject.holds_after_iff rfl

theorem accepts_before_iff : v.Accepts context .before field argument ↔
    (v.input.standsFor argument).IsLater (v.input.value field) :=
  Subject.holds_before_iff rfl

end Accepts

/-- The rules `after` and `before` ask for one strict order on the fields of an input, each the
converse of the other. A text that names no field is compared as a field with this text, and what is
no date is neither before nor after anything. -/
theorem dates_in_strict_order (v : Validator) (context : Context) :
    let isKey (key : String) : Prop := (v.input.lookup key).isSome = true
    (∀ a b, isKey a → isKey b →
      (v.Accepts context .after a b ↔ v.Accepts context .before b a)) ∧
    (∀ a b, ¬(v.Accepts context .after a b ∧ v.Accepts context .before a b)) ∧
    (∀ a, ¬v.Accepts context .after a a ∧ ¬v.Accepts context .before a a) ∧
    (∀ a b c, v.Accepts context .after a b → v.Accepts context .after b c →
      v.Accepts context .after a c) ∧
    (∀ d, ¬isKey d → ∀ (v' : Validator) (context' : Context) (a k : String),
      v'.input.lookup k = some (.string d) → v'.input.value a = v.input.value a →
      (v.Accepts context .after a d ↔ v'.Accepts context' .after a k) ∧
      (v.Accepts context .before a d ↔ v'.Accepts context' .before a k)) ∧
    (∀ a x, ¬((v.input.value a).IsDate ∧ (v.input.standsFor x).IsDate) →
      ¬v.Accepts context .after a x ∧ ¬v.Accepts context .before a x) ∧
    ∀ a x own other, Subject.date? (v.input.value a) = some own →
      Subject.date? (v.input.standsFor x) = some other →
      v.Accepts context .after a x ∨ own = other ∨ v.Accepts context .before a x := by
  intro isKey
  simp only [accepts_after_iff, accepts_before_iff]
  refine ⟨fun a b ha hb => ?_, fun a b h => h.1.asymm h.2, fun a => ?_, fun a b c hab hbc => ?_,
    fun d hd v' context' a k hk ha => ?_, fun a x hdate => ?_, fun a x own other hown hother => ?_⟩
  · rw [v.input.standsFor_of_isSome ha, v.input.standsFor_of_isSome hb]
  · -- A date is the value of a field, and so the field stands for it too.
    refine ⟨fun h => ?_, fun h => ?_⟩
    · rw [v.input.standsFor_of_isDate h.isDate.1] at h
      exact Json.not_isLater_self _ h
    · rw [v.input.standsFor_of_isDate h.isDate.2] at h
      exact Json.not_isLater_self _ h
  · rw [v.input.standsFor_of_isDate hbc.isDate.1] at hab
    exact hab.trans hbc
  · have hliteral : v.input.standsFor d = .string d := by
      have hnone : v.input.lookup d = none := Option.not_isSome_iff_eq_none.1 hd
      simp [Fields.standsFor, hnone]
    have hfield : v'.input.standsFor k = .string d := by simp [Fields.standsFor, hk]
    rw [hliteral, hfield, ha]
    exact ⟨Iff.rfl, Iff.rfl⟩
  · exact ⟨fun h => hdate h.isDate, fun h => hdate h.isDate.symm⟩
  · by_cases hsame : own = other
    · exact .inr (.inl hsame)
    · rcases Moment.before_or_before hsame with hbefore | hafter
      · exact .inr (.inr ⟨other, own, hother, hown, hbefore⟩)
      · exact .inl ⟨own, other, hown, hother, hafter⟩

/-- A leap second and a half, the midnight after it, and the second before it on a clock that is an
hour ahead. -/
def leapDates : Fields :=
  [("leap", .string "2016-12-31T23:59:60.5Z"), ("year", .string " 01/01/2017 "),
   ("last", .string "2017-01-01T00:59:59+01:00"), ("note", .null)]

theorem dates_in_strict_order_leap :
    let v : Validator := ⟨leapDates, Dict.empty, {}, MessageBag.empty⟩
    let w : Validator := { v with input := ("day", .string "2017-1-2") :: leapDates }
    let c := Context.initial
    let last : Moment := ⟨63618911999, 0⟩
    let leap : Moment := ⟨63618911999, 1500000000⟩
    ((v.input.lookup "year").isSome = true ∧ (v.input.lookup "leap").isSome = true ∧
      v.Accepts c .after "year" "leap" ∧ v.Accepts c .before "leap" "year") ∧
    (v.Accepts c .after "leap" "last" ∧ v.Accepts c .after "year" "last") ∧
    (¬(v.input.lookup "2017-1-2").isSome = true ∧
      w.input.lookup "day" = some (.string "2017-1-2") ∧
      w.input.value "year" = v.input.value "year" ∧
      v.Accepts c .before "year" "2017-1-2" ∧ w.Accepts c .before "year" "day") ∧
    (¬((v.input.value "note").IsDate ∧ (v.input.standsFor "leap").IsDate) ∧
      ¬v.Accepts c .after "note" "leap" ∧ ¬v.Accepts c .before "note" "leap") ∧
    (Subject.date? (v.input.value "last") = some last ∧
      Subject.date? (v.input.standsFor "leap") = some leap ∧
      (v.Accepts c .after "last" "leap" ∨ last = leap ∨ v.Accepts c .before "last" "leap")) := by
  intro v w c last leap
  obtain ⟨hconverse, -, -, htrans, hliteral, hnone, htotal⟩ := dates_in_strict_order v c
  have hyear : v.Accepts c .after "year" "leap" := by unfold Accepts; decide +kernel
  have hleap : v.Accepts c .after "leap" "last" := by unfold Accepts; decide +kernel
  have hday : v.Accepts c .before "year" "2017-1-2" := by unfold Accepts; decide +kernel
  have hkeys : (v.input.lookup "year").isSome = true ∧ (v.input.lookup "leap").isSome = true ∧
      ¬(v.input.lookup "2017-1-2").isSome = true := by decide
  have hnote : ¬((v.input.value "note").IsDate ∧ (v.input.standsFor "leap").IsDate) := by
    rintro ⟨⟨text, htext, -⟩, -⟩
    cases htext
  have hlast : Subject.date? (v.input.value "last") = some last := by decide +kernel
  have hhalf : Subject.date? (v.input.standsFor "leap") = some leap := by decide +kernel
  exact ⟨⟨hkeys.1, hkeys.2.1, hyear, (hconverse _ _ hkeys.1 hkeys.2.1).1 hyear⟩,
    ⟨hleap, htrans _ _ _ hyear hleap⟩,
    ⟨hkeys.2.2, rfl, rfl, hday, (hliteral _ hkeys.2.2 w c _ _ rfl rfl).2.1 hday⟩,
    ⟨hnote, hnone _ _ hnote⟩, ⟨hlast, hhalf, htotal _ _ _ _ hlast hhalf⟩⟩

end Validator

end FieldRules
