import FieldRules.Proofs.Message.Lookup
import FieldRules.Proofs.Text.Trimmed

namespace FieldRules

namespace Dict

variable {α : Type}

theorem insertAll_append (d : Dict α) (first second : List (String × α)) :
    d.insertAll (first ++ second) = (d.insertAll first).insertAll second :=
  List.foldl_append

/-- What is given to another key does not count. -/
theorem lastValue?_middle {given key : String} (h : given ≠ key) (front back : List (String × α))
    (value : α) :
    lastValue? (front ++ (given, value) :: back) key = lastValue? (front ++ back) key := by
  simp [lastValue?, h]

end Dict

namespace Wording

theorem cutFirst_fieldKey {rule : String} (plain : '.' ∉ rule.toList) (field : String) :
    Text.cutFirst '.' (rule ++ "." ++ field).toList = some (rule.toList, field.toList) :=
  (Text.cutFirst_eq_some_iff '.' _ _ _).2 ⟨by simp, plain⟩

/-- The rule and the field are found in their key. -/
theorem fieldKey_inj {rule rule' field field' : String} (plain : '.' ∉ rule.toList)
    (plain' : '.' ∉ rule'.toList) (h : rule ++ "." ++ field = rule' ++ "." ++ field') :
    rule = rule' ∧ field = field' := by
  have hcut := cutFirst_fieldKey plain field
  rw [h, cutFirst_fieldKey plain' field', Option.some.injEq, Prod.mk.injEq, String.toList_inj,
    String.toList_inj] at hcut
  exact ⟨hcut.1.symm, hcut.2.symm⟩

theorem fieldKey_ne {rule : String} (plain : '.' ∉ rule.toList) (rule' field' : String) :
    rule' ++ "." ++ field' ≠ rule := by
  rintro rfl
  simp at plain

inductive Setting where
  | setLanguage (language : Option String)
  | setCustom (pairs : List (String × String))
  | setNames (pairs : List (String × String))
  | setFormatter (formatter : String → String)

def apply (w : Wording) : Setting → Wording
  | .setLanguage language => { w with language }
  | .setCustom pairs => w.setCustom pairs
  | .setNames pairs => w.setNames pairs
  | .setFormatter formatter => { w with formatter := some formatter }

/-- The wording after a history of settings. -/
def after (settings : List Setting) : Wording := settings.foldl apply {}

def Setting.overrides : Setting → List (String × String)
  | .setCustom pairs => pairs
  | _ => []

/-- All custom templates that were given, with their keys. -/
def overrides (settings : List Setting) : List (String × String) :=
  settings.flatMap Setting.overrides

theorem custom_apply (w : Wording) (setting : Setting) :
    (w.apply setting).custom = w.custom.insertAll setting.overrides := by
  cases setting <;> rfl

theorem custom_after (settings : List Setting) :
    (after settings).custom = Dict.ofList (overrides settings) := by
  induction settings using List.reverseRecOn with
  | nil => rfl
  | append_singleton settings setting ih =>
    have hsnoc : after (settings ++ [setting]) = (after settings).apply setting := by simp [after]
    have hall : overrides (settings ++ [setting]) = overrides settings ++ setting.overrides := by
      simp [overrides]
    rw [hsnoc, custom_apply, ih, hall, Dict.ofList, Dict.ofList, Dict.insertAll_append]

/-- The last template for a key is the one that is found. -/
theorem get?_custom_after (settings : List Setting) (key : String) :
    (after settings).custom.get? key = Dict.lastValue? (overrides settings) key := by
  rw [custom_after, Dict.get?_ofList]

theorem customTemplate?_after (settings : List Setting) (rule field : String) :
    (after settings).customTemplate? rule field =
      (Dict.lastValue? (overrides settings) (rule ++ "." ++ field)).or
        (Dict.lastValue? (overrides settings) rule) := by
  rw [customTemplate?, get?_custom_after, get?_custom_after, Option.orElse_eq_orElse,
    Option.orElse_eq_or]

/-- Custom templates have no say in the language. -/
theorem language_foldl {w w' : Wording} (h : w.language = w'.language) (settings : List Setting) :
    (settings.foldl apply w).language = (settings.foldl apply w').language := by
  induction settings generalizing w w' with
  | nil => exact h
  | cons setting rest ih =>
    refine ih ?_
    cases setting with
    | setLanguage language => rfl
    | setCustom pairs | setNames pairs | setFormatter formatter => exact h

theorem language_middle (front back : List Setting) (pairs : List (String × String)) :
    (after (front ++ .setCustom pairs :: back)).language = (after (front ++ back)).language := by
  rw [after, after, List.foldl_append, List.foldl_append, List.foldl_cons]
  have hfront : ((front.foldl apply {}).apply (.setCustom pairs)).language =
      (front.foldl apply {}).language := rfl
  exact language_foldl hfront back

theorem overrides_middle (front back : List Setting) (pairs : List (String × String)) :
    overrides (front ++ .setCustom pairs :: back) =
      overrides front ++ (pairs ++ overrides back) := by
  simp [overrides, Setting.overrides]

/-- Where there is no custom template it is as if there were none at all. -/
theorem template_eq_getD (w : Wording) (book : Phrasebook) (rule field : String) (kind : SizeKind) :
    w.template book rule field kind =
      (w.customTemplate? rule field).getD
        ({ w with custom := Dict.empty }.template book rule field kind) := by
  cases h : w.customTemplate? rule field with
  | none =>
    rw [template, h]
    rfl
  | some custom =>
    rw [template, h]
    rfl

theorem template_congr {w w' : Wording} {rule field : String} (language : w'.language = w.language)
    (custom : w'.customTemplate? rule field = w.customTemplate? rule field) (book : Phrasebook)
    (kind : SizeKind) : w'.template book rule field kind = w.template book rule field kind := by
  rw [template, template, languages, languages, language, custom]

/-- A custom template that is given at any time changes nothing for a rule on a field if its key is
neither that of the rule on the field nor, where the rule has no template for the field, that of the
rule. -/
theorem template_middle (front back : List Setting) (template : String) {key rule field : String}
    (other : key ≠ rule ++ "." ++ field)
    (hidden : key = rule →
      (Dict.lastValue? (overrides (front ++ back)) (rule ++ "." ++ field)).isSome = true)
    (book : Phrasebook) (kind : SizeKind) :
    (after (front ++ .setCustom [(key, template)] :: back)).template book rule field kind =
      (after (front ++ back)).template book rule field kind := by
  refine template_congr (language_middle front back _) ?_ book kind
  have hall : overrides (front ++ back) = overrides front ++ overrides back := by
    simp [overrides]
  rw [customTemplate?_after, customTemplate?_after, overrides_middle, hall, List.singleton_append,
    Dict.lastValue?_middle other]
  by_cases hrule : key = rule
  · obtain ⟨own, hown⟩ := Option.isSome_iff_exists.1 (hidden hrule)
    rw [← hall, hown]
    rfl
  · rw [Dict.lastValue?_middle hrule]

/-- The template of a rule on a field is the last custom one for both, or else the last one for the
rule, or else what it would be without any. What is given for other rules or fields does not change
it. -/
theorem overrides_hit_targets :
    (∀ (settings : List Setting) (rule field : String),
      let w := after settings
      let custom := (Dict.lastValue? (overrides settings) (rule ++ "." ++ field)).or
        (Dict.lastValue? (overrides settings) rule)
      w.customTemplate? rule field = custom ∧
      ∀ book kind, w.template book rule field kind =
        custom.getD ({ w with custom := Dict.empty }.template book rule field kind)) ∧
    ∀ (front back : List Setting) (text rule : String), '.' ∉ rule.toList →
      (∀ field rule' field', '.' ∉ rule'.toList → (rule', field') ≠ (rule, field) →
        ∀ book kind,
          (after (front ++ .setCustom [(rule ++ "." ++ field, text)] :: back)).template
              book rule' field' kind =
            (after (front ++ back)).template book rule' field' kind) ∧
      ∀ rule' field' book kind, '.' ∉ rule'.toList →
        (after (front ++ .setCustom [(rule, text)] :: back)).template book rule' field' kind ≠
            (after (front ++ back)).template book rule' field' kind →
          rule' = rule ∧
            Dict.lastValue? (overrides (front ++ back)) (rule ++ "." ++ field') = none := by
  constructor
  · intro settings rule field w custom
    have hcustom : w.customTemplate? rule field = custom :=
      customTemplate?_after settings rule field
    exact ⟨hcustom, fun book kind => hcustom ▸ w.template_eq_getD book rule field kind⟩
  · intro front back text rule plain
    constructor
    · intro field rule' field' plain' different book kind
      refine template_middle front back text (fun hkey => ?_) (fun hkey => ?_) book kind
      · obtain ⟨rfl, rfl⟩ := fieldKey_inj plain plain' hkey
        exact different rfl
      · exact absurd hkey (fieldKey_ne plain' rule field)
    · intro rule' field' book kind plain' changed
      have hother : rule ≠ rule' ++ "." ++ field' := (fieldKey_ne plain rule' field').symm
      have hrule : rule = rule' := by
        by_contra hne
        exact changed (template_middle front back text hother (absurd · hne) book kind)
      subst hrule
      refine ⟨rfl, ?_⟩
      by_contra hsome
      have hidden := Option.isSome_iff_ne_none.2 hsome
      exact changed (template_middle front back text hother (fun _ => hidden) book kind)

/-- The rule `min` is given templates twice, and one for a field with a point in its name. -/
def minSettings : List Setting :=
  [.setCustom [("min", "Too short."), ("min.user.name", "A short name.")],
   .setLanguage (some "de"), .setCustom [("min", "Too little."), ("max", "Too much.")]]

theorem overrides_hit_targets_min :
    let book := Phrasebook.initial
    let w := after minSettings
    (w.customTemplate? "min" "user.name" = some "A short name." ∧
      w.customTemplate? "min" "age" = some "Too little." ∧
      w.customTemplate? "size" "age" = none ∧
      w.template book "size" "age" .numeric =
        { w with custom := Dict.empty }.template book "size" "age" .numeric) ∧
    ('.' ∉ "min".toList ∧ '.' ∉ "max".toList ∧ ("max", "user.name") ≠ ("min", "user.name") ∧
      (after (minSettings ++ [.setCustom [("min" ++ "." ++ "user.name", "Longer!")]])).template book
        "max" "user.name" .string = w.template book "max" "user.name" .string) ∧
    ((after (minSettings ++ [.setCustom [("min", "More!")]])).template book "min" "age" .string ≠
        w.template book "min" "age" .string ∧
      Dict.lastValue? (overrides minSettings) ("min" ++ "." ++ "age") = none) := by
  intro book w
  obtain ⟨hchosen, hadded⟩ := overrides_hit_targets
  have hmin : '.' ∉ "min".toList := by decide
  have hmax : '.' ∉ "max".toList := by decide
  have hchanged : (after (minSettings ++ [.setCustom [("min", "More!")]])).template book
      "min" "age" .string ≠ w.template book "min" "age" .string := by
    decide
  obtain ⟨hnone, hlookup⟩ := hchosen minSettings "size" "age"
  have hempty : w.customTemplate? "size" "age" = none := hnone.trans (by decide)
  have hsize := hlookup book .numeric
  rw [← hnone, hempty] at hsize
  have hmore := (hadded minSettings [] "More!" "min" hmin).2 "min" "age" book .string hmin hchanged
  exact ⟨⟨(hchosen minSettings "min" "user.name").1.trans (by decide),
      (hchosen minSettings "min" "age").1.trans (by decide), hempty, hsize⟩,
    ⟨hmin, hmax, by decide, (hadded minSettings [] "Longer!" "min" hmin).1 "user.name" "max"
      "user.name" hmax (by decide) book .string⟩,
    ⟨hchanged, hmore.2⟩⟩

end Wording

end FieldRules
