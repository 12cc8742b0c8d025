import FieldRules.Proofs.Message.Lookup

namespace FieldRules

namespace Phrasebook

/-- What can be done with a phrasebook. -/
inductive Operation where
  | setDefault (language : String)
  | insert (language key template : String)
  | load (language : String) (pairs : List (String × String))
  | setRuleMessage (rule message : String)

def step (book : Phrasebook) : Operation → Phrasebook
  | .setDefault language => book.setDefault language
  | .insert language key template => book.insert language key template
  | .load language pairs => book.load language pairs
  | .setRuleMessage rule message => book.setRuleMessage rule message

/-- The phrasebook after a history that begins with the English messages. -/
def after (ops : List Operation) : Phrasebook := ops.foldl step initial

theorem template?_insert (book : Phrasebook) (changed language key k template : String) :
    (book.insert changed key template).template? language k =
      if language = changed ∧ k = key then some template else book.template? language k := by
  rw [insert, template?_update, Dict.get?_insert]
  by_cases hl : language = changed
  · subst hl
    by_cases hk : k = key <;> simp [hk, template?]
  · simp [hl]

/-- The key for rules without a template has no point, so it belongs to the kinds of no rule. -/
theorem isVariant_fallbackKey (rule : String) : isVariant rule fallbackKey = false := by
  rw [← Bool.not_eq_true, isVariant, List.isPrefixOf_iff_prefix]
  intro hp
  have hpoint : '.' ∈ fallbackKey.toList := hp.subset (by simp)
  revert hpoint
  decide

/-- There is an English template for rules without one. -/
def HasFallback (book : Phrasebook) : Prop := (book.template? english fallbackKey).isSome = true

theorem initial_hasFallback : initial.HasFallback := by
  rw [HasFallback]
  decide +kernel

theorem HasFallback.step {book : Phrasebook} (h : book.HasFallback) (op : Operation) :
    (book.step op).HasFallback := by
  rw [HasFallback] at h ⊢
  cases op with
  | setDefault language => rw [Phrasebook.step, template?_setDefault, h]
  | insert language key template =>
    rw [Phrasebook.step, template?_insert]
    split
    · rfl
    · exact h
  | load language pairs =>
    rw [Phrasebook.step, template?_load]
    split
    · next hl =>
      rw [← hl, Dict.get?_insertAll, Option.isSome_or]
      exact Bool.or_eq_true_iff.2 (.inr h)
    · exact h
  | setRuleMessage rule message =>
    rw [Phrasebook.step, template?_setRuleMessage, isVariant_fallbackKey]
    split
    · split
      · rfl
      · exact h
    · exact h

theorem after_hasFallback (ops : List Operation) : (after ops).HasFallback := by
  induction ops using List.reverseRecOn with
  | nil => exact initial_hasFallback
  | append_singleton ops op ih =>
    have hsnoc : after (ops ++ [op]) = (after ops).step op := by simp [after]
    rw [hsnoc]
    exact ih.step op

end Phrasebook

namespace Wording

/-- A place where a template may stand. -/
inductive Source where
  | custom (key : String)
  | stored (language key : String)
deriving DecidableEq

def find? (w : Wording) (book : Phrasebook) : Source → Option String
  | .custom key => w.custom.get? key
  | .stored language key => book.template? language key

/-- The names of the rules that measure a value. -/
def sizedRules : List String := (Builtin.all.filter Builtin.isSizeAware).map Builtin.name

/-- The places in one language: for the kind of the value, if the rule measures it and the kind has
a key, and for the rule. -/
def ruleSources (rule : String) (kind : SizeKind) (language : String) : List Source :=
  (if rule ∈ sizedRules then kind.key?.toList.map fun k => .stored language (rule ++ "." ++ k)
    else []) ++ [.stored language rule]

/-- The places in the order in which they are looked at. -/
def sources (w : Wording) (book : Phrasebook) (rule field : String) (kind : SizeKind) :
    List Source :=
  let language := w.language.getD book.defaultLanguage
  [.custom (rule ++ "." ++ field), .custom rule] ++ ruleSources rule kind language ++
    (if language = english then [] else ruleSources rule kind english) ++
    [.stored language "def", .stored english "def"]

theorem mem_sizedRules_iff (rule : String) :
    rule ∈ sizedRules ↔ (Builtin.ofName? rule).any Builtin.isSizeAware = true := by
  simp only [sizedRules, List.mem_map, List.mem_filter]
  constructor
  · intro hin
    obtain ⟨builtin, ⟨-, hsized⟩, rfl⟩ := hin
    rw [Builtin.ofName?_name]
    exact hsized
  · intro hany
    cases hname : Builtin.ofName? rule with
    | none => simp [hname] at hany
    | some builtin =>
      have hsized : builtin.isSizeAware = true := by simpa [hname] using hany
      exact ⟨builtin, ⟨builtin.mem_all, hsized⟩, Builtin.name_of_ofName? hname⟩

theorem ruleSources_eq (rule : String) (kind : SizeKind) (language : String) :
    ruleSources rule kind language =
      ((sizedKey? rule kind).toList ++ [rule]).map (.stored language) := by
  rw [ruleSources, sizedKey?]
  simp only [mem_sizedRules_iff]
  split
  · cases kind.key? <;> rfl
  · rfl

/-- After the custom templates come the places in languages; if the language is English, the last of
these comes twice. -/
theorem sources_eq (w : Wording) (book : Phrasebook) (rule field : String) (kind : SizeKind) :
    w.sources book rule field kind =
      [.custom (rule ++ "." ++ field), .custom rule] ++
        (w.places book rule kind).map (fun place => .stored place.1 place.2) ++
        if w.language.getD book.defaultLanguage = english then [.stored english "def"] else [] := by
  rw [sources, places, languages]
  split <;> simp [ruleSources_eq, Phrasebook.fallbackKey, Function.comp_def, *]

example : sources { language := some "de" } Phrasebook.initial "min" "age" .string =
    [.custom "min.age", .custom "min", .stored "de" "min.string", .stored "de" "min",
     .stored "en" "min.string", .stored "en" "min", .stored "de" "def", .stored "en" "def"] := by
  decide

theorem mem_places_fallback (w : Wording) (book : Phrasebook) (rule : String) (kind : SizeKind) :
    (english, "def") ∈ w.places book rule kind := by
  rw [places, languages]
  split <;> simp [Phrasebook.fallbackKey]

/-- What has been looked at need not be looked at again. -/
theorem findSome?_append_mem {α β : Type} (f : α → Option β) {l again : List α}
    (h : ∀ a ∈ again, a ∈ l) : (l ++ again).findSome? f = l.findSome? f := by
  rw [List.findSome?_append]
  cases hfound : l.findSome? f with
  | some b => rfl
  | none =>
    rw [List.findSome?_eq_none_iff] at hfound
    rw [Option.none_or, List.findSome?_eq_none_iff]
    exact fun a ha => hfound a (h a ha)

/-- The template is looked for in the places in order. -/
theorem findSome?_sources (w : Wording) (book : Phrasebook) (rule field : String)
    (kind : SizeKind) :
    (w.sources book rule field kind).findSome? (w.find? book) =
      (w.customTemplate? rule field <|>
        (w.places book rule kind).findSome? fun place => book.template? place.1 place.2) := by
  have hcustom : [Source.custom (rule ++ "." ++ field), .custom rule].findSome? (w.find? book) =
      w.customTemplate? rule field := by
    cases h : w.custom.get? (rule ++ "." ++ field) <;> cases h' : w.custom.get? rule <;>
      simp [customTemplate?, find?, h, h']
  have hagain : ∀ source ∈ (if w.language.getD book.defaultLanguage = english
      then [Source.stored english "def"] else []),
      source ∈ [Source.custom (rule ++ "." ++ field), .custom rule] ++
        (w.places book rule kind).map fun place => .stored place.1 place.2 := by
    intro source hsource
    obtain rfl : source = .stored english "def" := by
      split at hsource <;> simp_all
    exact List.mem_append_right _ (List.mem_map.2 ⟨_, w.mem_places_fallback book rule kind, rfl⟩)
  rw [sources_eq, findSome?_append_mem _ hagain, List.findSome?_append, hcustom,
    List.findSome?_map]
  cases w.customTemplate? rule field <;> rfl

/-- In any history of a phrasebook there is a template for every directive, field and kind of value,
and it is that of the first place that has one. English always has one for rules without. -/
theorem template_of_first_place (ops : List Phrasebook.Operation) (w : Wording)
    (directive : Directive) (field : String) (kind : SizeKind) :
    let book := Phrasebook.after ops
    (book.template? english "def").isSome = true ∧
    ∃ before place rest, w.sources book directive.name field kind = before ++ place :: rest ∧
      w.find? book place = some (w.template book directive.name field kind) ∧
      ∀ earlier ∈ before, w.find? book earlier = none := by
  intro book
  have hfallback : (book.template? english "def").isSome = true := Phrasebook.after_hasFallback ops
  have hlast : Source.stored english "def" ∈ w.sources book directive.name field kind := by
    simp [sources]
  have hfound : ((w.sources book directive.name field kind).findSome? (w.find? book)).isSome :=
    List.findSome?_isSome_iff.2 ⟨_, hlast, hfallback⟩
  obtain ⟨template, htemplate⟩ := Option.isSome_iff_exists.1 hfound
  have hchosen : w.template book directive.name field kind = template := by
    rw [template_eq, ← findSome?_sources, htemplate]
    rfl
  rw [hchosen]
  exact ⟨hfallback, List.findSome?_eq_some_iff.1 htemplate⟩

end Wording

end FieldRules
