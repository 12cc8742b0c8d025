import FieldRules.Message.Wording
import FieldRules.Proofs.Dict

namespace FieldRules

namespace Phrasebook

theorem template?_update (book : Phrasebook) (changed language key : String)
    (change : Dict String → Dict String) :
    (book.update changed change).template? language key =
      if language = changed then (change (book.templates changed)).get? key
      else book.template? language key := by
  unfold template? templates update
  rw [Dict.get?_insert]
  split <;> rfl

@[simp]
theorem template?_setDefault (book : Phrasebook) (default language key : String) :
    (book.setDefault default).template? language key = book.template? language key := by
  have hupdate := template?_update book default language key id
  by_cases h : language = default
  · rw [if_pos h] at hupdate
    exact hupdate.trans (by rw [h]; rfl)
  · rw [if_neg h] at hupdate
    exact hupdate

theorem template?_load (book : Phrasebook) (loaded language key : String)
    (pairs : List (String × String)) :
    (book.load loaded pairs).template? language key =
      if language = loaded then ((book.templates loaded).insertAll pairs).get? key
      else book.template? language key :=
  template?_update book loaded language key _

/-- The message of a rule stands alone afterwards: there are none for kinds of values. -/
theorem template?_setRuleMessage (book : Phrasebook) (rule message language key : String) :
    (book.setRuleMessage rule message).template? language key =
      if language = book.defaultLanguage then
        if key = rule then some message
        else if isVariant rule key then none else book.template? language key
      else book.template? language key := by
  rw [setRuleMessage, template?_update]
  by_cases hl : language = book.defaultLanguage
  · rw [if_pos hl, if_pos hl, Dict.get?_insert, Dict.get?_filterKeys]
    cases isVariant rule key <;> simp [template?, hl]
  · rw [if_neg hl, if_neg hl]

/-- The key is that of a message that comes with a rule, or of one that it takes the place of. -/
def isOwnKey (rule key : String) : Prop := key = rule ∨ isVariant rule key = true

/-- The default language is the same, and so are the templates but for the languages and keys that
were touched. -/
structure AgreeOff (touched : String → String → Prop) (book book' : Phrasebook) : Prop where
  default : book'.defaultLanguage = book.defaultLanguage
  template : ∀ language key, ¬touched language key →
    book'.template? language key = book.template? language key

namespace AgreeOff

variable {touched : String → String → Prop} {book book' : Phrasebook}

theorem refl (book : Phrasebook) : AgreeOff touched book book := ⟨rfl, fun _ _ _ => rfl⟩

theorem setDefault (h : AgreeOff touched book book') (language : String) :
    AgreeOff touched (book.setDefault language) (book'.setDefault language) :=
  ⟨rfl, fun l k hk => by simp [h.template l k hk]⟩

theorem load (h : AgreeOff touched book book') (language : String)
    (pairs : List (String × String)) :
    AgreeOff touched (book.load language pairs) (book'.load language pairs) := by
  refine ⟨h.default, fun l k hk => ?_⟩
  rw [template?_load, template?_load]
  split
  · next hl =>
    subst hl
    rw [Dict.get?_insertAll, Dict.get?_insertAll]
    exact congrArg _ (h.template l k hk)
  · exact h.template l k hk

theorem setRuleMessage (h : AgreeOff touched book book') (rule message : String) :
    AgreeOff touched (book.setRuleMessage rule message) (book'.setRuleMessage rule message) := by
  refine ⟨h.default, fun l k hk => ?_⟩
  rw [template?_setRuleMessage, template?_setRuleMessage, h.default, h.template l k hk]

end AgreeOff

/-- A message that comes with a rule touches only the keys of the rule in the default language. -/
theorem agreeOff_setRuleMessage (book : Phrasebook) (rule message : String) :
    AgreeOff (fun language key => language = book.defaultLanguage ∧ isOwnKey rule key) book
      (book.setRuleMessage rule message) := by
  refine ⟨rfl, fun language key hkey => ?_⟩
  rw [template?_setRuleMessage]
  split
  · next hl =>
    obtain ⟨hrule, hvariant⟩ := not_or.1 fun hown => hkey ⟨hl, hown⟩
    rw [if_neg hrule, if_neg hvariant]
  · rfl

/-- The languages and keys that are looked under until a template is found. -/
def reached (book : Phrasebook) : List (String × String) → List (String × String)
  | [] => []
  | (language, key) :: rest =>
    (language, key) :: if (book.template? language key).isSome then [] else book.reached rest

theorem findSome?_congr {book book' : Phrasebook} {places : List (String × String)}
    (h : ∀ place ∈ book.reached places,
      book'.template? place.1 place.2 = book.template? place.1 place.2) :
    places.findSome? (fun place => book'.template? place.1 place.2) =
      places.findSome? fun place => book.template? place.1 place.2 := by
  induction places with
  | nil => rfl
  | cons place rest ih =>
    obtain ⟨hfirst, hrest⟩ := List.forall_mem_cons.1 h
    rw [List.findSome?_cons, List.findSome?_cons, hfirst]
    cases hfound : book.template? place.1 place.2 with
    | some template => rfl
    | none => exact ih (by simpa [hfound] using hrest)

end Phrasebook

namespace Wording

/-- Where a template is looked for that is not a custom one, in order. -/
def places (w : Wording) (book : Phrasebook) (rule : String) (kind : SizeKind) :
    List (String × String) :=
  ((w.languages book).flatMap fun language =>
    (sizedKey? rule kind).toList.map (language, ·) ++ [(language, rule)]) ++
  (w.languages book).map (·, Phrasebook.fallbackKey)

theorem findSome?_places (w : Wording) (book : Phrasebook) (rule : String) (kind : SizeKind) :
    (w.places book rule kind).findSome? (fun place => book.template? place.1 place.2) =
      ((w.languages book).findSome? (ruleTemplate? book rule kind) <|>
        (w.languages book).findSome? (book.template? · Phrasebook.fallbackKey)) := by
  have hrule (languages : List String) :
      (languages.flatMap fun language =>
        (sizedKey? rule kind).toList.map (language, ·) ++ [(language, rule)]).findSome?
          (fun place => book.template? place.1 place.2) =
        languages.findSome? (ruleTemplate? book rule kind) := by
    induction languages with
    | nil => rfl
    | cons language rest ih =>
      rw [List.flatMap_cons, List.findSome?_append, ih, List.findSome?_cons, ruleTemplate?]
      cases sizedKey? rule kind with
      | none => cases h : book.template? language rule <;> simp [h]
      | some key =>
        cases h : book.template? language key <;> cases h' : book.template? language rule <;>
          simp [h, h']
  rw [places, List.findSome?_append, hrule, List.findSome?_map]
  simp only [Function.comp_def, Option.orElse_eq_orElse, Option.orElse_eq_or]

/-- The template is a custom one, or the first that is found. -/
theorem template_eq (w : Wording) (book : Phrasebook) (rule field : String) (kind : SizeKind) :
    w.template book rule field kind =
      (w.customTemplate? rule field <|>
        (w.places book rule kind).findSome? fun place =>
          book.template? place.1 place.2).getD
        ("The :attribute attribute has errors (" ++ rule ++ ").") := by
  rw [findSome?_places]
  rfl

/-- Where a message without a template of its own looks for its template until it has one. -/
def reaches (w : Wording) (book : Phrasebook) (rule field : String) (kind : SizeKind) :
    List (String × String) :=
  match w.customTemplate? rule field with
  | some _ => []
  | none => book.reached (w.places book rule kind)

section Touched

variable {touched : String → String → Prop} {book book' : Phrasebook} (w : Wording)

theorem places_congr (h : book'.defaultLanguage = book.defaultLanguage) (rule : String)
    (kind : SizeKind) : w.places book' rule kind = w.places book rule kind := by
  rw [places, places, languages, languages, h]

theorem template_agreeOff (h : book.AgreeOff touched book') {rule field : String}
    {kind : SizeKind} (clear : ∀ place ∈ w.reaches book rule field kind,
      ¬touched place.1 place.2) :
    w.template book' rule field kind = w.template book rule field kind := by
  rw [template_eq, template_eq, w.places_congr h.default]
  rw [reaches] at clear
  cases hcustom : w.customTemplate? rule field with
  | some template => rfl
  | none =>
    rw [hcustom] at clear
    rw [Phrasebook.findSome?_congr fun place hm => h.template _ _ (clear place hm)]

/-- A message is the same unless its template is looked for in a place that was touched. -/
theorem render_agreeOff (h : book.AgreeOff touched book') (directive : Directive) (field : String)
    (kind : SizeKind) (own : Option String) :
    w.render book' directive field kind own = w.render book directive field kind own ∨
      own = none ∧ ∃ place ∈ w.reaches book directive.name field kind,
        touched place.1 place.2 := by
  cases own with
  | some template => exact .inl rfl
  | none =>
    by_cases hclear : ∀ place ∈ w.reaches book directive.name field kind,
        ¬touched place.1 place.2
    · refine .inl ?_
      rw [render, render, w.template_agreeOff h hclear]
    · refine .inr ⟨rfl, ?_⟩
      simpa using hclear

end Touched

theorem isVariant_sizedKey {rule key : String} {kind : SizeKind} (h : sizedKey? rule kind = some key) :
    Phrasebook.isVariant rule key = true := by
  unfold sizedKey? at h
  split at h
  · obtain ⟨variant, -, rfl⟩ := Option.map_eq_some_iff.1 h
    rw [Phrasebook.isVariant, List.isPrefixOf_iff_prefix]
    exact ⟨variant.toList, by simp [String.toList_append]⟩
  · simp at h

/-- In the default language the message that came with a rule is the template for every kind of
value, unless there is a custom one. -/
theorem template_setRuleMessage (w : Wording) (book : Phrasebook) {rule field message : String}
    (plain : w.customTemplate? rule field = none)
    (language : w.language.getD book.defaultLanguage = book.defaultLanguage) (kind : SizeKind) :
    w.template (book.setRuleMessage rule message) rule field kind = message := by
  have hdefault : (book.setRuleMessage rule message).defaultLanguage = book.defaultLanguage := rfl
  have hrule : ruleTemplate? (book.setRuleMessage rule message) rule kind book.defaultLanguage =
      some message := by
    unfold ruleTemplate?
    cases hkey : sizedKey? rule kind with
    | none => simp [Phrasebook.template?_setRuleMessage]
    | some key =>
      have hvariant := isVariant_sizedKey hkey
      by_cases hk : key = rule
      · simp [Phrasebook.template?_setRuleMessage, hk]
      · simp [Phrasebook.template?_setRuleMessage, hvariant, hk]
  have hfirst : ∃ rest, w.languages (book.setRuleMessage rule message) =
      book.defaultLanguage :: rest := by
    rw [languages, hdefault, language]
    split
    · next henglish => exact ⟨[], by rw [henglish]⟩
    · exact ⟨_, rfl⟩
  obtain ⟨rest, hlanguages⟩ := hfirst
  rw [template, plain, hlanguages, List.findSome?_cons, hrule]
  rfl

end Wording

end FieldRules
