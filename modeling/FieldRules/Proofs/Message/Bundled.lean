import FieldRules.Proofs.Argument
import FieldRules.Proofs.Message.Lookup
import FieldRules.Proofs.Message.Placeholder

namespace FieldRules

namespace Template

/-- What a piece shows: a character shows itself, and a placeholder a text that its name stands for,
as that is. -/
inductive Shows (StandsFor : String → String → Prop) : Piece → List Char → Prop
  | plain (c : Char) : Shows StandsFor (.plain c) [c]
  | placeholder {name : List Char} {text : String} (stands : StandsFor (String.ofList name) text) :
      Shows StandsFor (.placeholder name) text.toList

theorem substitute_eq (resolve : String → Option String) (template : String) :
    substitute resolve template = String.ofList
      (filled (pieces template.toList) ((names (pieces template.toList)).map resolve)) := by
  rw [substitute, substituteM, fill_eq, List.mapM_pure]
  rfl

/-- If every placeholder has an answer, the text is what the pieces show. -/
theorem exists_shown {resolve : String → Option String} {StandsFor : String → String → Prop}
    {ps : List Piece}
    (answered : ∀ name ∈ names ps, ∃ text, resolve name = some text ∧ StandsFor name text) :
    ∃ parts, List.Forall₂ (Shows StandsFor) ps parts ∧
      filled ps ((names ps).map resolve) = parts.flatten := by
  induction ps with
  | nil => exact ⟨[], .nil, rfl⟩
  | cons p ps ih =>
    cases p with
    | plain c =>
      obtain ⟨parts, hparts, hfilled⟩ := ih answered
      refine ⟨[c] :: parts, .cons (.plain c) hparts, ?_⟩
      simp [filled, names, hfilled]
    | placeholder name =>
      obtain ⟨⟨text, htext, hstands⟩, hrest⟩ := List.forall_mem_cons.1 answered
      obtain ⟨parts, hparts, hfilled⟩ := ih hrest
      refine ⟨text.toList :: parts, .cons (.placeholder hstands) hparts, ?_⟩
      simp [filled, names, htext, hfilled]

end Template

/-- The index of the argument that a placeholder shows, if it shows a single one. -/
def Placeholder.index? : Placeholder → Option Nat
  | arg _ index | field _ index => some index
  | args _ | fields _ => none

theorem Phrasebook.template?_initial_iff (key template : String) :
    initial.template? english key = some template ↔ (key, template) ∈ englishTemplates := by
  have hkeys : (englishTemplates.map Prod.fst).Nodup := by decide +kernel
  have htemplates : initial.templates english = Dict.ofList englishTemplates := by
    rw [templates, initial, Dict.get?_insert, if_pos rfl, Option.getD_some]
  rw [template?, htemplates, Dict.get?_eq_some_iff, Dict.entries_ofList hkeys]

namespace Builtin

open Phrasebook (englishTemplates)

/-- The key of the template for a rule and a kind of value: the name of the rule, with the kind if
the rule measures values. -/
def messageKey (rule : Builtin) (kind : SizeKind) : String :=
  match rule.isSizeAware, kind.key? with
  | true, some variant => rule.name ++ "." ++ variant
  | _, _ => rule.name

/-- The keys for the kinds of values that the rule can tell apart. -/
def messageKeys (rule : Builtin) : List String :=
  if rule.isSizeAware then ["numeric", "string", "array"].map (rule.name ++ "." ++ ·)
  else [rule.name]

theorem messageKey_mem {rule : Builtin} {kind : SizeKind}
    (measured : rule.isSizeAware = true → kind ≠ .unsized) :
    rule.messageKey kind ∈ rule.messageKeys := by
  rw [messageKey, messageKeys]
  cases hsized : rule.isSizeAware with
  | false => simp
  | true => cases kind <;> simp_all [SizeKind.key?]

/-- A placeholder of this name is filled in the messages of the rule. -/
def Knows (rule : Builtin) (name : String) : Prop :=
  name = "attribute" ∨ name ∈ rule.placeholders.map Placeholder.name

/-- There are arguments for all placeholders that show a single one. -/
def HasEnough (rule : Builtin) (args : List String) : Prop :=
  ∀ placeholder ∈ rule.placeholders, ∀ index ∈ placeholder.index?, index < args.length

/-- Every colon in the template begins a placeholder that the rule fills. -/
structure Suits (rule : Builtin) (template : List Char) : Prop where
  known : ∀ name ∈ Template.names (Template.pieces template), rule.Knows name
  no_colon : .plain ':' ∉ Template.pieces template

instance (rule : Builtin) (name : String) : Decidable (rule.Knows name) :=
  inferInstanceAs (Decidable (_ ∨ _))

instance (rule : Builtin) (args : List String) : Decidable (rule.HasEnough args) :=
  inferInstanceAs (Decidable (∀ _ ∈ _, _))

instance (rule : Builtin) (template : List Char) : Decidable (rule.Suits template) :=
  decidable_of_iff ((∀ name ∈ Template.names (Template.pieces template), rule.Knows name) ∧
    .plain ':' ∉ Template.pieces template)
    ⟨fun h => ⟨h.1, h.2⟩, fun h => ⟨h.known, h.no_colon⟩⟩

/-- The English messages suit the rules that they are for. -/
theorem suits_of_mem : ∀ e ∈ englishTemplates, ∃ cs, String.ofList cs = e.2 ∧
    ∀ rule ∈ all, e.1 ∈ rule.messageKeys → rule.Suits cs := by
  -- The characters are read off each text as it is written; to compute them takes much longer.
  simp only [englishTemplates, String.reduceAppend]
  repeat refine List.forall_mem_cons.2 ⟨⟨_, rfl, by decide +kernel⟩, ?_⟩
  exact List.forall_mem_nil _

/-- The English messages and the catalog cover each other: each rule has a template that suits it
for every kind of value that it can measure, and it is not the one for rules without a template. -/
theorem exists_template {rule : Builtin} {kind : SizeKind}
    (measured : rule.isSizeAware = true → kind ≠ .unsized) :
    ∃ template, Phrasebook.initial.template? english (rule.messageKey kind) = some template ∧
      Phrasebook.initial.template? english "def" ≠ some template ∧ rule.Suits template.toList := by
  have hkeys : ∀ rule ∈ all, ∀ key ∈ rule.messageKeys,
      key ≠ "def" ∧ key ∈ englishTemplates.map Prod.fst := by
    decide +kernel
  have hfallback : ∀ e ∈ englishTemplates, ("def", e.2) ∈ englishTemplates → e.1 = "def" := by
    decide +kernel
  have hown := messageKey_mem measured
  obtain ⟨hother, hkey⟩ := hkeys rule rule.mem_all _ hown
  obtain ⟨e, hin, hfirst⟩ := List.mem_map.1 hkey
  obtain ⟨cs, hcs, hsuits⟩ := suits_of_mem e hin
  refine ⟨e.2, ?_, ?_, ?_⟩
  · rw [Phrasebook.template?_initial_iff, ← hfirst]
    exact hin
  · rw [Ne, Phrasebook.template?_initial_iff]
    intro hsame
    exact hother (hfirst ▸ hfallback e hin hsame)
  · rw [← hcs, String.toList_ofList]
    exact hsuits rule rule.mem_all (hfirst ▸ hown)

end Builtin

namespace Wording

theorem sizedKey?_name (rule : Builtin) (kind : SizeKind) :
    (sizedKey? rule.name kind).getD rule.name = rule.messageKey kind := by
  rw [sizedKey?, Builtin.ofName?_name, Option.any_some, Builtin.messageKey]
  cases rule.isSizeAware <;> cases kind.key? <;> rfl

/-- In English without custom templates, the template is the one under the key of the rule. -/
theorem template_of_messageKey {w : Wording} {rule : Builtin} {field template : String}
    {kind : SizeKind} (plain : w.customTemplate? rule.name field = none)
    (language : w.language.getD english = english)
    (h : Phrasebook.initial.template? english (rule.messageKey kind) = some template) :
    w.template Phrasebook.initial rule.name field kind = template := by
  have hlanguages : w.languages Phrasebook.initial = [english] := if_pos language
  have hrule : ruleTemplate? Phrasebook.initial rule.name kind english = some template := by
    rw [← sizedKey?_name] at h
    rw [ruleTemplate?]
    cases hkey : sizedKey? rule.name kind with
    | none =>
      rw [hkey] at h
      exact h
    | some key =>
      rw [hkey] at h
      rw [Option.bind_some, show Phrasebook.initial.template? english key = some template from h]
      rfl
  rw [Wording.template, plain, hlanguages, List.findSome?_cons, hrule]
  rfl

variable (w : Wording)

/-- What the name of a placeholder stands for in the messages of a built-in rule. -/
inductive StandsFor (rule : Builtin) (args : List String) (field : String) :
    String → String → Prop
  | ownName : StandsFor rule args field "attribute" (w.displayName field)
  | arg {name text : String} {index : Nat} (listed : .arg name index ∈ rule.placeholders)
      (there : args[index]? = some text) : StandsFor rule args field name text
  | otherName {name other : String} {index : Nat}
      (listed : .field name index ∈ rule.placeholders) (there : args[index]? = some other) :
      StandsFor rule args field name (w.displayName other)
  | args {name : String} (listed : .args name ∈ rule.placeholders) :
      StandsFor rule args field name (", ".intercalate args)
  | otherNames {name : String} (listed : .fields name ∈ rule.placeholders) :
      StandsFor rule args field name (", ".intercalate (args.map w.displayName))

/-- With enough arguments, the placeholders that a rule knows are filled. -/
theorem exists_resolve {rule : Builtin} {d : Directive} (named : d.name = rule.name)
    (enough : rule.HasEnough d.args) (field : String) {name : String} (known : rule.Knows name) :
    ∃ text, w.resolve d field name = some text ∧ w.StandsFor rule d.args field name text := by
  rcases known with rfl | hname
  · exact ⟨w.displayName field, if_pos rfl, .ownName⟩
  · obtain ⟨placeholder, hlisted, rfl⟩ := List.mem_map.1 hname
    have hrule : Builtin.ofName? d.name = some rule := by rw [named, Builtin.ofName?_name]
    rw [w.resolve_placeholder d field hrule hlisted]
    cases placeholder with
    | arg name index =>
      have hindex : index < d.args.length := enough _ hlisted index rfl
      have hthere : d.args[index]? = some d.args[index] := List.getElem?_eq_getElem hindex
      exact ⟨_, hthere, .arg hlisted hthere⟩
    | field name index =>
      have hindex : index < d.args.length := enough _ hlisted index rfl
      have hthere : d.args[index]? = some d.args[index] := List.getElem?_eq_getElem hindex
      exact ⟨_, congrArg (Option.map w.displayName) hthere, .otherName hlisted hthere⟩
    | args name => exact ⟨_, rfl, .args hlisted⟩
    | fields name => exact ⟨_, rfl, .otherNames hlisted⟩

/-- The message is the template with each placeholder replaced, as it is, by the text that it stands
for. All other characters are as in the template, and none of them is a colon: no placeholder of the
template is left. -/
def IsFilled (rule : Builtin) (args : List String) (field template message : String) : Prop :=
  ∃ ps parts, Template.Splits ps template.toList ∧ .plain ':' ∉ ps ∧
    List.Forall₂ (Template.Shows (w.StandsFor rule args field)) ps parts ∧
    message.toList = parts.flatten

theorem isFilled_substitute {rule : Builtin} {d : Directive} (named : d.name = rule.name)
    (enough : rule.HasEnough d.args) (field : String) {template : String}
    (suits : rule.Suits template.toList) :
    w.IsFilled rule d.args field template (Template.substitute (w.resolve d field) template) := by
  have hanswered : ∀ name ∈ Template.names (Template.pieces template.toList),
      ∃ text, w.resolve d field name = some text ∧ w.StandsFor rule d.args field name text := by
    intro name hname
    exact w.exists_resolve named enough field (suits.known name hname)
  obtain ⟨parts, hparts, hfilled⟩ := Template.exists_shown hanswered
  refine ⟨_, parts, Template.splits_pieces template.toList, suits.no_colon, hparts, ?_⟩
  rw [Template.substitute_eq, String.toList_ofList, hfilled]

/-- A failing directive of a built-in rule, with arguments for its placeholders, is told by the
template of the rule itself, for the kind of value if it measures values. Each placeholder is filled
as the catalog says, and what is put in is not filled again. -/
theorem bundled_message_filled {rule : Builtin} {d : Directive} (named : d.name = rule.name)
    (enough : rule.HasEnough d.args) {kind : SizeKind}
    (measured : rule.isSizeAware = true → kind ≠ .unsized) (field : String)
    (plain : w.customTemplate? rule.name field = none)
    (language : w.language.getD english = english) :
    let book := Phrasebook.initial
    ∃ template, book.template? english (rule.messageKey kind) = some template ∧
      w.template book d.name field kind = template ∧
      book.template? english "def" ≠ some template ∧
      w.IsFilled rule d.args field template (w.render book d field kind none) := by
  intro book
  obtain ⟨template, htemplate, hfallback, hsuits⟩ := Builtin.exists_template measured
  have hchosen : w.template book d.name field kind = template := by
    rw [named]
    exact template_of_messageKey plain language htemplate
  have hrender : w.render book d field kind none =
      Template.substitute (w.resolve d field) template := by
    rw [render, Option.getD_none, hchosen]
  refine ⟨template, htemplate, hchosen, hfallback, ?_⟩
  rw [hrender]
  exact w.isFilled_substitute named enough field hsuits

/-- A display name and a formatter that make names look like placeholders. -/
def colonWording : Wording where
  language := some "en"
  names := Dict.ofList [(":value", "the :attribute")]
  formatter := some fun field => ":0:" ++ field

/-- A card is required, and tags are too many or too few. All arguments look like placeholders. -/
theorem bundled_message_filled_colons :
    let w := colonWording
    let book := Phrasebook.initial
    let card : Directive := ⟨"required_if", some ":value,:other"⟩
    let tags : Directive := ⟨"between", some ":max,:attribute,9"⟩
    w.language.getD english = english ∧
    (card.name = Builtin.requiredIf.name ∧ Builtin.requiredIf.HasEnough card.args ∧
      w.customTemplate? Builtin.requiredIf.name "card" = none ∧
      book.template? english (Builtin.requiredIf.messageKey .unsized) ≠
        book.template? english "def" ∧
      w.IsFilled .requiredIf card.args "card"
        "The :attribute field is required when :other is :value."
        "The :0:card field is required when the :attribute is :other.") ∧
    (tags.name = Builtin.between.name ∧ Builtin.between.HasEnough tags.args ∧
      (Builtin.between.isSizeAware = true → SizeKind.array ≠ .unsized) ∧
      w.customTemplate? Builtin.between.name "tags" = none ∧
      book.template? english (Builtin.between.messageKey .array) ≠
        book.template? english "def" ∧
      w.IsFilled .between tags.args "tags"
        "The :attribute must have between :min and :max items."
        "The :0:tags must have between :max and :attribute items.") := by
  intro w book card tags
  have hlanguage : w.language.getD english = english := rfl
  have hcard : card.name = Builtin.requiredIf.name := rfl
  have hcardArgs : Builtin.requiredIf.HasEnough card.args := by decide
  have hcardPlain : w.customTemplate? Builtin.requiredIf.name "card" = none := by decide
  have hunmeasured : Builtin.requiredIf.isSizeAware = true → SizeKind.unsized ≠ .unsized := by
    decide
  have htags : tags.name = Builtin.between.name := rfl
  have htagsArgs : Builtin.between.HasEnough tags.args := by decide
  have htagsPlain : w.customTemplate? Builtin.between.name "tags" = none := by decide
  have hmeasured : Builtin.between.isSizeAware = true → SizeKind.array ≠ .unsized := by decide
  obtain ⟨template, hkey, hchosen, hother, hfilled⟩ :=
    w.bundled_message_filled hcard hcardArgs hunmeasured "card" hcardPlain hlanguage
  obtain ⟨template', hkey', hchosen', hother', hfilled'⟩ :=
    w.bundled_message_filled htags htagsArgs hmeasured "tags" htagsPlain hlanguage
  have hcardTemplate : book.template? english (Builtin.requiredIf.messageKey .unsized) =
      some "The :attribute field is required when :other is :value." :=
    (Phrasebook.template?_initial_iff _ _).2 (by decide +kernel)
  have htagsTemplate : book.template? english (Builtin.between.messageKey .array) =
      some "The :attribute must have between :min and :max items." :=
    (Phrasebook.template?_initial_iff _ _).2 (by decide +kernel)
  obtain rfl := Option.some.inj (hkey.symm.trans hcardTemplate)
  obtain rfl := Option.some.inj (hkey'.symm.trans htagsTemplate)
  have hcardText : w.render book card "card" .unsized none =
      "The :0:card field is required when the :attribute is :other." := by
    rw [render, Option.getD_none, hchosen]
    decide +kernel
  have htagsText : w.render book tags "tags" .array none =
      "The :0:tags must have between :max and :attribute items." := by
    rw [render, Option.getD_none, hchosen']
    decide +kernel
  rw [hcardText] at hfilled
  rw [htagsText] at hfilled'
  rw [← hkey] at hother
  rw [← hkey'] at hother'
  exact ⟨hlanguage, ⟨hcard, hcardArgs, hcardPlain, hother.symm, hfilled⟩,
    ⟨htags, htagsArgs, hmeasured, htagsPlain, hother'.symm, hfilled'⟩⟩

end Wording

end FieldRules
