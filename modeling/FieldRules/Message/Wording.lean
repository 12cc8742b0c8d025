import FieldRules.Builtin.Catalog
import FieldRules.Message.Phrasebook
import FieldRules.Message.Template
import FieldRules.Size
import FieldRules.Specification

namespace FieldRules

structure Wording where
  /-- The language of the messages; without it, the default of the phrasebook. -/
  language : Option String := none
  /-- Templates by `rule.field` and by `rule`. -/
  custom : Dict String := Dict.empty
  /-- Display names of fields. -/
  names : Dict String := Dict.empty
  /-- How a field without a display name is shown. -/
  formatter : Option (String → String) := none

namespace Wording

instance : Inhabited Wording := ⟨{}⟩

/-- Underscores and opening brackets become spaces, and closing brackets go. -/
def defaultName (field : String) : String :=
  String.ofList ((field.toList.filter (· ≠ ']')).map fun c => if c = '_' || c = '[' then ' ' else c)

def displayName (w : Wording) (field : String) : String :=
  (w.names.get? field).getD ((w.formatter.getD defaultName) field)

def setCustom (w : Wording) (pairs : List (String × String)) : Wording :=
  { w with custom := w.custom.insertAll pairs }

def setNames (w : Wording) (pairs : List (String × String)) : Wording :=
  { w with names := w.names.insertAll pairs }

/-- The custom template for a rule on a field. -/
def customTemplate? (w : Wording) (rule field : String) : Option String :=
  w.custom.get? (rule ++ "." ++ field) <|> w.custom.get? rule

/-- The languages in which a template is looked for, in order. -/
def languages (w : Wording) (book : Phrasebook) : List String :=
  let language := w.language.getD book.defaultLanguage
  if language = english then [english] else [language, english]

/-- The key of the template for a rule on a kind of value, for rules that measure values. -/
def sizedKey? (rule : String) (kind : SizeKind) : Option String :=
  if (Builtin.ofName? rule).any Builtin.isSizeAware then kind.key?.map (rule ++ "." ++ ·) else none

/-- The template of a rule in one language. -/
def ruleTemplate? (book : Phrasebook) (rule : String) (kind : SizeKind) (language : String) :
    Option String :=
  (sizedKey? rule kind).bind (book.template? language) <|> book.template? language rule

def template (w : Wording) (book : Phrasebook) (rule field : String) (kind : SizeKind) : String :=
  let languages := w.languages book
  (w.customTemplate? rule field
    <|> languages.findSome? (ruleTemplate? book rule kind)
    <|> languages.findSome? (book.template? · Phrasebook.fallbackKey)).getD
    ("The :attribute attribute has errors (" ++ rule ++ ").")

/-- What fills a placeholder of a built-in rule. -/
def fillPlaceholder (w : Wording) (args : List String) : Placeholder → Option String
  | .arg _ index => args[index]?
  | .field _ index => args[index]?.map w.displayName
  | .args _ => some (", ".intercalate args)
  | .fields _ => some (", ".intercalate (args.map w.displayName))

/-- What fills a placeholder of the given name: the display name of the field, an argument by its
number, or what the catalog says for a built-in rule. -/
def resolve (w : Wording) (directive : Directive) (field name : String) : Option String :=
  if name = "attribute" then some (w.displayName field)
  else if name.toList.all Decimal.isDigit then
    directive.args[Decimal.digitsValue name.toList]?
  else do
    let rule ← Builtin.ofName? directive.name
    let placeholder ← rule.placeholders.find? (·.name == name)
    w.fillPlaceholder directive.args placeholder

/-- The message for a failing directive. A template that the rule gives itself goes before all. -/
def render (w : Wording) (book : Phrasebook) (directive : Directive) (field : String)
    (kind : SizeKind) (own : Option String) : String :=
  Template.substitute (w.resolve directive field)
    (own.getD (w.template book directive.name field kind))

end Wording

end FieldRules
