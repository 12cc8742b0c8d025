import FieldRules.Dict
import FieldRules.Error
import FieldRules.Directive

namespace FieldRules

inductive Spec where
  | piped (text : String)
  | list (tokens : List String)
deriving DecidableEq

namespace Spec

def tokens : Spec → List String
  | piped text => Text.splitAll '|' text
  | list tokens => tokens

def directives (spec : Spec) : List Directive :=
  (spec.tokens.filter fun token => !Text.isAllBlank token).map Directive.parse

def ofJson? : Json → Option Spec
  | .string text => some (piped text)
  | .array items => (items.mapM Json.string?).map list
  | _ => none

def toJson : Spec → Json
  | piped text => .string text
  | list tokens => .array (tokens.map Json.string)

end Spec

/-- The rules of every field as they are written. -/
abbrev RawRules := Dict Spec

namespace RawRules

def ofJson : Json → Except RuleError RawRules
  | .object members =>
    match members.mapM fun (field, value) => (Spec.ofJson? value).map (field, ·) with
    | some pairs => .ok (Dict.ofList pairs)
    | none => .error .malformedSpec
  | other => .error (.rulesNotObject other.typeName)

def toJson (raw : RawRules) : Json := .object (raw.map Spec.toJson).entries

end RawRules

/-- The directives of every field. -/
abbrev RuleSet := Dict (List Directive)

namespace RuleSet

def parse (raw : RawRules) : RuleSet := raw.map Spec.directives

/-- Every directive with its field, in the order in which they run. -/
def directives (rules : RuleSet) : List (String × Directive) :=
  rules.entries.flatMap fun (field, ds) => ds.map (field, ·)

/-- Whether a field carries a rule of the given name. -/
def hasRule (rules : RuleSet) (field name : String) : Bool :=
  match rules.get? field with
  | some ds => ds.any (·.name == name)
  | none => false

/-- Whether a field is said to be a number, by either of the rules that say so. -/
def isNumeric (rules : RuleSet) (field : String) : Bool :=
  rules.hasRule field "numeric" || rules.hasRule field "integer"

end RuleSet

end FieldRules
