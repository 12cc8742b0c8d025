import FieldRules.Engine.Registry

namespace FieldRules.Stock

def isEven : Json → Bool
  | .number n => n.toInt64?.any (· % 2 == 0)
  | _ => false

/-- Texts of lower-case ASCII letters and hyphens, the empty one among them. -/
def isSlug : Json → Bool
  | .string s => s.toList.all fun c => c.isLower || c == '-'
  | _ => false

/-- Passes, after asking that the rule named by the argument be one that always fails. -/
def overriding (s : Subject) : Bool × List Amendment :=
  (true, [.register (s.argument.getD "") (.pure fun _ => false) false "Late :attribute (:0)."])

def sync (name : String) : CustomRule :=
  match name with
  | "pass" => .pure fun _ => true
  | "not_null" => .pure fun s => !s.value.isNull
  | "even" => .pure fun s => isEven s.value
  | "slug" => .pure fun s => isSlug s.value
  | "equals_arg" => .pure fun s => s.value.asText == s.arg? 0
  | "last_arg_is_argc" => .pure fun s => s.args.getLast? == some (toString s.args.length)
  | "has_argument" => .pure fun s => s.argument.isSome
  | "numeric_flag" => .pure fun s => s.numeric
  | "trim_flag" => .pure fun s => s.trim
  | "attribute_is_arg" => .pure fun s => s.arg? 0 == some s.field
  | "other_not_null" => .pure fun s => (s.arg? 0).any fun field => !(s.other field).isNull
  | "switch_language" => .sync fun _ s => (false, [.setLanguage (s.argument.getD "")])
  | "override" => .sync fun _ => overriding
  | _ => .pure fun _ => false

/-- A rule that completes its handle at once and keeps no copy. -/
def atOnce (outcomes : Subject → List Outcome) : CustomRule :=
  .async fun _ s => ⟨outcomes s, 0⟩

def async (name : String) : CustomRule :=
  match name with
  | "pass" => atOnce fun _ => [.pass]
  | "fail_with" =>
    atOnce fun s => [.failWith (s.argument.getD "no argument for :attribute")]
  | "fail_if_null" => atOnce fun s => [Outcome.ofBool !s.value.isNull]
  | "twice" => atOnce fun _ => [.fail, .pass, .failWith "ignored"]
  | "defer" => .async fun _ _ => ⟨[], 1⟩
  | "drop" => atOnce fun _ => []
  | _ => atOnce fun _ => [.fail]

/-- A formatter for the names of fields. -/
def formatter? (name : String) : Option (String → String) :=
  match name with
  | "ascii_upper" => some fun field => String.ofList (field.toList.map Char.toUpper)
  | "dash" => some fun field =>
    String.ofList (field.toList.map fun c => if c == '_' then '-' else c)
  | "wrap" => some fun field => "<" ++ field ++ ">"
  | "colon" => some fun field => ":0:" ++ field
  | "empty" => some fun _ => ""
  | _ => none

end FieldRules.Stock
