import FieldRules.Reading

namespace FieldRules

inductive SizeKind where
  | numeric
  | string
  | array
  | unsized
deriving DecidableEq

namespace SizeKind

def of (numeric : Bool) : Json → SizeKind
  | .number _ => .numeric
  | .string s => if numeric && (Json.string s).asNumber.isSome then .numeric else .string
  | .array _ => .array
  | _ => .unsized

/-- What follows the name of a rule in the key of its message for values of this kind. -/
def key? : SizeKind → Option String
  | numeric => some "numeric"
  | string => some "string"
  | array => some "array"
  | unsized => none

end SizeKind

/-- The measure of a value, as its kind asks. -/
def Json.size? (numeric : Bool) (value : Json) : Option Float :=
  match SizeKind.of numeric value, value with
  | .numeric, _ => value.asNumber
  | .string, .string s => some (Decimal.ofInt s.length)
  | .array, .array items => some (Decimal.ofInt items.length)
  | _, _ => none

end FieldRules
