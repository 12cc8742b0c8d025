import FieldRules.Decimal.Numeral
import FieldRules.Json.Basic
import FieldRules.Text.Blank

namespace FieldRules.Json

/-- Absent are `null`, empty arrays and objects, and empty strings, which with `trim` are those of
blanks only. -/
def isPresent (trim : Bool) : Json → Bool
  | null => false
  | string s => if trim then !Text.isAllBlank s else !s.isEmpty
  | array items => !items.isEmpty
  | object members => !members.isEmpty
  | bool _ | number _ => true

/-- The number of a value: numbers themselves, and strings that write a finite one between blanks. -/
def asNumber : Json → Option Float
  | number n => some n.toFloat
  | string s => (Decimal.readReal (Text.trimChars s.toList)).filter Float.isFinite
  | _ => none

/-- The text of a scalar. -/
def asText : Json → Option String
  | string s => some s
  | number n => some n.text
  | bool b => some (if b then "true" else "false")
  | _ => none

end FieldRules.Json
