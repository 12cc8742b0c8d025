import FieldRules.Text.Pieces

namespace FieldRules

inductive Builtin where
  | required
  | requiredIf
  | requiredUnless
  | requiredWith
  | requiredWithout
  | accepted
  | numeric
  | integer
  | string
  | boolean
  | array
  | min
  | max
  | between
  | size
  | digits
  | digitsBetween
  | email
  | url
  | alpha
  | alphaDash
  | alphaNum
  | regex
  | date
  | ip
  | inList
  | notInList
  | same
  | different
  | confirmed
  | after
  | before
deriving DecidableEq

/-- How a placeholder is filled: with one argument or all of them, either as they stand or as the
display names of the fields that they name. -/
inductive Placeholder where
  | arg (name : String) (index : Nat)
  | field (name : String) (index : Nat)
  | args (name : String)
  | fields (name : String)
deriving DecidableEq

def Placeholder.name : Placeholder → String
  | arg name _ | field name _ | args name | fields name => name

namespace Builtin

/-- Every built-in rule, in catalog order. -/
def all : List Builtin :=
  [required, requiredIf, requiredUnless, requiredWith, requiredWithout, accepted, numeric, integer,
   string, boolean, array, min, max, between, size, digits, digitsBetween, email, url, alpha,
   alphaDash, alphaNum, regex, date, ip, inList, notInList, same, different, confirmed, after,
   before]

def name : Builtin → String
  | required => "required"
  | requiredIf => "required_if"
  | requiredUnless => "required_unless"
  | requiredWith => "required_with"
  | requiredWithout => "required_without"
  | accepted => "accepted"
  | numeric => "numeric"
  | integer => "integer"
  | string => "string"
  | boolean => "boolean"
  | array => "array"
  | min => "min"
  | max => "max"
  | between => "between"
  | size => "size"
  | digits => "digits"
  | digitsBetween => "digits_between"
  | email => "email"
  | url => "url"
  | alpha => "alpha"
  | alphaDash => "alpha_dash"
  | alphaNum => "alpha_num"
  | regex => "regex"
  | date => "date"
  | ip => "ip"
  | inList => "in"
  | notInList => "not_in"
  | same => "same"
  | different => "different"
  | confirmed => "confirmed"
  | after => "after"
  | before => "before"

def ofName? (name : String) : Option Builtin := all.find? (·.name == name)

/-- Whether the rule runs on an absent value too. -/
def isImplicit : Builtin → Bool
  | required | requiredIf | requiredUnless | requiredWith | requiredWithout | accepted => true
  | _ => false

/-- Whether the rule measures a value, so that its message goes by the kind of the value. -/
def isSizeAware : Builtin → Bool
  | min | max | between | size => true
  | _ => false

def placeholders : Builtin → List Placeholder
  | min => [.arg "min" 0]
  | max => [.arg "max" 0]
  | size => [.arg "size" 0]
  | digits => [.arg "digits" 0]
  | between | digitsBetween => [.arg "min" 0, .arg "max" 1]
  | inList | notInList => [.args "values"]
  | same | different => [.field "other" 0]
  | requiredIf | requiredUnless => [.field "other" 0, .arg "value" 1]
  | requiredWith | requiredWithout => [.fields "values"]
  | after | before => [.arg "date" 0]
  | _ => []

/-- The name in camel case: the words between the underscores, each with a capital. -/
def title (rule : Builtin) : String :=
  "".intercalate ((Text.splitAll '_' rule.name).map String.capitalize)

theorem mem_all (rule : Builtin) : rule ∈ all := by cases rule <;> decide

theorem ofName?_name (rule : Builtin) : ofName? rule.name = some rule := by
  cases rule <;> decide

theorem name_of_ofName? {name : String} {rule : Builtin} (h : ofName? name = some rule) :
    rule.name = name := by
  simpa using List.find?_some h

end Builtin

end FieldRules
