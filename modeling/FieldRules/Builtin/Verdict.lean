import FieldRules.Address
import FieldRules.Builtin.Catalog
import FieldRules.Builtin.Expression
import FieldRules.Builtin.Forms
import FieldRules.Calendar.Shape
import FieldRules.Size
import FieldRules.Subject

namespace FieldRules

namespace Subject

def isPresent (s : Subject) : Bool := s.value.isPresent s.trim

/-- Whether another field is present. -/
def hasOther (s : Subject) (field : String) : Bool := (s.other field).isPresent s.trim

/-- Whether the field that the first argument names reads as the second; `none` if one of them is
missing. -/
def otherEquals? (s : Subject) : Option Bool := do
  let field ← s.arg? 0
  let expected ← s.arg? 1
  return (s.other field).asText == some expected

/-- An argument as a number, which need not be finite. -/
def numericArg? (s : Subject) (index : Nat) : Option Float :=
  (s.arg? index).bind fun raw => Decimal.readReal (Text.trimChars raw.toList)

def size? (s : Subject) : Option Float := s.value.size? s.numeric

/-- The number of digits, for a text of ASCII digits only. -/
def digitCount? (s : Subject) : Option Float := do
  let ds := Text.trimChars (← s.value.asText).toList
  if ds.isEmpty || !ds.all Decimal.isDigit then none else return Decimal.ofInt ds.length

/-- Whether the value has a text and it has the given form. -/
def hasForm (s : Subject) (form : Pattern) : Bool :=
  match s.value.asText with
  | some text => form.occursIn text
  | none => false

/-- Whether the text of the value is among the arguments; `none` if it has no text. -/
def isListed? (s : Subject) : Option Bool := s.value.asText.map s.args.contains

def date? (value : Json) : Option Moment := value.string?.bind Moment.parse?

/-- The moment to compare with: that of the field which the argument names, or else that which the
argument writes. -/
def reference? (s : Subject) : Option Moment := do
  let argument ← s.argument
  match s.input.lookup argument with
  | some other => date? other
  | none => Moment.parse? argument

end Subject

namespace Builtin

/-- The distance from one to the next binary64; values closer than this count as equal. -/
def tolerance : Float := Float.ofBits 0x3CB0000000000000

def isClose (x y : Float) : Bool :=
  let distance := x - y
  distance < tolerance && -tolerance < distance

/-- Compares a measure with a bound, both of which have to be there. -/
def compares (relation : Float → Float → Bool) : Option Float → Option Float → Bool
  | some x, some y => relation x y
  | _, _ => false

def atLeast (x y : Float) : Bool := y ≤ x

def atMost (x y : Float) : Bool := x ≤ y

/-- Compares a measure with a lower and an upper bound. -/
def isWithin (measure lower upper : Option Float) : Bool :=
  match measure, lower, upper with
  | some x, some a, some b => atLeast x a && atMost x b
  | _, _, _ => false

def isAccepted : Json → Bool
  | .bool b => b
  | .number n => n.toInt64? == some 1
  | .string s => s == "yes" || s == "on" || s == "1" || s == "true"
  | _ => false

def isInteger : Json → Bool
  | .number n => Decimal.isWhole n.toFloat
  | .string s => integerForm.occursIn (Text.trim s)
  | _ => false

def isBoolean : Json → Bool
  | .bool _ => true
  | .number n => n.toInt64? == some 0 || n.toInt64? == some 1
  | .string s => s == "true" || s == "false" || s == "0" || s == "1"
  | _ => false

def isArray : Json → Bool
  | .array _ => true
  | _ => false

/-- Whether the rule accepts what it sees. -/
def holds (rule : Builtin) (s : Subject) : Bool :=
  match rule with
  | required => s.isPresent
  | requiredIf =>
    match s.otherEquals? with
    | some true => s.isPresent
    | some false => true
    | none => false
  | requiredUnless =>
    match s.otherEquals? with
    | some true => true
    | some false => s.isPresent
    | none => false
  | requiredWith => if s.args.any s.hasOther then s.isPresent else true
  | requiredWithout => if s.args.any fun field => !s.hasOther field then s.isPresent else true
  | accepted => isAccepted s.value
  | numeric => s.value.asNumber.isSome
  | integer => isInteger s.value
  | string => s.value.string?.isSome
  | boolean => isBoolean s.value
  | array => isArray s.value
  | min => compares atLeast s.size? (s.numericArg? 0)
  | max => compares atMost s.size? (s.numericArg? 0)
  | between => isWithin s.size? (s.numericArg? 0) (s.numericArg? 1)
  | size => compares isClose s.size? (s.numericArg? 0)
  | digits => compares isClose s.digitCount? (s.numericArg? 0)
  | digitsBetween => isWithin s.digitCount? (s.numericArg? 0) (s.numericArg? 1)
  | email => s.hasForm emailForm
  | url => s.hasForm urlForm
  | alpha => s.hasForm alphaForm
  | alphaDash => s.hasForm alphaDashForm
  | alphaNum => s.hasForm alphaNumForm
  | regex =>
    match s.argument, s.value.asText with
    | some argument, some text => (Expression.ofArgument argument).occursIn text
    | _, _ => false
  | date => (Subject.date? s.value).isSome
  | ip =>
    match s.value.string? with
    | some text => Address.isAddress (Text.trimChars text.toList)
    | none => false
  | inList => s.isListed? == some true
  | notInList => s.isListed? == some false
  | same =>
    match s.arg? 0 with
    | some field => (s.other field).same s.value
    | none => false
  | different =>
    match s.arg? 0 with
    | some field => !(s.other field).same s.value
    | none => false
  | confirmed => (s.other (s.field ++ "_confirmation")).same s.value
  | after =>
    match Subject.date? s.value, s.reference? with
    | some own, some reference => reference.before own
    | _, _ => false
  | before =>
    match Subject.date? s.value, s.reference? with
    | some own, some reference => own.before reference
    | _, _ => false

end Builtin

end FieldRules
