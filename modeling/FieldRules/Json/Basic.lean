import FieldRules.Decimal.Shortest

namespace FieldRules

/-- A number: an integer where it was written as one and fits 64 bits, a binary64 elsewhere. -/
inductive Number where
  | int (n : Int)
  | real (x : Float)

namespace Number

-- The powers below are core's, whichever instances a wider import brings.
attribute [local instance (high)] instPowNat

def toFloat : Number → Float
  | int n => Decimal.ofInt n
  | real x => x

def text : Number → String
  | int n => toString n
  | real x => Decimal.realText x

/-- Numbers compare within their form, a binary64 as its arithmetic does. -/
def same : Number → Number → Bool
  | int a, int b => a == b
  | real a, real b => a == b
  | _, _ => false

/-- The integer, where it fits a signed word of 64 bits. -/
def toInt64? : Number → Option Int
  | int n => if -2 ^ (63 : Nat) ≤ n && n < 2 ^ (63 : Nat) then some n else none
  | real _ => none

end Number

inductive Json where
  | null
  | bool (b : Bool)
  | number (n : Number)
  | string (s : String)
  | array (items : List Json)
  | object (members : List (String × Json))

/-- The members of an object. -/
abbrev Fields := List (String × Json)

namespace Json

instance : Inhabited Json := ⟨null⟩

def typeName : Json → String
  | null => "null"
  | bool _ => "boolean"
  | number _ => "number"
  | string _ => "string"
  | array _ => "array"
  | object _ => "object"

mutual

/-- Equality of values; the members of two objects are compared key by key. -/
def same : Json → Json → Bool
  | null, null => true
  | bool a, bool b => a == b
  | number a, number b => a.same b
  | string a, string b => a == b
  | array as, array bs => sameItems as bs
  | object as, object bs => as.length == bs.length && sameMembers as bs
  | _, _ => false

def sameItems : List Json → List Json → Bool
  | [], [] => true
  | a :: as, b :: bs => same a b && sameItems as bs
  | _, _ => false

/-- Every member of the first object is a member of the second. -/
def sameMembers : Fields → Fields → Bool
  | [], _ => true
  | (k, a) :: as, bs =>
    (match bs.lookup k with
      | some b => same a b
      | none => false) && sameMembers as bs

end

def string? : Json → Option String
  | string s => some s
  | _ => none

def isNull : Json → Bool
  | null => true
  | _ => false

end Json

/-- The value of a member, `null` where there is none. -/
def Fields.value (fields : Fields) (key : String) : Json := (fields.lookup key).getD Json.null

end FieldRules
