import FieldRules.Dict
import FieldRules.Json.Writer

namespace FieldRules

/-- For each field its messages in order, the fields in the order of their first message. -/
structure MessageBag where
  messages : Dict (List String)

namespace MessageBag

-- The zero of the sums below is core's, whichever instances a wider import brings.
attribute [local instance (high)] Zero.ofOfNat0

def empty : MessageBag := ⟨Dict.empty⟩

instance : Inhabited MessageBag := ⟨empty⟩

/-- The messages of a field, in order. -/
def get (bag : MessageBag) (field : String) : List String := (bag.messages.get? field).getD []

def add (bag : MessageBag) (field message : String) : MessageBag :=
  ⟨bag.messages.insert field (bag.get field ++ [message])⟩

def first? (bag : MessageBag) (field : String) : Option String := (bag.get field).head?

def has (bag : MessageBag) (field : String) : Bool := bag.messages.contains field

/-- The number of messages of all fields. -/
def count (bag : MessageBag) : Nat := (bag.messages.values.map List.length).sum

def isEmpty (bag : MessageBag) : Bool := bag.messages.isEmpty

def entries (bag : MessageBag) : List (String × List String) := bag.messages.entries

/-- A heading and a line for each message. -/
def text (bag : MessageBag) : String :=
  let lines := bag.entries.flatMap fun (field, messages) =>
    messages.map fun message => "  [" ++ field ++ "] " ++ message ++ "\n"
  "Validation failed with " ++ toString bag.count ++ " error(s):\n" ++ "".intercalate lines

def toJson (bag : MessageBag) : Json :=
  .object (bag.messages.map fun messages => .array (messages.map Json.string)).entries

end MessageBag

end FieldRules
