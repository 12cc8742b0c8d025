import FieldRules.Directive

namespace FieldRules

structure Subject where
  field : String
  /-- The value of the field; `null` if the input has none. -/
  value : Json
  argument : Option String
  input : Fields
  /-- Whether the field is said to be a number. -/
  numeric : Bool
  /-- Whether a text of blanks only counts as absent. -/
  trim : Bool

namespace Subject

/-- A field of an input, with no argument. -/
def ofField (input : Fields) (field : String) (trim : Bool) : Subject :=
  ⟨field, input.value field, none, input, false, trim⟩

def args (s : Subject) : List String := Directive.splitArgument s.argument

def arg? (s : Subject) (index : Nat) : Option String := s.args[index]?

/-- The value of another field; `null` if the input has none. -/
def other (s : Subject) (field : String) : Json := s.input.value field

end Subject

end FieldRules
