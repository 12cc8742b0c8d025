import FieldRules.Json.Basic
import FieldRules.Text.Blank
import FieldRules.Text.Pieces

namespace FieldRules

/-- A token such as `between:3,10`: the name of a rule and, after the first colon, perhaps an
argument. -/
structure Directive where
  name : String
  argument : Option String
deriving DecidableEq

namespace Directive

def parse (token : String) : Directive :=
  let cs := Text.trimChars token.toList
  match Text.cutFirst ':' cs with
  | some (name, argument) =>
    ⟨String.ofList (Text.trimChars name), some (String.ofList argument)⟩
  | none => ⟨String.ofList cs, none⟩

def splitArgument : Option String → List String
  | none => []
  | some argument => Text.splitAll ',' argument

/-- The parts of the argument; no argument has none, an empty one has one. -/
def args (d : Directive) : List String := splitArgument d.argument

/-- The token that writes a directive. -/
def text (d : Directive) : String :=
  match d.argument with
  | some argument => d.name ++ ":" ++ argument
  | none => d.name

def ofParts? : Json → Json → Option Directive
  | .string name, .null => some ⟨name, none⟩
  | .string name, .string argument => some ⟨name, some argument⟩
  | _, _ => none

/-- Reads a directive from an object with its name and perhaps its argument, or from an array of
the two. -/
def ofJson? : Json → Option Directive
  | .array [name, argument] => ofParts? name argument
  | .object members => ofParts? (Fields.value members "name") (Fields.value members "argument")
  | _ => none

def toJson (d : Directive) : Json :=
  .object [("name", .string d.name), ("argument", (d.argument.map Json.string).getD .null)]

end Directive

end FieldRules
