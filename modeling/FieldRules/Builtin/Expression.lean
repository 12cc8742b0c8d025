import FieldRules.Pattern.Reader
import FieldRules.Text.Pieces

namespace FieldRules

/-- The argument of the rule `regex`: a pattern alone, or between slashes with flags after the last
one. -/
structure Expression where
  source : List Char
  flags : List Char
deriving DecidableEq

namespace Expression

def isFlag (c : Char) : Bool := c = 'i' || c = 'm' || c = 's' || c = 'x'

def ofArgument (argument : String) : Expression :=
  let verbatim : Expression := ⟨argument.toList, []⟩
  match argument.toList with
  | '/' :: rest =>
    match Text.cutLast '/' rest with
    | some (source, flags) => if flags.all isFlag then ⟨source, flags⟩ else verbatim
    | none => verbatim
  | _ => verbatim

/-- Only which flags occur counts. -/
def settings (e : Expression) : Pattern.Flags :=
  { anyCase := e.flags.contains 'i'
    multiLine := e.flags.contains 'm'
    dotAll := e.flags.contains 's'
    verbose := e.flags.contains 'x' }

def compile? (e : Expression) : Option Pattern :=
  Pattern.read? e.settings (String.ofList e.source)

/-- Whether the expression can be read and occurs in the text. -/
def occursIn (e : Expression) (text : String) : Bool :=
  match e.compile? with
  | some pattern => pattern.occursIn text
  | none => false

end Expression

end FieldRules
