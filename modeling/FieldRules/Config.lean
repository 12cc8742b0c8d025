import FieldRules.Error
import FieldRules.Json.Reader

namespace FieldRules

/-- The language whose messages are always there. -/
def english : String := "en"

structure Config where
  /-- The language of messages, and of the messages that come with registered rules. -/
  language : String := english
  /-- Whether a text of blanks only counts as absent. -/
  trim : Bool := true
deriving DecidableEq

namespace Config

open Json (Source)

def languageOf? : Source → Option String
  | .string pieces => Source.decodeString pieces
  | _ => none

def trimOf? : Source → Option Bool
  | .bool b => some b
  | _ => none

/-- The member with the given key: none, the only one, or a refusal of several. -/
def onlyMember (key : String) (members : List (String × Source)) : Option (Option Source) :=
  match members.filter (·.1 = key) with
  | [] => some none
  | [member] => some (some member.2)
  | _ => none

/-- A field that keeps its default where nothing is given for it. -/
def fieldOr {α : Type} (default : α) (read : Source → Option α) : Option Source → Option α
  | none => some default
  | some source => read source

def ofFields (language trim : Option Source) : Option Config := do
  return ⟨← fieldOr english languageOf? language, ← fieldOr true trimOf? trim⟩

def ofSource? : Source → Option Config
  | .array [] => ofFields none none
  | .array [language] => ofFields (some language) none
  | .array [language, trim] => ofFields (some language) (some trim)
  | .object members => do
    let members ← members.mapM fun (key, value) => do return (← Source.decodeString key, value)
    ofFields (← onlyMember "language" members)
      (← onlyMember "trim_strings_for_required" members)
  | _ => none

/-- Reads a configuration from JSON text. -/
def ofText (text : String) : Except RuleError Config :=
  match (Source.read? text).bind ofSource? with
  | some config => .ok config
  | none => .error .malformedConfig

end Config

end FieldRules
