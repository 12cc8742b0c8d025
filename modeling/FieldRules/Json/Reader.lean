import FieldRules.Dict
import FieldRules.Json.Source

namespace FieldRules.Json

mutual

def Source.value? : Source → Option Json
  | .null => some Json.null
  | .bool b => some (Json.bool b)
  | .numeral n whole => (Source.number? n whole).map Json.number
  | .string pieces => (Source.decodeString pieces).map Json.string
  | .array items => (Source.values? items).map Json.array
  | .object members => (Source.members? members).map fun ms => Json.object (Dict.ofList ms).entries

def Source.values? : List Source → Option (List Json)
  | [] => some []
  | item :: rest => do
    let value ← Source.value? item
    let values ← Source.values? rest
    return value :: values

def Source.members? : List (List Piece × Source) → Option Fields
  | [] => some []
  | (key, item) :: rest => do
    let key ← Source.decodeString key
    let value ← Source.value? item
    let members ← Source.members? rest
    return (key, value) :: members

end

/-- The value that the whole text writes, if it writes one. -/
def read? (text : String) : Option Json := (Source.read? text).bind Source.value?

end FieldRules.Json
