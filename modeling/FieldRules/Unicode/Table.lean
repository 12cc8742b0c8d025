import FieldRules.Text.Hex
import FieldRules.Text.Pieces
import FieldRules.Unicode.CodeSet

namespace FieldRules.CodeSet

/-- The points from `lo` to `hi`, as one span or one by one. -/
def spansOfRange (lo hi : Nat) : Option Nat → List (Nat × Nat)
  | none => [(lo, hi)]
  | some step => (List.range ((hi - lo) / step + 1)).map fun k => (lo + k * step, lo + k * step)

def spansOfToken? (token : List Char) : Option (List (Nat × Nat)) := do
  let (range, step) ← match Text.cutFirst '/' token with
    | some (range, step) => some (range, some (← Text.hexNumber? step))
    | none => some (token, none)
  match Text.cutFirst '-' range with
  | some (lo, hi) => return spansOfRange (← Text.hexNumber? lo) (← Text.hexNumber? hi) step
  | none =>
    let n ← Text.hexNumber? range
    return [(n, n)]

def ofText (table : String) : CodeSet :=
  ofSpans ((Text.words table.toList).flatMap fun token => (spansOfToken? token).getD [])

end FieldRules.CodeSet
