import FieldRules.Pattern.Escape

namespace FieldRules.Pattern

/-- A set of characters, and how deep it is nested. -/
structure CharSet where
  set : CodeSet
  depth : Nat := 0

def CharSet.single (c : Char) : CharSet := { set := .single c }

inductive SetOperator where
  | intersection
  | difference
  | symmetricDifference

def SetOperator.apply : SetOperator → CodeSet → CodeSet → CodeSet
  | intersection => CodeSet.inter
  | difference => CodeSet.diff
  | symmetricDifference => CodeSet.symmDiff

def asciiClasses : List (String × CodeSet) :=
  [("alnum", .ofText "30-39 41-5A 61-7A"),
   ("alpha", .ofText "41-5A 61-7A"),
   ("ascii", .ofText "0-7F"),
   ("blank", .ofText "9 20"),
   ("cntrl", .ofText "0-1F 7F"),
   ("digit", asciiDigit),
   ("graph", .ofText "21-7E"),
   ("lower", .ofText "61-7A"),
   ("print", .ofText "20-7E"),
   ("punct", .ofText "21-2F 3A-40 5B-60 7B-7E"),
   ("space", asciiSpace),
   ("upper", .ofText "41-5A"),
   ("word", asciiWord),
   ("xdigit", .ofText "30-39 41-46 61-66")]

/-- A class such as `[:alpha:]` after its opening bracket, as its set and whether that is negated;
`none` where no class is written. -/
def readAsciiClass : List Char → Option (CodeSet × Bool × List Char)
  | ':' :: cs =>
    let (negated, body) := match cs with
      | '^' :: rest => (true, rest)
      | _ => (false, cs)
    let name := body.takeWhile (· ≠ ':')
    match body.dropWhile (· ≠ ':') with
    | ':' :: ']' :: rest => (asciiClasses.lookup (String.ofList name)).map (·, negated, rest)
    | _ => none
  | _ => none

/-- The parts of a set that have been read: the left operand with its operator, and the union that
is being collected. -/
structure SetDraft where
  left : Option (CharSet × SetOperator) := none
  union : CodeSet := .empty
  items : Nat := 0
  /-- How deep the items of the union are nested. -/
  depth : Nat := 0

namespace SetDraft

def add (draft : SetDraft) (item : CharSet) : SetDraft :=
  { draft with
    union := draft.union.union item.set
    items := draft.items + 1
    depth := max draft.depth item.depth }

/-- The left operand combined with the union. A union of several items is a level of its own, and so
is an operator. -/
def value (draft : SetDraft) (flags : Flags) : CharSet :=
  let depth := if 1 < draft.items then draft.depth + 1 else draft.depth
  match draft.left with
  | none => ⟨draft.union, depth⟩
  | some (left, operator) =>
    ⟨operator.apply (flags.closed left.set) (flags.closed draft.union),
      max left.depth depth + 1⟩

def setOperator (draft : SetDraft) (flags : Flags) (operator : SetOperator) : SetDraft :=
  { left := some (draft.value flags, operator) }

def close? (draft : SetDraft) (flags : Flags) (negated : Bool) : Option CharSet := do
  let value := draft.value flags
  return ⟨← flags.signed? negated value.set, value.depth + 1⟩

end SetDraft

inductive SetItem where
  | char (c : Char)
  | set (s : CodeSet)

/-- A single item of a set. Tests of a position are none. -/
def readSetItem (flags : Flags) : List Char → Option (SetItem × List Char)
  | [] => none
  | '\\' :: cs => do
    match ← readEscape flags cs with
    | (.literal c _, rest) => some (.char c, rest)
    | (.set s, rest) => some (.set s, rest)
    | (.look _, _) => none
  | c :: cs => some (.char c, cs)

def range? (flags : Flags) (lo hi : Char) : Option CharSet :=
  if hi < lo || (!flags.unicode && 0x7F < hi.toNat) then none
  else some { set := ⟨[(lo.toNat, hi.toNat)]⟩ }

/-- An item or a range of items. The hyphen is an item of its own before the closing bracket, and
before another hyphen, where it begins an operator. -/
def readSetRange (flags : Flags) (cs : List Char) : Option (CharSet × List Char) := do
  let (first, rest) ← readSetItem flags cs
  let alone : Option (CharSet × List Char) := do
    match first with
    | .char c => return (← range? flags c c, flags.skip rest)
    | .set s => return ({ set := s }, flags.skip rest)
  match flags.skip rest with
  | [] => none
  | '-' :: after =>
    if flags.peek after = some ']' || flags.peek after = some '-' then alone
    else
      let (second, rest) ← readSetItem flags (flags.skip after)
      match first, second with
      | .char lo, .char hi => return (← range? flags lo hi, rest)
      | _, _ => none
  | _ => alone

/-- Hyphens at the start of a set stand for themselves. -/
def readHyphens (flags : Flags) (draft : SetDraft) : Nat → List Char → SetDraft × List Char
  | 0, cs => (draft, cs)
  | fuel + 1, cs =>
    match flags.skip cs with
    | '-' :: rest => readHyphens flags (draft.add (.single '-')) fuel rest
    | rest => (draft, rest)

/-- The start of a set after its bracket: whether it is negated, and the items that only there stand
for themselves. -/
def openSet (flags : Flags) (cs : List Char) : Bool × SetDraft × List Char :=
  let (negated, body) := match flags.skip cs with
    | '^' :: rest => (true, rest)
    | rest => (false, rest)
  let (draft, body) := readHyphens flags {} body.length body
  match draft.items, body with
  | 0, ']' :: rest => (negated, draft.add (.single ']'), rest)
  | _, _ => (negated, draft, body)

mutual

/-- A set after its opening bracket, and what follows the closing one. -/
def readSet (flags : Flags) : Nat → List Char → Option (CharSet × List Char)
  | 0, _ => none
  | fuel + 1, cs => do
    let (negated, draft, body) := openSet flags cs
    let (draft, rest) ← readSetBody flags fuel draft body
    return (← draft.close? flags negated, rest)

def readSetBody (flags : Flags) : Nat → SetDraft → List Char → Option (SetDraft × List Char)
  | 0, _, _ => none
  | fuel + 1, draft, cs =>
    match flags.skip cs with
    | [] => none
    | ']' :: rest => some (draft, rest)
    | '[' :: rest =>
      match readAsciiClass rest with
      | some (set, negated, rest) => do
        let set ← flags.signed? negated set
        readSetBody flags fuel (draft.add { set }) rest
      | none => do
        let (set, rest) ← readSet flags fuel rest
        readSetBody flags fuel (draft.add set) rest
    | '&' :: '&' :: rest => readSetBody flags fuel (draft.setOperator flags .intersection) rest
    | '-' :: '-' :: rest => readSetBody flags fuel (draft.setOperator flags .difference) rest
    | '~' :: '~' :: rest =>
      readSetBody flags fuel (draft.setOperator flags .symmetricDifference) rest
    | body => do
      let (set, rest) ← readSetRange flags body
      readSetBody flags fuel (draft.add set) rest

end

end FieldRules.Pattern
