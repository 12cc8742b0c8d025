import FieldRules.Decimal.Numeral
import FieldRules.Pattern.CharSet
import FieldRules.Pattern.Plan

namespace FieldRules.Pattern

-- The powers below are core's, whichever instances a wider import brings.
attribute [local instance (high)] instPowNat

/-- A term, and how deep the text that writes it is nested. -/
structure Part where
  term : Term
  depth : Nat := 0

namespace Part

def deepest (parts : List Part) : Nat := (parts.map (·.depth)).foldl max 0

/-- Items one after the other; a setting of flags is an item without a term. -/
def sequence (items : List (Option Part)) : Part :=
  let parts := items.filterMap id
  ⟨Term.sequence (parts.map (·.term)), deepest parts + (if 1 < items.length then 1 else 0)⟩

def alternatives : List Part → Part
  | [part] => part
  | parts => ⟨Term.choice (parts.map (·.term)), deepest parts + 1⟩

def group (index : Nat) (part : Part) : Part := ⟨.group index part.term, part.depth + 1⟩

/-- A group that has no number. -/
def plainGroup (part : Part) : Part := { part with depth := part.depth + 1 }

def rep (part : Part) (least : Nat) (most : Option Nat) (greedy : Bool) : Part :=
  ⟨part.term.repeated least most greedy, part.depth + 1⟩

end Part

def depthLimit : Nat := 250

/-- What holds at a place in a pattern: the flags, and the names and the number of the groups so
far. -/
structure Scope where
  flags : Flags
  names : List String := []
  groups : Nat := 0

/-- The letters between the question mark of a group and its colon or closing parenthesis. -/
def applyFlags (on : Bool) (seen : List Char) (flags : Flags) : List Char → Option Flags
  | [] => some flags
  | c :: cs =>
    if seen.contains c then none
    else if c = '-' then
      if cs.isEmpty then none else applyFlags false (c :: seen) flags cs
    else (flags.set? on c).bind fun flags => applyFlags on (c :: seen) flags cs

def isNameChar (first : Bool) (c : Char) : Bool :=
  c = '_' || (if first then Unicode.nameStart.has c
    else c = '.' || c = '[' || c = ']' || Unicode.nameContinue.has c)

/-- The name of a group up to its closing bracket. -/
def readName (cs : List Char) : Option (String × List Char) :=
  let name := cs.takeWhile (· ≠ '>')
  match name, cs.dropWhile (· ≠ '>') with
  | c :: more, '>' :: rest =>
    if isNameChar true c && more.all (isNameChar false) then some (String.ofList name, rest)
    else none
  | _, _ => none

/-- A decimal number between blanks, or none. -/
def readCount (flags : Flags) (cs : List Char) : Option Nat × List Char :=
  let (ds, rest) := digits flags cs.length (Text.dropBlanks (flags.skip cs))
  let rest := flags.skip (Text.dropBlanks rest)
  (if ds.isEmpty then none else some (Decimal.digitsValue ds), rest)
where
  digits (flags : Flags) : Nat → List Char → List Char × List Char
    | fuel + 1, c :: cs =>
      if Decimal.isDigit c then
        let (ds, rest) := digits flags fuel (flags.skip cs)
        (c :: ds, rest)
      else ([], c :: cs)
    | _, cs => ([], cs)

/-- The bounds of a repetition after its opening brace, and what follows the closing one. The lower
bound may not be left out. -/
def readBounds (flags : Flags) (cs : List Char) : Option ((Nat × Option Nat) × List Char) := do
  let (least, rest) := readCount flags cs
  let least ← least
  let (most, rest) ← match rest with
    | ',' :: rest =>
      match flags.skip rest with
      | '\x7d' :: rest => some (none, '\x7d' :: rest)
      | rest =>
        let (most, rest) := readCount flags rest
        (most.map some).map (·, rest)
    | rest => some (some least, rest)
  match rest with
  | '\x7d' :: rest =>
    if least < 2 ^ (32 : Nat) && (most.all fun m => m < 2 ^ (32 : Nat) && least ≤ m) then
      return ((least, most), flags.skip rest)
    else none
  | _ => none

/-- A question mark after a repetition, and what follows it. -/
def readLazy : List Char → Bool × List Char
  | '?' :: cs => (true, cs)
  | cs => (false, cs)

def lineStart (flags : Flags) : Look :=
  if flags.multiLine then .lineStart flags.carriageReturn else .textStart

def lineEnd (flags : Flags) : Look :=
  if flags.multiLine then .lineEnd flags.carriageReturn else .textEnd

def ofTerm (term : Term) : Part := { term }

/-- A character that stands for itself, or for its variants too. Without the Unicode flag, a byte
has to be ASCII. -/
def literal? (flags : Flags) (c : Char) (isByte : Bool) : Option Part :=
  if isByte && !flags.unicode && 0x7F < c.toNat then none
  else some (ofTerm (.ofSet (flags.closed (.single c))))

/-- The point: any character but the end of a line, or any at all. -/
def dot? (flags : Flags) : Option Part :=
  let ends : CodeSet :=
    if flags.dotAll then .empty
    else if flags.carriageReturn then .ofPoints [0xA, 0xD]
    else .single '\n'
  if flags.unicode then some (ofTerm (.ofSet ends.complement)) else none

/-- An item that is neither a group nor a repetition. -/
def readItem (flags : Flags) : List Char → Option (Part × List Char)
  | [] => none
  | '[' :: cs => do
    let (set, rest) ← readSet flags (2 * cs.length + 2) cs
    return (⟨.ofSet set.set, set.depth⟩, rest)
  | '\\' :: cs => do
    match ← readEscape flags cs with
    | (.literal c isByte, rest) => return (← literal? flags c isByte, rest)
    | (.set s, rest) => some (ofTerm (.ofSet s), rest)
    | (.look l, rest) => some (ofTerm (.look l), rest)
  | '.' :: cs => (dot? flags).map (·, cs)
  | '^' :: cs => some (ofTerm (.look (lineStart flags)), cs)
  | '$' :: cs => some (ofTerm (.look (lineEnd flags)), cs)
  | c :: cs => (literal? flags c false).map (·, cs)

/-- How a group begins after its parenthesis. -/
inductive Opening where
  /-- No group, but flags for the rest of the one around it. -/
  | setting (flags : Flags)
  /-- A group, with the scope of its body and its number, if it has one. -/
  | group (scope : Scope) (index : Option Nat)

/-- The next group that has a number. -/
def Scope.numbered (scope : Scope) (names : List String) : Opening :=
  .group { scope with names, groups := scope.groups + 1 } (some scope.groups)

def readOpening (scope : Scope) (cs : List Char) : Option (Opening × List Char) :=
  match scope.flags.skip cs with
  | '?' :: '=' :: _ | '?' :: '!' :: _ | '?' :: '<' :: '=' :: _ | '?' :: '<' :: '!' :: _ => none
  | '?' :: 'P' :: '<' :: rest | '?' :: '<' :: rest => do
    let (name, rest) ← readName rest
    if scope.names.contains name then none
    else some (scope.numbered (name :: scope.names), rest)
  | '?' :: rest => do
    let letters := rest.takeWhile fun c => c ≠ ':' && c ≠ ')'
    let flags ← applyFlags true [] scope.flags letters
    match rest.dropWhile fun c => c ≠ ':' && c ≠ ')' with
    | ':' :: rest => some (.group { scope with flags } none, rest)
    | ')' :: rest => if letters.isEmpty then none else some (.setting flags, rest)
    | _ => none
  | rest => some (scope.numbered scope.names, rest)

/-- Repeats the last item. -/
def repeatLast (least : Nat) (most : Option Nat) (greedy : Bool) :
    List (Option Part) → Option (List (Option Part))
  | some part :: items => some (some (part.rep least most greedy) :: items)
  | _ => none

/-- Reads a body up to the parenthesis that closes it or to the end. `done` holds the alternatives
before the current one and `items` the items of it, each list from its last to its first. -/
def readBody : Nat → Scope → List Part → List (Option Part) → List Char →
    Option (Part × Scope × List Char)
  | 0, _, _, _, _ => none
  | fuel + 1, scope, done, items, cs =>
    let finish (rest : List Char) :=
      some (Part.alternatives (Part.sequence items.reverse :: done).reverse, scope, rest)
    let repeated (least : Nat) (most : Option Nat) (rest : List Char) := do
      let (isLazy, rest) := readLazy rest
      let items ← repeatLast least most (isLazy == scope.flags.swapGreed) items
      readBody fuel scope done items rest
    match scope.flags.skip cs with
    | [] => finish []
    | ')' :: rest => finish (')' :: rest)
    | '|' :: rest => readBody fuel scope (Part.sequence items.reverse :: done) [] rest
    | '?' :: rest => repeated 0 (some 1) rest
    | '*' :: rest => repeated 0 none rest
    | '+' :: rest => repeated 1 none rest
    | '\x7b' :: rest => do
      let ((least, most), rest) ← readBounds scope.flags rest
      repeated least most rest
    | '(' :: rest => do
      match ← readOpening scope rest with
      | (.setting flags, rest) =>
        readBody fuel { scope with flags } done (none :: items) rest
      | (.group inner index, rest) =>
        match ← readBody fuel inner [] [] rest with
        | (body, after, ')' :: rest) =>
          let part := match index with
            | some index => body.group index
            | none => body.plainGroup
          let scope := { after with flags := scope.flags }
          readBody fuel scope done (some part :: items) rest
        | _ => none
    | body => do
      let (part, rest) ← readItem scope.flags body
      readBody fuel scope done (some part :: items) rest

/-- The pattern that the whole text writes under the given flags. -/
def read? (flags : Flags) (text : String) : Option Pattern := do
  let cs := text.toList
  match ← readBody (cs.length + 1) { flags } [] [] cs with
  | (part, _, []) =>
    if part.depth ≤ depthLimit && part.term.isWithinLimit then some part.term.toPattern else none
  | _ => none

end FieldRules.Pattern
