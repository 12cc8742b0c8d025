import FieldRules.Pattern.Flags
import FieldRules.Pattern.Look
import FieldRules.Text.Hex
import FieldRules.Unicode.Property

namespace FieldRules.Pattern

inductive Escape where
  /-- A character, and whether it is written as a byte by two digits. -/
  | literal (c : Char) (isByte : Bool)
  | set (s : CodeSet)
  | look (l : Look)

def isMetaChar (c : Char) : Bool := "\\.+*?()|[]\x7b\x7d^$#&-~".toList.contains c

/-- Characters that may be escaped and then stand for themselves: all of ASCII but letters, digits
and angle brackets. -/
def isEscapable (c : Char) : Bool :=
  isMetaChar c || (c.toNat < 0x80 && !c.isAlphanum && c ≠ '<' && c ≠ '>')

def charOfNumber? (n : Nat) : Option Char := if n.isValidChar then some (Char.ofNat n) else none

/-- Hexadecimal digits up to the closing brace, and what follows it. -/
def takeBraced (flags : Flags) : Nat → List Char → Option (List Char × List Char)
  | 0, _ => none
  | fuel + 1, cs =>
    match flags.skip cs with
    | '\x7d' :: rest => some ([], rest)
    | c :: rest => (takeBraced flags fuel rest).map fun (ds, rest) => (c :: ds, rest)
    | [] => none

/-- So many characters, of which blanks between them do not count in verbose patterns. -/
def takeCounted (flags : Flags) : Nat → List Char → Option (List Char × List Char)
  | 0, cs => some ([], cs)
  | n + 1, cs =>
    match flags.skip cs with
    | c :: rest => (takeCounted flags n rest).map fun (ds, rest) => (c :: ds, rest)
    | [] => none

/-- A character by its number: digits in braces, or as many as the letter asks for. -/
def readNumbered (flags : Flags) (count : Nat) (cs : List Char) : Option (Escape × List Char) := do
  let (ds, isByte, rest) ← match flags.skip cs with
    | '\x7b' :: body =>
      (takeBraced flags (body.length + 1) body).map fun (ds, rest) => (ds, false, rest)
    | body => (takeCounted flags count body).map fun (ds, rest) => (ds, count = 2, rest)
  if ds.isEmpty then none
  else return (.literal (← charOfNumber? (← Text.hexNumber? ds)) isByte, flags.skip rest)

/-- The property that a text in braces names, and whether it is negated within them. -/
def namedProperty? (name : List Char) : Option (CodeSet × Bool) :=
  let (family, rest) := (name.takeWhile fun c => c ≠ '!' && c ≠ ':' && c ≠ '=',
    name.dropWhile fun c => c ≠ '!' && c ≠ ':' && c ≠ '=')
  let property (value : List Char) :=
    Unicode.propertyIn? (Unicode.looseName family) (Unicode.looseName value)
  match rest with
  | '!' :: '=' :: value => (property value).map (·, true)
  | ':' :: value | '=' :: value => (property value).map (·, false)
  | _ => (Unicode.property? (Unicode.looseName name)).map (·, false)

/-- A set by the name of a property, in braces or of one letter. -/
def readProperty (flags : Flags) (negated : Bool) (cs : List Char) :
    Option (Escape × List Char) := do
  let ((property, inner), rest) ← match flags.skip cs with
    | '\x7b' :: body =>
      let (name, rest) ← takeBraced flags (body.length + 1) body
      some (← namedProperty? name, rest)
    | c :: rest =>
      if c = '\\' then none else some (← namedProperty? [c], flags.skip rest)
    | [] => none
  if flags.unicode then return (.set (← flags.signed? (negated != inner) property), rest)
  else none

def asciiDigit : CodeSet := .ofText "30-39"

def asciiSpace : CodeSet := .ofText "9-D 20"

def asciiWord : CodeSet := .ofText "30-39 41-5A 5F 61-7A"

/-- One of the three short sets; a capital letter stands for its complement. -/
def shortSet? (flags : Flags) (letter : Char) : Option CodeSet :=
  let s := match letter.toLower with
    | 'd' => if flags.unicode then Unicode.decimalNumber else asciiDigit
    | 's' => if flags.unicode then Unicode.whiteSpace else asciiSpace
    | _ => if flags.unicode then Unicode.wordCharacter else asciiWord
  if letter.isUpper then flags.complement? s else some s

def isBoundaryNameChar (c : Char) : Bool := c.isAlpha || c = '-'

/-- The kind of word boundary that a name in braces gives. -/
def namedEdge? : String → Option Edge
  | "start" => some .start
  | "end" => some .stop
  | "start-half" => some .notAfter
  | "end-half" => some .notBefore
  | _ => none

/-- A word boundary; a brace after it may name its kind, or begin a repetition. -/
def readBoundary (flags : Flags) (cs : List Char) : Option (Escape × List Char) :=
  match cs with
  | '\x7b' :: body =>
    match flags.skip body with
    | [] => none
    | c :: _ =>
      if isBoundaryNameChar c then do
        let (name, rest) ← takeBraced flags (body.length + 1) body
        if name.all isBoundaryNameChar then
          return (.look (.word (← namedEdge? (String.ofList name)) flags.unicode), rest)
        else none
      else some (.look (.word .either flags.unicode), cs)
  | _ => some (.look (.word .either flags.unicode), cs)

/-- An escape after its backslash, and what follows it. -/
def readEscape (flags : Flags) : List Char → Option (Escape × List Char)
  | [] => none
  | c :: cs =>
    let literal (d : Char) := some (Escape.literal d false, cs)
    let edge (e : Edge) := some (Escape.look (.word e flags.unicode), cs)
    if isEscapable c then literal c
    else match c with
      | 'x' => readNumbered flags 2 cs
      | 'u' => readNumbered flags 4 cs
      | 'U' => readNumbered flags 8 cs
      | 'p' => readProperty flags false cs
      | 'P' => readProperty flags true cs
      | 'd' | 's' | 'w' | 'D' | 'S' | 'W' => (shortSet? flags c).map (.set ·, cs)
      | 'a' => literal '\x07'
      | 'f' => literal '\x0c'
      | 't' => literal '\t'
      | 'n' => literal '\n'
      | 'r' => literal '\r'
      | 'v' => literal '\x0b'
      | 'A' => some (.look .textStart, cs)
      | 'z' => some (.look .textEnd, cs)
      | 'b' => readBoundary flags cs
      | 'B' => edge .neither
      | '<' => edge .start
      | '>' => edge .stop
      | _ => none

end FieldRules.Pattern
