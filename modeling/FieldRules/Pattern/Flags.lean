import FieldRules.Text.Blank
import FieldRules.Unicode.CaseFold

namespace FieldRules.Pattern

structure Flags where
  anyCase : Bool := false
  multiLine : Bool := false
  dotAll : Bool := false
  /-- Blanks and comments in the pattern do not count. -/
  verbose : Bool := false
  unicode : Bool := true
  /-- A carriage return ends a line too. -/
  carriageReturn : Bool := false
  /-- Repetitions are lazy, and greedy with a question mark. -/
  swapGreed : Bool := false

namespace Flags

/-- Sets the flag of a letter. -/
def set? (flags : Flags) (on : Bool) : Char → Option Flags
  | 'i' => some { flags with anyCase := on }
  | 'm' => some { flags with multiLine := on }
  | 's' => some { flags with dotAll := on }
  | 'x' => some { flags with verbose := on }
  | 'u' => some { flags with unicode := on }
  | 'R' => some { flags with carriageReturn := on }
  | 'U' => some { flags with swapGreed := on }
  | _ => none

/-- Drops what does not count: with the verbose flag, blanks and comments up to the line's end. -/
def skip (flags : Flags) : List Char → List Char
  | [] => []
  | c :: cs =>
    if flags.verbose then
      if Text.isBlank c then flags.skip cs
      else if c = '#' then skipComment cs
      else c :: cs
    else c :: cs
where
  skipComment : List Char → List Char
    | [] => []
    | c :: cs => if c = '\n' then flags.skip cs else skipComment cs

/-- The character that stands next in a set. Blanks before it are passed over with the verbose flag,
and so is the first hash sign, but not the comment that it begins. -/
def peek (flags : Flags) : List Char → Option Char
  | [] => none
  | c :: cs => if flags.verbose then ahead false (c :: cs) else some c
where
  ahead (inComment : Bool) : List Char → Option Char
    | [] => none
    | c :: cs =>
      if Text.isBlank c then ahead inComment cs
      else if c = '#' && !inComment then ahead true cs
      else some c

/-- A set with all variants of its characters, where case does not count. -/
def closed (flags : Flags) (s : CodeSet) : CodeSet :=
  if flags.anyCase then if flags.unicode then s.withVariants else s.withAsciiVariants else s

/-- The characters outside a set, which are not all ASCII. -/
def complement? (flags : Flags) (s : CodeSet) : Option CodeSet :=
  if flags.unicode then some s.complement else none

/-- A set or its complement, closed under case before. -/
def signed? (flags : Flags) (negated : Bool) (s : CodeSet) : Option CodeSet :=
  if negated then flags.complement? (flags.closed s) else some (flags.closed s)

end Flags

end FieldRules.Pattern
