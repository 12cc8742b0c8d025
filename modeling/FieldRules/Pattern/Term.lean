import FieldRules.Pattern.Basic
import FieldRules.Pattern.Look

namespace FieldRules.Pattern

/-- Regular expressions in a normal form: literals next to each other are one, sequences and
alternatives are not nested, and what alternatives have in common at their start stands before them.
-/
inductive Term where
  | empty
  | literal (cs : List Char)
  | set (s : CodeSet)
  | look (l : Look)
  | rep (t : Term) (least : Nat) (most : Option Nat) (greedy : Bool)
  /-- A group with its number, by which it differs from any other group. -/
  | group (index : Nat) (t : Term)
  | seq (t u : Term)
  | alt (t u : Term)
deriving DecidableEq

namespace Term

-- The zero of the sums below is core's, whichever instances a wider import brings.
attribute [local instance (high)] Zero.ofOfNat0

def toPattern : Term → Pattern
  | empty => .empty
  | literal cs => sequence (cs.map char)
  | set s => .one s.has
  | look l => .look l.holds
  | rep t least most _ => .rep t.toPattern least most
  | group _ t => t.toPattern
  | seq t u => .seq t.toPattern u.toPattern
  | alt t u => .alt t.toPattern u.toPattern

def utf8Size (n : Nat) : Nat := (Char.ofNat n).utf8Size

/-- The least number of bytes that the term covers; `none` where a part of it covers nothing. -/
def leastBytes? : Term → Option Nat
  | empty | look _ => some 0
  | literal cs => some (cs.map Char.utf8Size).sum
  | set s => s.spans.head?.map fun span => utf8Size span.1
  | rep t least _ _ => t.leastBytes?.map (least * ·)
  | group _ t => t.leastBytes?
  | seq t u => return (← t.leastBytes?) + (← u.leastBytes?)
  | alt t u => return min (← t.leastBytes?) (← u.leastBytes?)

/-- The greatest number of bytes that the term covers; `none` where there is none. -/
def mostBytes? : Term → Option Nat
  | empty | look _ => some 0
  | literal cs => some (cs.map Char.utf8Size).sum
  | set s => s.spans.getLast?.map fun span => utf8Size span.2
  | rep t _ most _ => return (← most) * (← t.mostBytes?)
  | group _ t => t.mostBytes?
  | seq t u => return (← t.mostBytes?) + (← u.mostBytes?)
  | alt t u => return max (← t.mostBytes?) (← u.mostBytes?)

/-- Whether the term can only begin at the start of the text. -/
def startsText : Term → Bool
  | look l => l = .textStart
  | rep t least _ _ => 0 < least && t.startsText
  | group _ t => t.startsText
  | seq t u => t.startsText || (t.mostBytes? == some 0 && u.startsText)
  | alt t u => t.startsText && u.startsText
  | _ => false

/-- Whether the term can only end at the end of the text. -/
def endsText : Term → Bool
  | look l => l = .textEnd
  | rep t least _ _ => 0 < least && t.endsText
  | group _ t => t.endsText
  | seq t u => u.endsText || (u.mostBytes? == some 0 && t.endsText)
  | alt t u => t.endsText && u.endsText
  | _ => false

def ofSet (s : CodeSet) : Term :=
  match s.only? with
  | some c => literal [c]
  | none => set s

/-- Repeats a term. Where it covers no character, once is as good as more often. -/
def repeated (t : Term) (least : Nat) (most : Option Nat) (greedy : Bool) : Term :=
  let (least, most) :=
    if t.mostBytes? = some 0 then (min least 1, some (min (most.getD 1) 1)) else (least, most)
  if most = some 0 then empty
  else if least = 1 && most = some 1 then t
  else rep t least most greedy

/-- The items of a sequence. -/
def items : Term → List Term
  | empty => []
  | seq t u => t :: u.items
  | t => [t]

/-- Puts an item before others. -/
def consItem : Term → List Term → List Term
  | literal cs, literal ds :: rest => literal (cs ++ ds) :: rest
  | t, rest => t :: rest

def ofItems : List Term → Term
  | [] => empty
  | [t] => t
  | t :: rest => seq t (ofItems rest)

/-- Terms one after the other. -/
def sequence (ts : List Term) : Term := ofItems ((ts.flatMap items).foldr consItem [])

/-- The branches of alternatives. -/
def branches : Term → List Term
  | alt t u => t :: u.branches
  | t => [t]

def ofBranches : List Term → Term
  | [] => set .empty
  | [t] => t
  | t :: rest => alt t (ofBranches rest)

def single? : Term → Option Nat
  | literal [c] => some c.toNat
  | _ => none

def set? : Term → Option CodeSet
  | set s => some s
  | _ => none

/-- The items of a term that has at least two. -/
def seqItems? : Term → Option (List Term)
  | seq t u => some (t :: u.items)
  | _ => none

def commonStart : List Term → List Term → List Term
  | t :: ts, u :: us => if t = u then t :: commonStart ts us else []
  | _, _ => []

/-- What all branches begin with, where each of them has two items or more, and what follows it in
each. -/
def lifted? (ts : List Term) : Option (List Term × List (List Term)) := do
  let bodies ← ts.mapM seqItems?
  let first ← bodies.head?
  let start := bodies.tail.foldl commonStart first
  if start.isEmpty then none else return (start, bodies.map (·.drop start.length))

def size : Term → Nat
  | rep t _ _ _ | group _ t => t.size + 1
  | seq t u | alt t u => t.size + u.size + 1
  | _ => 1

/-- Alternatives, of which at least two are given; each step takes off an item at least. -/
def choiceWithin : Nat → List Term → Term
  | 0, ts => ofBranches ts
  | fuel + 1, ts =>
    let ts := ts.flatMap branches
    match ts.mapM single?, ts.mapM set?, lifted? ts with
    | some points, _, _ => ofSet (.ofPoints points)
    | none, some sets, _ => ofSet (.unions sets)
    | none, none, some (start, ends) =>
      sequence (start ++ [choiceWithin fuel (ends.map sequence)])
    | none, none, none => ofBranches ts

/-- One of several terms. -/
def choice : List Term → Term
  | [t] => t
  | ts => choiceWithin ((ts.map size).sum + 1) ts

end Term

end FieldRules.Pattern
