import FieldRules.Pattern.Automaton
import FieldRules.Pattern.Term
import FieldRules.Pattern.WordTree

namespace FieldRules.Pattern

inductive Plan where
  /-- States that are not shared, with the bytes of their links. -/
  | states (count links : Nat)
  /-- A literal, as bytes in the order in which they are read. -/
  | word (bytes : List Nat)
  | words (t : WordTree)
  | tree (t : ByteTree)
  | runs (rs : List ByteRun)
  | both (p q : Plan)
  | times (n : Nat) (p : Plan)

namespace Plan

def build : Plan → Automaton → Automaton
  | states count links, a => a.add count links
  | word bytes, a => a.add bytes.length 0
  | words t, a => t.build a
  | tree t, a => t.build a
  | runs rs, a => buildRuns rs a
  | both p q, a => q.build (p.build a)
  | times n p, a => a.addTimes p.build n

def word? : Plan → Option (List Nat)
  | word bytes => some bytes
  | _ => none

/-- A state that reads nothing. -/
def pass : Plan := states 1 0

/-- A fork with two alternatives. -/
def fork : Plan := states 1 8

def exactly (n : Nat) (p : Plan) : Plan := if n = 0 then pass else times n p

/-- A repetition of a part, of which `isEmptiable` says whether it may cover nothing. -/
def rep (p : Plan) (isEmptiable : Bool) (least : Nat) (most : Option Nat) : Plan :=
  match least, most with
  | 0, some 1 => both fork (both p pass)
  | 0, none => if isEmptiable then both p (both fork (both fork pass)) else both fork p
  | n, none => both (times n p) fork
  | n, some m =>
    if n = m then exactly n p
    else both (exactly n p) (both pass (times (m - n) (both fork p)))

/-- Alternatives. Words are put together by what they begin with; otherwise a fork and the state
after it are added behind the first two. -/
def alternatives : List Plan → Plan
  | [] => states 2 0
  | [p] => p
  | p :: q :: rest =>
    match (p :: q :: rest).mapM word? with
    | some ws => words (.ofWords ws)
    | none =>
      both p (both q (both (states 2 (4 * (rest.length + 2))) (rest.foldr both (states 0 0))))

/-- A set: one state with a range for each span where it is ASCII. -/
def ofSet (backwards : Bool) (s : CodeSet) : Plan :=
  if s.isAscii then states 2 (8 * s.spans.length)
  else if backwards then runs (runsOfSet s)
  else tree (treeOfRuns 4 (runsOfSet s))

def ofLiteral (backwards : Bool) (cs : List Char) : Plan :=
  let bytes := cs.flatMap fun c => utf8Bytes c.toNat
  word (if backwards then bytes.reverse else bytes)

/-- The plans of the branches of a term. Groups leave marks in the forward automaton only. -/
def ofBranches (backwards : Bool) : Term → List Plan
  | .empty | .look _ => [pass]
  | .literal cs => [ofLiteral backwards cs]
  | .set s => [ofSet backwards s]
  | .rep t least most _ =>
    let isEmptiable := !(t.leastBytes?.any (0 < ·))
    [rep (alternatives (ofBranches backwards t)) isEmptiable least most]
  | .group _ t =>
    let mark := states (if backwards then 0 else 1) 0
    [both mark (both (alternatives (ofBranches backwards t)) mark)]
  | .seq t u =>
    let p := alternatives (ofBranches backwards t)
    let q := alternatives (ofBranches backwards u)
    [if backwards then both q p else both p q]
  | .alt t u => alternatives (ofBranches backwards t) :: ofBranches backwards u

/-- The whole automaton: a loop over any bytes before what is not bound to the start, the term as a
group, and the end. -/
def ofTerm (backwards : Bool) (t : Term) : Plan :=
  let bound := if backwards then t.endsText else t.startsText
  let mark := states (if backwards then 0 else 1) 0
  let body := alternatives (ofBranches backwards t)
  both (if bound then pass else states 3 16) (both mark (both body (both mark pass)))

end Plan

def Term.isWithinLimit (t : Term) : Bool :=
  [false, true].all fun backwards =>
    ((Plan.ofTerm backwards t).build {}).bytes ≤ Automaton.byteLimit

end FieldRules.Pattern
