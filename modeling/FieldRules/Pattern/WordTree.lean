import FieldRules.Pattern.Automaton

namespace FieldRules.Pattern

/-- Words of bytes by what they begin with, in the order in which they are tried. Where a word ends,
the branches before it and those after it are apart. -/
inductive WordTree where
  | stop
  /-- A word ends. -/
  | ends (beside : WordTree)
  | branch (byte : Nat) (below beside : WordTree)

namespace WordTree

-- The zero of the sums below is core's, whichever instances a wider import brings.
attribute [local instance (high)] Zero.ofOfNat0

def hasBranches : WordTree → Bool
  | stop => false
  | ends beside => beside.hasBranches
  | branch _ _ _ => true

def hasEnd : WordTree → Bool
  | stop => false
  | ends _ => true
  | branch _ _ beside => beside.hasEnd

def addEnd : WordTree → WordTree
  | stop => ends stop
  | ends beside => ends beside.addEnd
  | branch byte below beside => branch byte below beside.addEnd

def ofWord (word : List Nat) : WordTree :=
  word.foldr (fun byte below => branch byte below stop) (ends stop)

/-- Adds a word. A second end where there are no branches adds nothing. -/
def insert (word : List Nat) : WordTree → WordTree
  | stop => ofWord word
  | ends beside =>
    if word.isEmpty && !beside.hasBranches then ends beside else ends (beside.insert word)
  | branch byte below beside =>
    match word with
    | [] => branch byte below beside.addEnd
    | first :: rest =>
      if first = byte && !beside.hasEnd then branch byte (below.insert rest) beside
      else branch byte below (beside.insert word)

def ofWords (words : List (List Nat)) : WordTree :=
  words.foldl (fun tree word => tree.insert word) stop

/-- The numbers of branches in the stretches between the ends of words. -/
def stretches : WordTree → List Nat
  | stop => [0]
  | ends beside => 0 :: beside.stretches
  | branch _ _ beside =>
    match beside.stretches with
    | n :: rest => (n + 1) :: rest
    | [] => [1]

/-- Adds the states of a node: one for each stretch, which has ranges if it has more than one
branch, and a fork to them and to the ends. -/
def buildNode (tree : WordTree) (a : Automaton) : Automaton :=
  let filled := tree.stretches.filter (0 < ·)
  let ends := tree.stretches.length - 1
  a.add (filled.length + 1) (4 * (filled.length + ends) + 8 * (filled.filter (1 < ·)).sum)

/-- Adds the states of the nodes below a node, of which those without branches have none. -/
def buildBelow : WordTree → Automaton → Automaton
  | stop, a => a
  | ends beside, a => beside.buildBelow a
  | branch _ below beside, a =>
    let a := if below.hasBranches then below.buildNode a else a
    beside.buildBelow (below.buildBelow a)

/-- Adds the states of the tree, and the one where all words end. -/
def build (tree : WordTree) (a : Automaton) : Automaton :=
  tree.buildBelow (tree.buildNode (a.add 1 0))

end WordTree

end FieldRules.Pattern
