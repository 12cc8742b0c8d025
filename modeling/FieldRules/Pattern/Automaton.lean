import FieldRules.Pattern.Bytes

namespace FieldRules.Pattern

/-- States by keys: each place has the key and the number of the last state that was put there. -/
structure Places (κ : Type) where
  keys : Array κ
  states : Array Nat

namespace Places

variable {κ : Type}

def replicate (n : Nat) (key : κ) : Places κ := ⟨Array.replicate n key, Array.replicate n 0⟩

@[inline] def find? [DecidableEq κ] (p : Places κ) (place : Nat) (key : κ) : Option Nat :=
  if p.keys[place]? = some key then p.states[place]? else none

@[inline] def put (p : Places κ) (place : Nat) (key : κ) (state : Nat) : Places κ :=
  ⟨p.keys.setIfInBounds place key, p.states.setIfInBounds place state⟩

end Places

/-- What has been built: the number of states, the bytes of their ranges and alternatives, and the
states that may be shared. Forwards, the key of a state is all of its links; backwards, each has
one. -/
structure Automaton where
  states : Nat := 0
  links : Nat := 0
  nodes : Places (List Nat) := .replicate 10000 []
  steps : Places Nat := .replicate 1000 0

namespace Automaton

-- The powers below are core's, whichever instances a wider import brings.
attribute [local instance (high)] instPowNat

def byteLimit : Nat := 10 * 2 ^ (20 : Nat)

def bytes (a : Automaton) : Nat := 32 * a.states + a.links

def add (a : Automaton) (states links : Nat) : Automaton :=
  { a with states := a.states + states, links := a.links + links }

/-- Builds so many times, but stops beyond the limit, since nothing is ever taken away. -/
def addTimes (build : Automaton → Automaton) : Nat → Automaton → Automaton
  | 0, a => a
  | n + 1, a => if byteLimit < a.bytes then a else addTimes build n (build a)

end Automaton

/-- One step of the FNV-1a hash, which takes in a number at once. -/
@[inline] def hashStep (h : UInt64) (n : Nat) : UInt64 := (h ^^^ n.toUInt64) * 1099511628211

def hashStart : UInt64 := 14695981039346656037

@[inline] def hashPlace (h : UInt64) (places : UInt64) : Nat := (h % places).toNat

/-- A range of bytes and the state that it leads to, as one number. -/
def linkCode (lo hi next : Nat) : Nat := (next * 256 + lo) * 256 + hi

def hashLinks (h : UInt64) : List Nat → UInt64
  | [] => h
  | code :: codes =>
    let (lo, hi, next) := (code / 256 % 256, code % 256, code / 65536)
    hashLinks (hashStep (hashStep (hashStep h lo) hi) next) codes

/-- Finds or adds the state that has the given links. -/
def Automaton.node (a : Automaton) (codes : List Nat) : Nat × Automaton :=
  let place := hashPlace (hashLinks hashStart codes) 10000
  match a.nodes.find? place codes with
  | some state => (state, a)
  | none =>
    let state := a.states
    (state, { a with
      states := state + 1, links := a.links + 8 * codes.length
      nodes := a.nodes.put place codes state })

namespace ByteTree

def isLeaf : ByteTree → Bool
  | leaf => true
  | _ => false

/-- The links of the branches of a tree whose leaves are the state `target`. -/
def links (target : Nat) : ByteTree → Automaton → List Nat × Automaton
  | branch lo hi below beside, a =>
    let (next, a) :=
      if below.isLeaf then (target, a)
      else
        let (codes, a) := below.links target a
        a.node codes
    let (codes, a) := beside.links target a
    (linkCode lo hi next :: codes, a)
  | _, a => ([], a)

/-- Adds the states of a tree: first where its leaves lead, and each other after those that it leads
to. -/
def build (tree : ByteTree) (a : Automaton) : Automaton :=
  let (codes, a') := tree.links a.states (a.add 1 0)
  (a'.node codes).2

end ByteTree

/-- Adds the states of a run that is read from its end and leads to `target`. They are shared with
runs that begin alike. -/
def buildRun (target : Nat) : ByteRun → Automaton → Automaton
  | [], a => a
  | (lo, hi) :: run, a =>
    let hash := hashStep (hashStep (hashStep hashStart target) lo) hi
    let place := hashPlace hash 1000
    let code := linkCode lo hi target
    match a.steps.find? place code with
    | some state => buildRun state run a
    | none =>
      let state := a.states
      buildRun state run
        { a with states := state + 1, steps := a.steps.put place code state }

/-- Adds a fork to runs that are read from their ends, and where they lead. -/
def buildRuns (runs : List ByteRun) (a : Automaton) : Automaton :=
  let target := a.states + 1
  runs.foldl (fun a run => buildRun target run a) (a.add 2 (4 * runs.length))

end FieldRules.Pattern
