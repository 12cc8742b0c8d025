namespace FieldRules

/-- Spans of code points with both ends, in order and apart. Surrogates are no characters, so a
point next to a span is taken past them. -/
structure CodeSet where
  spans : List (Nat × Nat)
deriving DecidableEq

namespace CodeSet

abbrev lastPoint : Nat := 0x10FFFF

def empty : CodeSet := ⟨[]⟩

def all : CodeSet := ⟨[(0, lastPoint)]⟩

def contains (s : CodeSet) (n : Nat) : Bool := s.spans.any fun (lo, hi) => lo ≤ n && n ≤ hi

def has (s : CodeSet) (c : Char) : Bool := s.contains c.toNat

/-- Puts a span before those that begin no earlier, joined with what it overlaps or touches. -/
def join : Nat × Nat → List (Nat × Nat) → List (Nat × Nat)
  | span, [] => [span]
  | (lo, hi), (lo', hi') :: rest =>
    if lo' ≤ hi + 1 then join (lo, max hi hi') rest else (lo, hi) :: join (lo', hi') rest

def beginsBefore (a b : Nat × Nat) : Bool := a.1 ≤ b.1

/-- The set of the points that are in one of the spans, which are in order of their beginnings. -/
def ofOrdered : List (Nat × Nat) → CodeSet
  | [] => empty
  | span :: rest => ⟨join span rest⟩

def ofSpans (spans : List (Nat × Nat)) : CodeSet := ofOrdered (spans.mergeSort beginsBefore)

def ofPoints (points : List Nat) : CodeSet := ofSpans (points.map fun n => (n, n))

def single (c : Char) : CodeSet := ⟨[(c.toNat, c.toNat)]⟩

def union (s t : CodeSet) : CodeSet := ofOrdered (s.spans.merge t.spans beginsBefore)

def unions (sets : List CodeSet) : CodeSet := ofSpans (sets.flatMap (·.spans))

/-- The stretches that two lists of spans have in common. -/
def common : List (Nat × Nat) → List (Nat × Nat) → List (Nat × Nat)
  | [], _ => []
  | _, [] => []
  | (a, b) :: s, (c, d) :: t =>
    let rest := if b < d then common s ((c, d) :: t) else common ((a, b) :: s) t
    if max a c ≤ min b d then (max a c, min b d) :: rest else rest
termination_by s t => s.length + t.length

def inter (s t : CodeSet) : CodeSet := ⟨common s.spans t.spans⟩

def pointBefore (n : Nat) : Nat := if n = 0xE000 then 0xD7FF else n - 1

def pointAfter (n : Nat) : Nat := if n = 0xD7FF then 0xE000 else n + 1

/-- What lies between the spans after one that ends at `hi`, as the first and the last point. Where
only surrogates do, the first is after the last. -/
def between (hi : Nat) : List (Nat × Nat) → List (Nat × Nat)
  | [] => if hi < lastPoint then [(pointAfter hi, lastPoint)] else []
  | (lo, hi') :: rest => (pointAfter hi, pointBefore lo) :: between hi' rest

def outside (s : CodeSet) : List (Nat × Nat) :=
  match s.spans with
  | [] => [(0, lastPoint)]
  | (lo, hi) :: rest => (if 0 < lo then [(0, pointBefore lo)] else []) ++ between hi rest

/-- The characters that are not in the set. -/
def others (s : CodeSet) : CodeSet := ⟨s.outside.filter fun (lo, hi) => lo ≤ hi⟩

/-- The spans between those of the set. Two that only surrogates keep apart have between them the
span of their own ends, so these two characters are in a set and in its complement. -/
def complement (s : CodeSet) : CodeSet := ⟨s.outside.map fun (lo, hi) => (min lo hi, max lo hi)⟩

def diff (s t : CodeSet) : CodeSet := s.inter t.others

def symmDiff (s t : CodeSet) : CodeSet := (s.union t).diff (s.inter t)

def isAscii (s : CodeSet) : Bool := s.spans.all fun (_, hi) => hi < 0x80

/-- The only member of a set that has one. -/
def only? (s : CodeSet) : Option Char :=
  match s.spans with
  | [(lo, hi)] => if lo = hi then some (Char.ofNat lo) else none
  | _ => none

end CodeSet

end FieldRules
