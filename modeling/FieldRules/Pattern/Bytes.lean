import FieldRules.Unicode.CodeSet

namespace FieldRules.Pattern

/-- The lowest and the highest byte at each place of a form. -/
abbrev ByteRun := List (Nat × Nat)

/-- The UTF-8 form of a code point. -/
def utf8Bytes (n : Nat) : List Nat :=
  if n < 0x80 then [n]
  else if n < 0x800 then [0xC0 + n / 0x40, 0x80 + n % 0x40]
  else if n < 0x10000 then [0xE0 + n / 0x1000, 0x80 + n / 0x40 % 0x40, 0x80 + n % 0x40]
  else [0xF0 + n / 0x40000, 0x80 + n / 0x1000 % 0x40, 0x80 + n / 0x40 % 0x40, 0x80 + n % 0x40]

/-- Cuts a span after `last`. -/
def cutAfter (last : Nat) (span : Nat × Nat) : List (Nat × Nat) :=
  if span.1 ≤ last && last < span.2 then [(span.1, last), (last + 1, span.2)] else [span]

/-- Cuts what does not fill whole blocks off both ends of a span that is in more than one block. -/
def cutBlocks (block : Nat) (span : Nat × Nat) : List (Nat × Nat) :=
  let (lo, hi) := span
  if lo / block = hi / block then [span]
  else
    let next := (lo / block + 1) * block
    let (head, lo) := if lo % block = 0 then ([], lo) else ([(lo, next - 1)], next)
    let last := hi / block * block
    if hi % block = block - 1 || lo = last then head ++ [(lo, hi)]
    else head ++ [(lo, last - 1), (last, hi)]

/-- The stretches of a span without surrogates. -/
def withoutSurrogates (span : Nat × Nat) : List (Nat × Nat) :=
  if span.1 < 0xE000 && 0xD7FF < span.2 then
    [(span.1, 0xD7FF), (0xE000, span.2)].filter fun (lo, hi) => lo ≤ hi
  else [span]

def runsOfSpan (span : Nat × Nat) : List ByteRun :=
  let bySize := (withoutSurrogates span).flatMap (cutAfter 0x7F) |>.flatMap (cutAfter 0x7FF)
    |>.flatMap (cutAfter 0xFFFF)
  bySize.flatMap fun (lo, hi) =>
    if hi < 0x80 then [[(lo, hi)]]
    else
      let stretches := (cutBlocks 0x40 (lo, hi)).flatMap (cutBlocks 0x1000)
        |>.flatMap (cutBlocks 0x40000)
      stretches.map fun (lo, hi) => (utf8Bytes lo).zip (utf8Bytes hi)

/-- The forms of the characters of a set, in order. -/
def runsOfSet (s : CodeSet) : List ByteRun := s.spans.flatMap runsOfSpan

/-- Runs of bytes by what they have in common at their start. -/
inductive ByteTree where
  /-- Nothing follows. -/
  | leaf
  /-- No branches are left. -/
  | stop
  | branch (lo hi : Nat) (below beside : ByteTree)

/-- Collects neighbours with the same first range. -/
def groupRuns : List ByteRun → List ((Nat × Nat) × List ByteRun)
  | [] => []
  | [] :: runs => groupRuns runs
  | (range :: rest) :: runs =>
    match groupRuns runs with
    | (range', rests) :: groups =>
      if range = range' then (range, rest :: rests) :: groups
      else (range, [rest]) :: (range', rests) :: groups
    | [] => [(range, [rest])]

/-- The tree of runs of up to so many bytes. -/
def treeOfRuns : Nat → List ByteRun → ByteTree
  | 0, _ => .leaf
  | size + 1, runs =>
    if runs.all List.isEmpty then .leaf
    else (groupRuns runs).foldr
      (fun ((lo, hi), rests) beside => .branch lo hi (treeOfRuns size rests) beside) .stop

end FieldRules.Pattern
