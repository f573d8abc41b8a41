import ContainerRoster.Decimal.Bounded

/-!
# Sets of characters

A set of code points is kept as closed ranges in increasing order, and ranges that touch are joined
when sets are united. The operations work on the ranges; `containsPoint` is what a set means. The
surrogates are code points but no characters: a range may span them, but does not begin or end at
one.

Tables of the Unicode standard are written as text in two forms. `parseGaps` reads the lengths of
the stretches that lie alternately outside and inside a set; `parseRuns` reads counts with the
code of a value after each, for a property that gives every code point a value.
-/

namespace ContainerRoster.Unicode

/-- The largest code point. -/
def lastPoint : Nat := 0x10FFFF

structure CharSet where
  ranges : List (Nat × Nat)
  deriving Repr, DecidableEq, Inhabited

namespace CharSet

def containsPoint (s : CharSet) (point : Nat) : Bool :=
  s.ranges.any fun r => decide (r.1 ≤ point) && decide (point ≤ r.2)

def contains (s : CharSet) (c : Char) : Bool := s.containsPoint c.toNat

def empty : CharSet := ⟨[]⟩

def all : CharSet := ⟨[(0, lastPoint)]⟩

/-- Join ranges that touch or overlap; the input is in order of the lower ends. -/
def coalesce : List (Nat × Nat) → List (Nat × Nat)
  | (lo, hi) :: (lo', hi') :: rest =>
    if lo' ≤ hi + 1 then coalesce ((lo, max hi hi') :: rest)
    else (lo, hi) :: coalesce ((lo', hi') :: rest)
  | ranges => ranges
termination_by ranges => ranges.length

/-- The set of the points in any of the given ranges, in whatever order they come. -/
def ofRanges (ranges : List (Nat × Nat)) : CharSet :=
  ⟨coalesce (ranges.mergeSort fun a b => decide (a.1 ≤ b.1))⟩

def singleton (c : Char) : CharSet := ⟨[(c.toNat, c.toNat)]⟩

/-- The code point after another, past the surrogates, which are no characters. -/
def after (point : Nat) : Nat := if point = 0xD7FF then 0xE000 else point + 1

/-- The code point before another, past the surrogates. -/
def before (point : Nat) : Nat := if point = 0xE000 then 0xD7FF else point - 1

/-- The stretches between ranges, from the end of one on. Where nothing but surrogates lies between
two ranges, the stretch is that of the characters on both sides of the surrogates. -/
def gapsAfter (high : Nat) : List (Nat × Nat) → List (Nat × Nat)
  | [] => if high < lastPoint then [(after high, lastPoint)] else []
  | (low', high') :: rest =>
    (min (after high) (before low'), max (after high) (before low')) :: gapsAfter high' rest

def compl (s : CharSet) : CharSet :=
  match s.ranges with
  | [] => all
  | (low, high) :: rest => ⟨(if 0 < low then [(0, before low)] else []) ++ gapsAfter high rest⟩

def union (s t : CharSet) : CharSet := ofRanges (s.ranges ++ t.ranges)

/-- What two ranges share. -/
def meet? (r q : Nat × Nat) : Option (Nat × Nat) :=
  if max r.1 q.1 ≤ min r.2 q.2 then some (max r.1 q.1, min r.2 q.2) else none

def inter (s t : CharSet) : CharSet := ⟨s.ranges.flatMap fun r => t.ranges.filterMap (meet? r)⟩

/-- What of a range lies below another and above it. -/
def cut (q r : Nat × Nat) : List (Nat × Nat) :=
  (if r.1 < q.1 then [(r.1, min r.2 (before q.1))] else []) ++
    (if q.2 < r.2 then [(max r.1 (after q.2), r.2)] else [])

def diff (s t : CharSet) : CharSet :=
  ⟨t.ranges.foldl (fun ranges q => ranges.flatMap (cut q)) s.ranges⟩

def symmDiff (s t : CharSet) : CharSet := (s.union t).diff (s.inter t)

/-- The code points of consecutive runs that carry an accepted value. -/
def ofRunsFrom (accept : String → Bool) (start : Nat) : List (Nat × String) → List (Nat × Nat)
  | [] => []
  | (count, value) :: rest =>
    let tail := ofRunsFrom accept (start + count) rest
    if accept value then (start, start + count - 1) :: tail else tail

def ofRuns (accept : String → Bool) (runs : List (Nat × String)) : CharSet :=
  ⟨coalesce (ofRunsFrom accept 0 runs)⟩

/-- The ranges that lie alternately outside and inside, given the lengths from a point on. -/
def ofGapsFrom (start : Nat) : List Nat → List (Nat × Nat)
  | outside :: inside :: rest =>
    (start + outside, start + outside + inside - 1) :: ofGapsFrom (start + outside + inside) rest
  | _ => []

/-- The words on some lines, with blanks between them. -/
def words (lines : List String) : List (List Char) :=
  lines.flatMap fun line => line.toList.splitOn ' '

/-- Words such as 32Cc as a count and a code. -/
def parseRuns (lines : List String) : List (Nat × String) :=
  (words lines).map fun word =>
    (Decimal.value (word.takeWhile Char.isDigit), String.ofList (word.dropWhile Char.isDigit))

/-- The set whose outer and inner stretches have the given lengths. -/
def parseGaps (lines : List String) : CharSet := ⟨ofGapsFrom 0 ((words lines).map Decimal.value)⟩

end CharSet

end ContainerRoster.Unicode
