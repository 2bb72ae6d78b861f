/-!
# Sets of characters

A set of code points is kept as its increasing list of switching points: below the first the set
holds nothing, and at each point membership changes.  Union, intersection and the like are then
one merge, and membership counts the points at or below a code point.
-/

namespace Blueprints

/-- A set of code points, given by the points at which membership changes. -/
structure CharClass where
  switches : Array Nat
deriving Repr, DecidableEq, Inhabited

namespace CharClass

def empty : CharClass := ⟨#[]⟩

def all : CharClass := ⟨#[0]⟩

/-- The code points from `lo` to `hi`, both included. -/
def range (lo hi : Nat) : CharClass := if lo ≤ hi then ⟨#[lo, hi + 1]⟩ else empty

def single (c : Char) : CharClass := range c.toNat c.toNat

/-- How many of the points in `[lo, hi)` are at most `n`, added to `lo`. -/
def rank (switches : Array Nat) (n lo hi : Nat) : Nat :=
  if lo < hi then
    let mid := (lo + hi) / 2
    if switches.getD mid 0 ≤ n then rank switches n (mid + 1) hi else rank switches n lo mid
  else lo
termination_by hi - lo

/-- Membership: an odd number of switching points lies at or below the code point. -/
def contains (s : CharClass) (n : Nat) : Bool := rank s.switches n 0 s.switches.size % 2 == 1

def has (s : CharClass) (c : Char) : Bool := s.contains c.toNat

/-- Switching points of `op` applied to two sets, from the states `a`, `b` and `out` on. -/
def mergeWith (op : Bool → Bool → Bool) :
    List Nat → List Nat → Bool → Bool → Bool → List Nat → List Nat
  | [], [], _, _, _, acc => acc.reverse
  | x :: xs, [], a, b, out, acc =>
    let now := op (!a) b
    mergeWith op xs [] (!a) b now (if now = out then acc else x :: acc)
  | [], y :: ys, a, b, out, acc =>
    let now := op a (!b)
    mergeWith op [] ys a (!b) now (if now = out then acc else y :: acc)
  | x :: xs, y :: ys, a, b, out, acc =>
    if x < y then
      let now := op (!a) b
      mergeWith op xs (y :: ys) (!a) b now (if now = out then acc else x :: acc)
    else if y < x then
      let now := op a (!b)
      mergeWith op (x :: xs) ys a (!b) now (if now = out then acc else y :: acc)
    else
      let now := op (!a) (!b)
      mergeWith op xs ys (!a) (!b) now (if now = out then acc else x :: acc)
termination_by xs ys => xs.length + ys.length

def combine (op : Bool → Bool → Bool) (s t : CharClass) : CharClass :=
  let start := op false false
  let points := mergeWith op s.switches.toList t.switches.toList false false start []
  ⟨(if start then 0 :: points else points).toArray⟩

def union (s t : CharClass) : CharClass := combine (· || ·) s t

def inter (s t : CharClass) : CharClass := combine (· && ·) s t

def diff (s t : CharClass) : CharClass := combine (fun a b => a && !b) s t

def symmDiff (s t : CharClass) : CharClass := combine (· ^^ ·) s t

def compl (s : CharClass) : CharClass :=
  match s.switches.toList with
  | 0 :: rest => ⟨rest.toArray⟩
  | points => ⟨(0 :: points).toArray⟩

def unions (sets : List CharClass) : CharClass := sets.foldl union empty

def ofChars (cs : List Char) : CharClass := unions (cs.map single)

/-- The ranges of the set, each with both ends, cut off at the last code point. -/
def ranges (s : CharClass) : List (Nat × Nat) := go s.switches.toList
where
  go : List Nat → List (Nat × Nat)
    | lo :: hi :: rest => (lo, hi - 1) :: go rest
    | [lo] => [(lo, 0x10FFFF)]
    | [] => []

def isAscii (s : CharClass) : Bool := s.ranges.all fun (_, hi) => hi < 128

end CharClass

end Blueprints
