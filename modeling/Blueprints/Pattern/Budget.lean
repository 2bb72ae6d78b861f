import Blueprints.Pattern.Regular

/-!
# The size budget of an expression

An expression is refused when the automaton over the bytes of its UTF-8 form, read forwards or
backwards, would take more than ten megabytes.  The size is computed from the expression without
building the automaton, so that a repetition with a large count costs nothing to refuse.
-/

namespace Blueprints

namespace Budget

/-- The bytes an automaton may take. -/
def limit : Nat := 10 * 1024 * 1024

def stateSize : Nat := 32

/-! ### Byte sequences of a set -/

def encode (n : Nat) : List Nat :=
  if n < 0x80 then [n]
  else if n < 0x800 then [0xC0 + n / 64, 0x80 + n % 64]
  else if n < 0x10000 then [0xE0 + n / 4096, 0x80 + n / 64 % 64, 0x80 + n % 64]
  else [0xF0 + n / 262144, 0x80 + n / 4096 % 64, 0x80 + n / 64 % 64, 0x80 + n % 64]

/-- The two parts of a range that does not lie within one encoded length, or whose ends do not
fill the last `i` bytes; `none` if the range is one sequence of byte ranges. -/
def splitRange (lo hi : Nat) : Option ((Nat × Nat) × (Nat × Nat)) :=
  let atLength := [0x7F, 0x7FF, 0xFFFF].find? fun top => lo ≤ top ∧ top < hi
  match atLength with
  | some top => some ((lo, top), (top + 1, hi))
  | none =>
    if hi ≤ 0x7F then none
    else [1, 2, 3].findSome? fun i =>
      let unit := Nat.pow 64 i
      if lo / unit = hi / unit then none
      else if lo % unit ≠ 0 then
        let top := lo / unit * unit + (unit - 1)
        some ((lo, top), (top + 1, hi))
      else if hi % unit ≠ unit - 1 then
        let bottom := hi / unit * unit
        some ((lo, bottom - 1), (bottom, hi))
      else none

/-- The sequences of byte ranges that spell a range of code points.  `fuel` bounds how often it is
split. -/
def sequencesOf : (fuel : Nat) → Nat → Nat → List (List (Nat × Nat))
  | 0, lo, hi => [(encode lo).zip (encode hi)]
  | fuel + 1, lo, hi =>
    match splitRange lo hi with
    | none => [(encode lo).zip (encode hi)]
    | some (a, b) => sequencesOf fuel a.1 a.2 ++ sequencesOf fuel b.1 b.2

def byteSequences (s : CharClass) : List (List (Nat × Nat)) :=
  s.ranges.flatMap fun (lo, hi) =>
    let low := if lo ≤ min hi 0xD7FF then sequencesOf 16 lo (min hi 0xD7FF) else []
    let high := if max lo 0xE000 ≤ hi then sequencesOf 16 (max lo 0xE000) hi else []
    low ++ high

/-- Backwards, sequences share what they have in common at their first bytes: the number of states
is the number of different beginnings. -/
def backwardSize (sequences : List (List (Nat × Nat))) : Nat :=
  let starts := sequences.flatMap fun s => (List.range s.length).map fun n => s.take (n + 1)
  let sorted := starts.mergeSort fun a b => !decide (key b < key a)
  stateSize * (2 + (distinct sorted)) + 4 * sequences.length
where
  key (s : List (Nat × Nat)) : List Nat := s.flatMap fun (lo, hi) => [lo, hi]
  distinct : List (List (Nat × Nat)) → Nat
    | a :: b :: rest => (if a = b then 0 else 1) + distinct (b :: rest)
    | [_] => 1
    | [] => 0

/-- Forwards, sequences share what they have in common at their last bytes; the states at one depth
are grouped by what follows them. -/
def forwardSize (sequences : List (List (Nat × Nat))) : Nat :=
  let ends := sequences.flatMap fun s => (List.range s.length).map fun n => s.drop n
  let sorted := ends.mergeSort fun a b => !decide (backwardSize.key b < backwardSize.key a)
  let tails := backwardSize.distinct sorted
  stateSize * (1 + tails) + 8 * sequences.length

/-- The bytes taken by the automaton that reads forwards and by the one that reads backwards. -/
structure Cost where
  forward : Nat
  backward : Nat

namespace Cost

def both (n : Nat) : Cost := ⟨n, n⟩

def add (a b : Cost) : Cost := ⟨a.forward + b.forward, a.backward + b.backward⟩

def times (n : Nat) (a : Cost) : Cost := ⟨n * a.forward, n * a.backward⟩

end Cost

def setCost (s : CharClass) : Cost :=
  match s.ranges with
  | [(lo, hi)] =>
    if hi < 128 then .both (if lo = hi then stateSize else 2 * stateSize)
    else if lo = hi then .both ((encode lo).length * stateSize)
    else spelled
  | ranges => if s.isAscii then .both (2 * stateSize + 8 * ranges.length) else spelled
where
  spelled : Cost := ⟨forwardSize (byteSequences s), backwardSize (byteSequences s)⟩

def forkSize : Nat := stateSize + 8

/-- The bytes an expression takes.  Groups are remembered only while reading forwards. -/
def cost : Regular → Cost
  | .empty => .both stateSize
  | .chars s => setCost s
  | .look _ => .both stateSize
  | .seq a b => (cost a).add (cost b)
  | .alt a b => ((cost a).add (cost b)).add (.both forkSize)
  | .group _ a => (cost a).add ⟨2 * stateSize, 0⟩
  | .iterate least most _ a =>
    match most with
    | some most =>
      ((Cost.times least (cost a)).add
        (Cost.times (most - least) ((cost a).add (.both forkSize)))).add (.both stateSize)
    | none => (Cost.times (max least 1) (cost a)).add (.both (2 * forkSize))

/-- How many sets and tests the expression has when its repetitions are written out. -/
def leaves : Regular → Nat
  | .empty => 0
  | .chars _ => 1
  | .look _ => 1
  | .seq a b => leaves a + leaves b
  | .alt a b => leaves a + leaves b + 1
  | .group _ a => leaves a + 1
  | .iterate least most _ a => (max least (most.getD 1)) * (leaves a + 1)

/-- Is the expression within its budget?  A few dozen leaves always are. -/
def admits (r : Regular) : Bool :=
  leaves r ≤ 64 || ((cost r).forward ≤ limit && (cost r).backward ≤ limit)

end Budget

end Blueprints
