import Blueprints.Characters.CharClass

/-!
# Written tables

Tables of code points are written as strings.  A set is written as the distances between its
switching points, in hexadecimal and separated by blanks or line breaks.  A function on code points is written as
its runs: a code that starts with a capital, then how many code points share it (one when no number
is given); blanks and line breaks between runs mean nothing.
-/

namespace Blueprints

def hexDigitValue (c : Char) : Nat :=
  if c.isDigit then c.toNat - '0'.toNat else c.toNat - 'A'.toNat + 10

/-- The numbers written in a text, from the number read so far. -/
def readHexFrom : Option Nat → List Char → List Nat
  | none, [] => []
  | some n, [] => [n]
  | pending, c :: rest =>
    if c = ' ' ∨ c = '\n' then
      match pending with
      | some n => n :: readHexFrom none rest
      | none => readHexFrom none rest
    else readHexFrom (some (pending.getD 0 * 16 + hexDigitValue c)) rest

/-- Hexadecimal numbers separated by blanks. -/
def readHex (s : String) : List Nat := readHexFrom none s.toList

namespace CharClass

def sums : Nat → List Nat → List Nat
  | _, [] => []
  | total, gap :: gaps => (total + gap) :: sums (total + gap) gaps

/-- The set written as the distances between its switching points. -/
def ofGaps (s : String) : CharClass := ⟨(sums 0 (readHex s)).toArray⟩

def ofPoints (points : List Nat) : CharClass :=
  unions (points.map fun n => range n n)

end CharClass

namespace Characters

/-- A function on code points, as codes with the number of code points that have them. -/
structure Runs where
  /-- Codes and lengths, from code point zero on. -/
  entries : List (String × Nat)

namespace Runs

/-- One run: its code, and its length (one when no digits were read). -/
def entry (code digits : List Char) : String × Nat :=
  (String.ofList code.reverse,
    if digits.isEmpty then 1
    else digits.reverse.foldl (fun n d => n * 10 + (d.toNat - '0'.toNat)) 0)

/-- Reads runs; `code` and `digits` hold the run being read, last character first. -/
def read : (code digits : List Char) → List Char → List (String × Nat)
  | code, digits, [] => if code.isEmpty then [] else [entry code digits]
  | code, digits, c :: rest =>
    if c.isUpper then
      if code.isEmpty then read [c] [] rest else entry code digits :: read [c] [] rest
    else if c.isDigit then read code (c :: digits) rest
    else if c = ' ' ∨ c = '\n' then read code digits rest
    else read (c :: code) digits rest

def ofString (s : String) : Runs := ⟨read [] [] s.toList⟩

/-- Switching points of the code points whose code satisfies `p`, from a code point on and given
whether the one before it does. -/
def points (p : String → Bool) : Nat → Bool → List (String × Nat) → List Nat
  | here, inside, [] => if inside then [here] else []
  | here, inside, (code, length) :: rest =>
    if p code = inside then points p (here + length) inside rest
    else here :: points p (here + length) (!inside) rest

def select (p : String → Bool) (runs : Runs) : CharClass :=
  ⟨(points p 0 false runs.entries).toArray⟩

end Runs

end Characters

end Blueprints
