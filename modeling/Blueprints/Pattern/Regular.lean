import Blueprints.Characters.CharClass

/-!
# Regular expressions

The expressions that the lockstep search runs: character sets, tests of the place, sequences,
ordered choices, counted repetitions and numbered groups.  The constructors are used through
`Regular.sequence`, `Regular.choice` and `Regular.repeated`, which keep expressions in a flat form.
-/

namespace Blueprints

/-- A test of the place between two characters; it consumes nothing. -/
inductive Look
  | textStart
  | textEnd
  | lineStart
  | lineEnd
  | lineStartCrlf
  | lineEndCrlf
  | wordBoundary (unicode : Bool)
  | notWordBoundary (unicode : Bool)
  | wordStart (unicode : Bool)
  | wordEnd (unicode : Bool)
  | wordStartHalf (unicode : Bool)
  | wordEndHalf (unicode : Bool)
deriving Repr, DecidableEq

inductive Regular
  | empty
  | chars (set : CharClass)
  | look (test : Look)
  | seq (first second : Regular)
  | alt (first second : Regular)
  | group (index : Nat) (body : Regular)
  | iterate (least : Nat) (most : Option Nat) (greedy : Bool) (body : Regular)
deriving Repr, DecidableEq

namespace Regular

def nullable : Regular → Bool
  | empty => true
  | chars _ => false
  | look _ => true
  | seq a b => a.nullable && b.nullable
  | alt a b => a.nullable || b.nullable
  | group _ a => a.nullable
  | iterate least _ _ a => least == 0 || a.nullable

def consumesNothing : Regular → Bool
  | empty => true
  | chars _ => false
  | look _ => true
  | seq a b => a.consumesNothing && b.consumesNothing
  | alt a b => a.consumesNothing && b.consumesNothing
  | group _ a => a.consumesNothing
  | iterate _ most _ a => most == some 0 || a.consumesNothing

/-- The parts of a sequence, without empty ones. -/
def parts : Regular → List Regular
  | seq a b => a.parts ++ b.parts
  | empty => []
  | r => [r]

def branches : Regular → List Regular
  | alt a b => a.branches ++ b.branches
  | r => [r]

/-- A sequence of parts that are no sequences themselves. -/
def ofParts : List Regular → Regular
  | [] => empty
  | [r] => r
  | r :: more => seq r (ofParts more)

def sequence (rs : List Regular) : Regular := ofParts (rs.flatMap parts)

/-- A choice between branches that are no choices themselves; there is at least one. -/
def ofBranches : List Regular → Regular
  | [] => empty
  | [r] => r
  | r :: more => alt r (ofBranches more)

/-- The sets of branches that are all single characters. -/
def charSets? (rs : List Regular) : Option (List CharClass) :=
  rs.mapM fun r => match r with
    | chars set => some set
    | _ => none

def commonStart : List Regular → List Regular → List Regular
  | a :: as, b :: bs => if a = b then a :: commonStart as bs else []
  | _, _ => []

/-- What all branches begin with; nothing unless each branch has at least two parts. -/
def sharedStart : List (List Regular) → List Regular
  | [] => []
  | ps :: more =>
    if ps.length < 2 || more.any (·.length < 2) then [] else more.foldl commonStart ps

/-- An ordered choice.  Branches that are all single characters become one set, and what all
branches begin with is taken out in front, the rests being chosen between.  `depth` bounds how often
the rests are factored again. -/
def choiceWithin : (depth : Nat) → List Regular → Regular
  | 0, rs => ofBranches (rs.flatMap branches)
  | depth + 1, rs =>
    let rs := rs.flatMap branches
    match rs with
    | [r] => r
    | rs =>
      match charSets? rs with
      | some sets => chars (.unions sets)
      | none =>
        let split := rs.map parts
        match sharedStart split with
        | [] => ofBranches rs
        | start =>
          let rests := split.map fun ps => ofParts (ps.drop start.length)
          ofParts (start ++ (choiceWithin depth rests).parts)

/-- An ordered choice: an earlier branch is preferred. -/
def choice (rs : List Regular) : Regular := choiceWithin (rs.length + 8) rs

/-- A counted repetition.  Repeating what consumes nothing more than once changes nothing. -/
def repeated (least : Nat) (most : Option Nat) (greedy : Bool) (body : Regular) : Regular :=
  let (least, most) :=
    if body.consumesNothing then (min least 1, some ((most.map (min · 1)).getD 1))
    else (least, most)
  if most = some 0 then empty
  else if least = 1 ∧ most = some 1 then body
  else iterate least most greedy body

end Regular

end Blueprints
