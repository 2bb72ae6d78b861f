import Blueprints.Text.Basic
import Blueprints.Pattern.Regular

/-!
# Extended expressions

Expressions with look-around, back references, atomic groups and conditions.  Parts without any of
these are *plain*: they are spelled in the form that `Regular.read?` reads and searched in lockstep;
the other parts are *hard* and need backtracking.
-/

namespace Blueprints

/-- Which way a look-around looks, and whether it asks for a match or for none. -/
inductive LookAround
  | ahead
  | notAhead
  | behind
  | notBehind
deriving Repr, DecidableEq

namespace LookAround

def looksBehind : LookAround → Bool
  | behind | notBehind => true
  | ahead | notAhead => false

def positive : LookAround → Bool
  | ahead | behind => true
  | notAhead | notBehind => false

end LookAround

inductive Extended
  | empty
  /-- Any character; a line break only if `newline` holds. -/
  | any (newline : Bool)
  | literal (c : Char) (anyCase : Bool)
  | place (test : Look)
  | sequence (parts : List Extended)
  | choice (branches : List Extended)
  | group (index : Nat) (body : Extended)
  | lookAround (kind : LookAround) (body : Extended)
  | iterate (least : Nat) (most : Option Nat) (greedy : Bool) (body : Extended)
  /-- One character of a set, given in the spelling of regular expressions. -/
  | set (spelling : Text) (anyCase : Bool)
  | backReference (group : Nat)
  /-- A group that gives no match back once it has matched. -/
  | atomic (body : Extended)
  /-- Moves the start of the whole match to the place. -/
  | keepOut
  /-- Holds at the place where the search started. -/
  | searchStart
  /-- Holds if a group has matched. -/
  | groupMatched (group : Nat)
  | condition (test yes no : Extended)
deriving Inhabited

namespace Extended

/-- Is it the expression that was not written at all? -/
def isEmpty : Extended → Bool
  | empty => true
  | _ => false

def isRepeatable : Extended → Bool
  | empty | place _ | lookAround _ _ => false
  | _ => true

mutual

/-- The least number of characters of a match. -/
def minSize : Extended → Nat
  | any _ | literal _ _ | set _ _ => 1
  | sequence es => sumMinSize es
  | choice es => leastMinSize es
  | group _ e | atomic e => minSize e
  | iterate least _ _ e => minSize e * least
  | condition test yes no => minSize test + min (minSize yes) (minSize no)
  | _ => 0

def sumMinSize : List Extended → Nat
  | [] => 0
  | e :: es => minSize e + sumMinSize es

def leastMinSize : List Extended → Nat
  | [] => 0
  | [e] => minSize e
  | e :: es => min (minSize e) (leastMinSize es)

end

mutual

/-- Is every match known to have `minSize` characters? -/
def fixedSize : Extended → Bool
  | empty | place _ | any _ | literal _ _ | set _ _ | lookAround _ _ => true
  | keepOut | searchStart | groupMatched _ => true
  | backReference _ => false
  | sequence es => allFixedSize es
  | choice es => sameFixedSize es
  | group _ e | atomic e => fixedSize e
  | iterate least most _ e => fixedSize e && some least == most
  | condition test yes no =>
    fixedSize test && fixedSize yes && fixedSize no && minSize test + minSize yes == minSize no

def allFixedSize : List Extended → Bool
  | [] => true
  | e :: es => fixedSize e && allFixedSize es

def sameFixedSize : List Extended → Bool
  | [] => true
  | [e] => fixedSize e
  | e :: f :: es => fixedSize e && minSize e == minSize f && sameFixedSize (f :: es)

end

/-- Does a test of the place need the character on either side? -/
def isWordTest : Look → Bool
  | .wordBoundary _ | .notWordBoundary _ | .wordStart _ | .wordEnd _ => true
  | _ => false

mutual

/-- Does the expression need backtracking?  `referenced` holds the groups that a back reference
names: their matches have to be given back. -/
def isHard (referenced : List Nat) : Extended → Bool
  | empty | any _ | literal _ _ | set _ _ => false
  | place test => isWordTest test
  | sequence es | choice es => anyHard referenced es
  | group index e => isHard referenced e || referenced.contains index
  | iterate _ _ _ e => isHard referenced e
  | lookAround _ _ | backReference _ | atomic _ | keepOut | searchStart | groupMatched _ => true
  | condition _ _ _ => true

def anyHard (referenced : List Nat) : List Extended → Bool
  | [] => false
  | e :: es => isHard referenced e || anyHard referenced es

end

mutual

/-- The characters of an expression that is made of literals only. -/
def literals? : Extended → Option Text
  | literal c anyCase => if anyCase then none else some [c]
  | sequence es => literalsOf? es
  | _ => none

def literalsOf? : List Extended → Option Text
  | [] => some []
  | e :: es => do some ((← literals? e) ++ (← literalsOf? es))

end

mutual

/-- The groups of an expression, in the order in which they open. -/
def groups : Extended → List Nat
  | sequence es | choice es => groupsOf es
  | group index e => index :: groups e
  | lookAround _ e | iterate _ _ _ e | atomic e => groups e
  | condition test yes no => groups test ++ groups yes ++ groups no
  | _ => []

def groupsOf : List Extended → List Nat
  | [] => []
  | e :: es => groups e ++ groupsOf es

end

/-! ### Spelling of plain expressions -/

def quoted (c : Char) : Text :=
  if ['\\', '.', '+', '*', '?', '(', ')', '|', '[', ']', '\x7b', '\x7d', '^', '$', '#'].contains c
  then ['\\', c] else [c]

/-- Puts a text into a group that ignores case, if asked to. -/
def ignoringCase (anyCase : Bool) (t : Text) : Text :=
  if anyCase then Text.ofString "(?i:" ++ t ++ [')'] else t

def grouped (on : Bool) (t : Text) : Text :=
  if on then Text.ofString "(?:" ++ t ++ [')'] else t

def bounds (least : Nat) (most : Option Nat) : Text :=
  match least, most with
  | 0, some 1 => ['?']
  | 0, none => ['*']
  | 1, none => ['+']
  | least, none => ['\x7b'] ++ Text.ofNat least ++ [',', '\x7d']
  | least, some most =>
    if least = most then ['\x7b'] ++ Text.ofNat least ++ ['\x7d']
    else ['\x7b'] ++ Text.ofNat least ++ [','] ++ Text.ofNat most ++ ['\x7d']

def spellLook : Look → Text
  | .textStart => ['^']
  | .textEnd => ['$']
  | .lineStart => Text.ofString "(?m:^)"
  | .lineEnd => Text.ofString "(?m:$)"
  | _ => []

mutual

/-- The spelling of a plain expression.  `binding` is 0 where a choice may stand, 1 where a sequence
may, 2 where a repetition may, and 3 where only a single element may. -/
def spell (binding : Nat) : Extended → Text
  | any newline => if newline then Text.ofString "(?s:.)" else ['.']
  | literal c anyCase => ignoringCase anyCase (quoted c)
  | place test => spellLook test
  | sequence es => grouped (binding > 1) (spellParts es)
  | choice es => grouped (binding > 0) (spellBranches es)
  | group _ e => ['('] ++ spell 0 e ++ [')']
  | iterate least most greedy e =>
    grouped (binding > 2) (spell 3 e ++ bounds least most ++ (if greedy then [] else ['?']))
  | set spelling anyCase => ignoringCase anyCase spelling
  | _ => []

def spellParts : List Extended → Text
  | [] => []
  | e :: es => spell 2 e ++ spellParts es

def spellBranches : List Extended → Text
  | [] => []
  | [e] => spell 1 e
  | e :: es => spell 1 e ++ ['|'] ++ spellBranches es

end

end Extended

end Blueprints
