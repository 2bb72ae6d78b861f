import Blueprints.Text.Basic

/-!
# Styled text

A report is made of pieces of text, some of which have a style.  On a terminal a style is switched on
by escape sequences and off again after the piece; elsewhere only the text remains.
-/

namespace Blueprints

/-- How a piece of text looks on a terminal. -/
inductive Style
  | bold
  | dimmed
  | red
  | green
  | cyan
deriving Repr, DecidableEq

structure Piece where
  text : Text
  style : Option Style := none
deriving Repr, DecidableEq

namespace Style

/-- The number that switches a style on. -/
def code : Style → Nat
  | bold => 1
  | dimmed => 2
  | red => 31
  | green => 32
  | cyan => 36

def sequence (n : Nat) : Text := ['\x1b', '['] ++ .ofNat n ++ ['m']

/-- The sequence that switches all styles off. -/
def reset : Text := sequence 0

/-- The sequences that switch to a style. -/
def switchOn (s : Style) : Text := reset ++ sequence s.code

end Style

namespace Piece

def plain (t : Text) : Piece := { text := t }

/-- The characters of a piece, with escape sequences if `color` holds. -/
def render (color : Bool) (p : Piece) : Text :=
  match color, p.style with
  | true, some s => s.switchOn ++ p.text ++ Style.reset
  | _, _ => p.text

def renderAll (color : Bool) (ps : List Piece) : Text := ps.flatMap (render color)

end Piece

end Blueprints
