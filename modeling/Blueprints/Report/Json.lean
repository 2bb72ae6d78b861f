import Blueprints.NameMap

/-!
# JSON lines

Only what a report needs of JSON: strings, the word `true`, and objects, whose fields are written in
the order of their names.  Inside a string only quotes, backslashes and control characters are
escaped, so no newline is ever written as such.
-/

namespace Blueprints

inductive Json
  | string (t : Text)
  | yes
  | object (fields : List (Text × Json))

namespace Json

/-- A control character without a short escape: four hexadecimal digits. -/
def longEscape (c : Char) : Text :=
  Text.ofString "\\u00" ++ [Nat.digitChar (c.toNat / 16), Nat.digitChar (c.toNat % 16)]

def escapeChar (c : Char) : Text :=
  if c = '"' then ['\\', '"']
  else if c = '\\' then ['\\', '\\']
  else if c = '\x08' then ['\\', 'b']
  else if c = '\x0c' then ['\\', 'f']
  else if c = '\n' then ['\\', 'n']
  else if c = '\r' then ['\\', 'r']
  else if c = '\t' then ['\\', 't']
  else if c.toNat < 32 then longEscape c
  else [c]

def quote (t : Text) : Text := ['"'] ++ t.flatMap escapeChar ++ ['"']

mutual

/-- The text of a value, without blanks. -/
def print : Json → Text
  | string t => quote t
  | yes => .ofString "true"
  | object fields => ['\x7b'] ++ printFields fields ++ ['\x7d']

def printFields : List (Text × Json) → Text
  | [] => []
  | [(name, value)] => quote name ++ [':'] ++ print value
  | (name, value) :: more => quote name ++ [':'] ++ print value ++ [','] ++ printFields more

end

def ofNames (m : NameMap Text) : Json := .object (m.entries.map fun e => (e.1, .string e.2))

end Json

end Blueprints
