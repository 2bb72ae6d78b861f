import Blueprints.Text.Basic
import Blueprints.Characters.Property

/-!
# Quoted texts

Log entries show texts between double quotes, with escapes for quotes, backslashes and characters
that cannot be seen.
-/

namespace Blueprints.Text

open Characters in
/-- Characters that are written by their code: control, format, private and unassigned characters,
separators, and marks that join the character before them.  The blank is shown as it is. -/
def hiddenCharacter : CharClass :=
  ((ofCategories ["Cc", "Cf", "Cs", "Co", "Cn", "Zl", "Zp", "Zs"]).union graphemeExtend).diff
    (.single ' ')

def quotedChar (c : Char) : Text :=
  if c = '\x00' then ofString "\\0"
  else if c = '\t' then ofString "\\t"
  else if c = '\n' then ofString "\\n"
  else if c = '\r' then ofString "\\r"
  else if c = '"' ∨ c = '\\' then ['\\', c]
  else if 32 ≤ c.toNat ∧ c.toNat < 127 then [c]
  else if hiddenCharacter.has c then
    ofString "\\u\x7b" ++ Nat.toDigits 16 c.toNat ++ ofString "\x7d"
  else [c]

def quoted (t : Text) : Text := ['"'] ++ t.flatMap quotedChar ++ ['"']

end Blueprints.Text
