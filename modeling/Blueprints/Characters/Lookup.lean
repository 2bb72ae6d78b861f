import Blueprints.Characters.Property
import Blueprints.Characters.Script
import Blueprints.Characters.Folding

/-!
# Sets of characters by name

A set can be asked for by the name of a property, a category or a script, or as a property with a
value.  Names are compared without case, blanks, hyphens, underscores, characters outside ASCII and
a leading `is`.
-/

namespace Blueprints.Characters

/-- Drops what a comparison of names ignores, apart from a leading `is`. -/
def looseName (name : List Char) : List Char :=
  (name.filter fun c => c.toNat < 128 && c != ' ' && c != '_' && c != '-').map Char.toLower

/-- The normalised form of a name.  `isc` is a name of its own and keeps its `is`. -/
def normaliseName (name : List Char) : String :=
  match name with
  | i :: s :: rest =>
    if i.toLower = 'i' ∧ s.toLower = 's' then
      if looseName rest = ['c'] then "isc" else String.ofList (looseName rest)
    else String.ofList (looseName name)
  | _ => String.ofList (looseName name)

/-- The set with a single name: properties are looked up before categories and scripts, except for
three names that are both. -/
def named? (name : List Char) : Option CharClass :=
  let name := normaliseName name
  let byProperty := if name = "cf" ∨ name = "sc" ∨ name = "lc" then none else property? name
  match byProperty with
  | some set => some set
  | none =>
    match category? name with
    | some set => some set
    | none => (scriptCode? name).map ofScript

def valued? (property value : List Char) : Option CharClass :=
  let value := normaliseName value
  match normaliseName property with
  | "gc" | "generalcategory" => category? value
  | "sc" | "script" => (scriptCode? value).map ofScript
  | "scx" | "scriptextensions" => (scriptCode? value).map ofScriptExtensions
  | _ => none

/-- Characters of words: alphabetic characters, marks, digits, connectors and joiners. -/
def wordCharacter : CharClass :=
  .unions [alphabetic, mark, decimalNumber, ofCategories ["Pc"], joinControl]

def alphanumeric : CharClass := alphabetic.union number

end Blueprints.Characters
