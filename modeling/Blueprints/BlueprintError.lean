import Blueprints.Delimiters

/-!
# Errors of blueprints

The reasons for which a blueprint or a list of settings is refused.
-/

namespace Blueprints

/-- Why a blueprint does not compile. -/
inductive BlueprintError
  | emptyPlaceholder
  /-- A name that has to be given is empty. -/
  | emptyName
  /-- A separator follows the name, and nothing follows the separator. -/
  | emptyPattern (name : Text)
  | manySeparators (body : Text)
  /-- A placeholder that opens at a byte offset has no end. -/
  | notClosed (offset : Nat)
  | textAfterRest (name : Text)
  | clashingDelimiters (chars : DelimiterChars)
  | noBlueprint
  /-- Neither a pattern, for the reason in a message, nor admitted as a literal. -/
  | refusedPattern (pattern message : Text)
deriving Repr, DecidableEq

namespace BlueprintError

def inQuotes (t : Text) : Text := ['\''] ++ t ++ ['\'']

def message : BlueprintError → Text
  | emptyPlaceholder => .ofString "empty variable in blueprint, like $\x7b\x7b\x7d\x7d"
  | emptyName => .ofString "variable names and marker keys must not be empty"
  | emptyPattern name =>
    .ofString "variable " ++ inQuotes name ++ .ofString " has a separator but no regex"
  | manySeparators body =>
    .ofString "incorrect variable representation " ++ inQuotes body
      ++ .ofString ": expected name:regex with a single separator"
  | notClosed offset =>
    .ofString "variable opened at offset " ++ .ofNat offset ++ .ofString " is never closed"
  | textAfterRest name =>
    .ofString "trailing variable " ++ inQuotes name
      ++ .ofString " cannot be followed by more text"
  | clashingDelimiters c =>
    .ofString "delimiter characters must be pairwise distinct (start " ++ inQuotes [c.start]
      ++ .ofString ", prefix " ++ inQuotes [c.opening]
      ++ .ofString ", separator " ++ inQuotes [c.separator]
      ++ .ofString ", suffix " ++ inQuotes [c.closing] ++ [')']
  | noBlueprint => .ofString "no blueprint supplied"
  | refusedPattern pattern message =>
    .ofString "invalid regex pattern " ++ inQuotes pattern ++ [':', ' '] ++ message

end BlueprintError

end Blueprints
