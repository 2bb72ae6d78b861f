import Blueprints.Delimiters
import Blueprints.NameMap

/-!
# Configurations

What a blueprint is compiled and used with, besides its text.
-/

namespace Blueprints

/-- The settings of a blueprint. -/
structure Config where
  delimiters : Delimiters := .standard
  /-- Does a rest of the source that no component consumed make it a miss? -/
  failOnRemainder : Bool := false
  /-- Names whose values stay in the extracted text instead of being captured. -/
  skipped : NameSet := .empty
  /-- The name that marks placeholders for values of the context. -/
  contextKey : Option Text := none
  /-- The name that marks placeholders for fixed values. -/
  attachKey : Option Text := none
  /-- Are empty and refused patterns errors? -/
  strict : Bool := false
deriving DecidableEq

instance : Inhabited Config := ⟨{}⟩

end Blueprints
