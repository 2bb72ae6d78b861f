import Blueprints.Text.Basic
import Blueprints.Pattern.Automaton

/-!
# Pattern languages

Blueprints use patterns through three questions only: which pattern a text writes or why it writes
none, which text a pattern was read from, and where its first match lies in a text.  Everything about
blueprints is stated for any type that answers them.
-/

namespace Blueprints

class PatternLanguage (P : Type) where
  /-- The pattern written by a text, or what is said of a text that writes none. -/
  read : Text → Except Text P
  source : P → Text
  source_of_read : ∀ {t : Text} {p : P}, read t = .ok p → source p = t
  locate : P → Text → Option Span

namespace PatternLanguage

variable {P : Type} [PatternLanguage P]

def find (p : P) (t : Text) : Option Text :=
  (locate p t).map fun span => t.slice span.start span.stop

theorem find_infix {p : P} {t found : Text} (h : find p t = some found) : found <:+: t := by
  obtain ⟨span, -, rfl⟩ := Option.map_eq_some_iff.1 h
  exact Text.slice_infix t span.start span.stop

end PatternLanguage

end Blueprints
