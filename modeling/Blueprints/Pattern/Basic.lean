import Blueprints.Text.Quoted
import Blueprints.Pattern.Backtracking
import Blueprints.Pattern.Language

/-!
# Patterns

A text is read as a regular expression first.  If it is none, or one that exceeds its budget, it is
read as an extended expression; the plain ones among these are searched in lockstep as well.
-/

namespace Blueprints

inductive PatternKind
  | regular
  | extended
deriving Repr, DecidableEq

inductive PatternSearch
  | lockstep (automaton : Automaton)
  | backtracking (machine : Backtracking.Machine)

structure Pattern where
  text : Text
  kind : PatternKind
  search : PatternSearch

namespace Pattern

/-- What is said of a text that is no regular expression.  Only the heading is given: where the text
goes wrong, which is told below it, is the engine's own account. -/
def unreadable : Text := .ofString "regex parse error:"

def tooLarge : Text :=
  .ofString "Compiled regex exceeds size limit of " ++ .ofNat Budget.limit ++ .ofString " bytes."

/-- The automaton of a regular expression within its budget. -/
def lockstep (t : Text) : Except Text Automaton :=
  match Regular.read? t with
  | none => .error unreadable
  | some r => if Budget.admits r then .ok (Automaton.ofRegular false r) else .error tooLarge

def extendedSearch? (t : Text) : Option PatternSearch := do
  let e ← Extended.read? t
  if e.body.isHard e.referenced then
    (Backtracking.Machine.ofExtended? e).map .backtracking
  else (lockstep (e.body.spell 0)).toOption.map .lockstep

/-- The pattern written by a text.  What is said of a text that writes none is why it is no regular
expression. -/
def read (t : Text) : Except Text Pattern :=
  match lockstep t with
  | .ok automaton => .ok ⟨t, .regular, .lockstep automaton⟩
  | .error message =>
    match extendedSearch? t with
    | some search => .ok ⟨t, .extended, search⟩
    | none => .error message

theorem text_of_read {t : Text} {p : Pattern} (h : read t = .ok p) : p.text = t := by
  unfold read at h
  split at h
  · cases h
    rfl
  · split at h
    · cases h
      rfl
    · cases h

def locate (p : Pattern) (t : Text) : Option Span :=
  match p.search with
  | .lockstep automaton => (automaton.search t.toArray 0).map (·.span)
  | .backtracking machine => machine.search t.toArray

instance : PatternLanguage Pattern where
  read := read
  source := text
  source_of_read := text_of_read
  locate := locate

/-- The kind and the text of a pattern, as shown to developers. -/
def debug (p : Pattern) : Text :=
  let kind := match p.kind with
    | .regular => "Basic("
    | .extended => "Fancy("
  Text.ofString kind ++ p.text.quoted ++ [')']

end Pattern

end Blueprints
