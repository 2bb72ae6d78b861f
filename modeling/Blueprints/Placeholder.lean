import Blueprints.Config
import Blueprints.Noted
import Blueprints.Pattern.Language

/-!
# Placeholders

The body of a placeholder says what it stands for: a separator divides it into a name and a pattern
or key.  A text of ASCII letters and digits is matched as it is; any other is a pattern, or, if it is
none, matched as it is too unless the configuration is strict.
-/

namespace Blueprints

inductive Matcher (P : Type)
  | pattern (p : P)
  | literal (text : Text)
deriving DecidableEq

/-- What a placeholder stands for. -/
inductive Placeholder (P : Type)
  /-- A match; without a name it is thrown away. -/
  | matched (name : Option Text) (matcher : Matcher P)
  /-- Everything that is left, which must not be nothing. -/
  | rest (name : Text)
  | context (key : Text)
  | attach (value : Text)
deriving DecidableEq

namespace Matcher

def map {P Q : Type} (f : P → Q) : Matcher P → Matcher Q
  | pattern p => pattern (f p)
  | literal t => literal t

end Matcher

namespace Placeholder

def name? {P : Type} : Placeholder P → Option Text
  | matched name _ => name
  | rest name => some name
  | context _ | attach _ => none

def isRest {P : Type} : Placeholder P → Bool
  | rest _ => true
  | _ => false

def restName? {P : Type} : Placeholder P → Option Text
  | rest name => some name
  | _ => none

theorem restName?_eq_some_iff {P : Type} {spec : Placeholder P} {name : Text} :
    spec.restName? = some name ↔ spec = rest name := by
  cases spec <;> simp [restName?]

def map {P Q : Type} (f : P → Q) : Placeholder P → Placeholder Q
  | matched name m => matched name (m.map f)
  | rest name => rest name
  | context key => context key
  | attach value => attach value

variable {P : Type} [PatternLanguage P]

/-- The placeholder with the texts of its patterns. -/
def source (spec : Placeholder P) : Placeholder Text := spec.map PatternLanguage.source

/-- Do two placeholders stand for the same?  Patterns are compared by their texts. -/
def same (a b : Placeholder P) : Bool := a.source == b.source

def isPlain (t : Text) : Bool := t.all Char.isAlphanum

/-- What the part after the separator matches. -/
def matcher (cfg : Config) (t : Text) : Noted (Matcher P) :=
  if isPlain t then pure (.literal t)
  else
    match PatternLanguage.read t with
    | .ok p => pure (.pattern p)
    | .error message =>
      if cfg.strict then .fail (.refusedPattern t message)
      else do
        Noted.note (.matchedLiterally t message)
        pure (.literal t)

def classify (cfg : Config) (body : Text) : Noted (Placeholder P) :=
  match body with
  | [] => .fail .emptyPlaceholder
  | body =>
    match body.splitOn cfg.delimiters.separator with
    | [name] => pure (.rest name)
    | [[], []] => .fail .emptyPlaceholder
    | [name, []] => if cfg.strict then .fail (.emptyPattern name) else pure (.rest name)
    | [[], t] => do pure (.matched none (← matcher cfg t))
    | [name, t] =>
      if cfg.contextKey = some name then pure (.context t)
      else if cfg.attachKey = some name then pure (.attach t)
      else do pure (.matched (some name) (← matcher cfg t))
    | _ => .fail (.manySeparators body)

end Placeholder

end Blueprints
