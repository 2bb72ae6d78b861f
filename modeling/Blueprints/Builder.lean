import Blueprints.Extractor

/-!
# Builders

A builder collects settings one after another.  Nothing is checked before the end, so settings may
contradict each other on the way: of two values for one setting the later counts, skipped names and
blueprints add up.
-/

namespace Blueprints

inductive Setting
  | blueprint (text : Text)
  | blueprints (texts : List Text)
  | start (c : Char)
  | opening (c : Char)
  | separator (c : Char)
  | closing (c : Char)
  | skip (name : Text)
  | skipAll (names : List Text)
  | contextKey (key : Text)
  | attachKey (key : Text)
  | failOnRemainder (on : Bool)
  | strict (on : Bool)
deriving Repr, DecidableEq

/-- The settings collected so far. -/
structure Builder where
  blueprints : List Text := []
  chars : DelimiterChars := Delimiters.standard.chars
  skipped : NameSet := .empty
  contextKey : Option Text := none
  attachKey : Option Text := none
  failOnRemainder : Bool := false
  strict : Bool := false
deriving DecidableEq

instance : Inhabited Builder := ⟨{}⟩

namespace Builder

def set (b : Builder) : Setting → Builder
  | .blueprint t => { b with blueprints := b.blueprints ++ [t] }
  | .blueprints ts => { b with blueprints := b.blueprints ++ ts }
  | .start c => { b with chars.start := c }
  | .opening c => { b with chars.opening := c }
  | .separator c => { b with chars.separator := c }
  | .closing c => { b with chars.closing := c }
  | .skip name => { b with skipped := b.skipped.add name }
  | .skipAll names => { b with skipped := names.foldl NameSet.add b.skipped }
  | .contextKey key => { b with contextKey := some key }
  | .attachKey key => { b with attachKey := some key }
  | .failOnRemainder on => { b with failOnRemainder := on }
  | .strict on => { b with strict := on }

def setAll (b : Builder) (settings : List Setting) : Builder := settings.foldl set b

theorem setAll_append (b : Builder) (l l' : List Setting) :
    b.setAll (l ++ l') = (b.setAll l).setAll l' := List.foldl_append

/-- The configuration, if the delimiters differ and no name is empty. -/
def config? (b : Builder) : Except BlueprintError Config :=
  match Delimiters.ofChars? b.chars with
  | none => .error (.clashingDelimiters b.chars)
  | some delimiters =>
    if b.contextKey = some [] ∨ b.attachKey = some [] ∨ b.skipped.contains [] then
      .error .emptyName
    else .ok {
      delimiters := delimiters
      failOnRemainder := b.failOnRemainder
      skipped := b.skipped
      contextKey := b.contextKey
      attachKey := b.attachKey
      strict := b.strict }

def build {P : Type} [PatternLanguage P] (b : Builder) : Noted (Extractor P) :=
  match b.config? with
  | .error e => .fail e
  | .ok cfg => Extractor.compile cfg b.blueprints

end Builder

end Blueprints
