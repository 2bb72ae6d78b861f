import Blueprints.Blueprint

/-!
# Extraction

A source is drained through the components of a blueprint.  Each component takes something off the
front of what is left or leaves it as it is; the first one that cannot ends the extraction.  A match
of a pattern takes as many characters as it has off the front, wherever it was found.
-/

namespace Blueprints

abbrev Context := NameMap Text

structure Extraction where
  /-- The source without what was captured or thrown away, and with what was inserted. -/
  extracted : Text
  captures : NameMap Text
deriving DecidableEq

/-- Why a source does not match. -/
inductive Miss
  /-- A component, given by its position, could not go on with what was left. -/
  | stuck (component : Nat) (drain : Text)
  /-- All components were satisfied, but something was left over. -/
  | leftover (drain : Text)
deriving Repr, DecidableEq

/-- What is left of the source, and the results so far. -/
structure Progress where
  drain : Text
  extracted : Text := []
  captures : NameMap Text := .empty
deriving DecidableEq

namespace Progress

def emit (p : Progress) (value : Text) : Progress := { p with extracted := p.extracted ++ value }

/-- Records a value under a name: it is captured, or written if the name is skipped. -/
def record (cfg : Config) (p : Progress) (name : Text) (value : Text) : Progress :=
  if cfg.skipped.contains name then p.emit value
  else { p with captures := p.captures.insert name value }

end Progress

/-- A visit works on the progress in place.  It can fail, and leaves the progress as it is then. -/
abbrev Visit := OptionT (StateM Progress)

namespace Visit

/-- What a visit yields, and the progress it leaves. -/
def on {α : Type} (x : Visit α) (p : Progress) : Option α × Progress := (x.run.run p).run

def drain : Visit Text := do return (← get).drain

/-- Takes a text off the front of the drain. -/
def strip (lead : Text) : Visit Unit := do
  match Text.after? lead (← drain) with
  | none => failure
  | some rest => modify fun p => { p with drain := rest }

def consumeChars (count : Nat) : Visit Unit :=
  modify fun p => { p with drain := p.drain.drop count }

def takeRest : Visit Text := modifyGet fun p => (p.drain, { p with drain := [] })

def emit (value : Text) : Visit Unit := modify (·.emit value)

def record (cfg : Config) (name value : Text) : Visit Unit := modify (·.record cfg name value)

end Visit

variable {P : Type} [PatternLanguage P]

/-- Takes what a matcher matches off the drain, and yields the value. -/
def Matcher.visit (m : Matcher P) : Visit Text :=
  match m with
  | .pattern p => do
    match PatternLanguage.find p (← Visit.drain) with
    | none => failure
    | some found =>
      Visit.consumeChars found.length
      return found
  | .literal t => do
    Visit.strip t
    return t

def Placeholder.visit (cfg : Config) (context : Option Context) : Placeholder P → Visit Unit
  | .matched name m => do
    let value ← m.visit
    match name with
    | some name => Visit.record cfg name value
    | none => pure ()
  | .rest name => do
    if (← Visit.drain).isEmpty then failure
    else Visit.record cfg name (← Visit.takeRest)
  | .context key =>
    match context.bind (·.get? key) with
    | some value => Visit.emit value
    | none => pure ()
  | .attach value => Visit.emit value

def Component.visit (cfg : Config) (context : Option Context) : Component P → Visit Unit
  | .literal t => do
    Visit.strip t
    Visit.emit t
  | .placeholder spec => spec.visit cfg context

/-- Satisfies components, the first of which has a position.  One that fails ends the extraction with
the drain it leaves. -/
def Component.visitAll (cfg : Config) (context : Option Context) :
    (position : Nat) → List (Component P) → Progress → Except Miss Progress
  | _, [], p => .ok p
  | position, c :: more, p =>
    match (c.visit cfg context).on p with
    | (none, p) => .error (.stuck position p.drain)
    | (some (), p) => visitAll cfg context (position + 1) more p

namespace Blueprint

def extract (b : Blueprint P) (context : Option Context) (source : Text) :
    Except Miss Extraction :=
  match Component.visitAll b.config context 0 b.components { drain := source } with
  | .error miss => .error miss
  | .ok p =>
    if b.config.failOnRemainder && !p.drain.isEmpty then .error (.leftover p.drain)
    else .ok ⟨p.extracted ++ p.drain, p.captures⟩

end Blueprint

end Blueprints
