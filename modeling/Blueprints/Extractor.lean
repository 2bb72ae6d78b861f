import Blueprints.Extraction

/-!
# Extractors

An extractor is one blueprint or several; of several the first one that matches gives the result.
-/

namespace Blueprints

/-- A blueprint that missed, by its text, and why. -/
structure Refusal where
  blueprint : Text
  miss : Miss
deriving Repr, DecidableEq

/-- What came of a source: the blueprints that missed before the first match, and the match. -/
structure Attempt where
  refusals : List Refusal
  result : Option Extraction
deriving DecidableEq

/-- One blueprint, or several in order. -/
inductive Extractor (P : Type)
  | single (blueprint : Blueprint P)
  | bulk (blueprints : List (Blueprint P))

namespace Extractor

variable {P : Type}

def blueprints : Extractor P → List (Blueprint P)
  | single b => [b]
  | bulk bs => bs

variable [PatternLanguage P]

/-- Compiles texts, up to the first that fails. -/
def compileAll (cfg : Config) : List Text → Noted (List (Blueprint P))
  | [] => pure []
  | t :: more => do
    let b ← Blueprint.compile cfg t
    let bs ← compileAll cfg more
    pure (b :: bs)

/-- The extractor of a list of texts, which must not be empty. -/
def compile (cfg : Config) : List Text → Noted (Extractor P)
  | [] => .fail .noBlueprint
  | [t] => do pure (.single (← Blueprint.compile cfg t))
  | ts => do pure (.bulk (← compileAll cfg ts))

def attemptAll (context : Option Context) (source : Text) : List (Blueprint P) → Attempt
  | [] => ⟨[], none⟩
  | b :: more =>
    match b.extract context source with
    | .ok e => ⟨[], some e⟩
    | .error miss =>
      let later := attemptAll context source more
      ⟨⟨b.text, miss⟩ :: later.refusals, later.result⟩

def attempt (x : Extractor P) (context : Option Context) (source : Text) : Attempt :=
  attemptAll context source x.blueprints

def extract (x : Extractor P) (context : Option Context) (source : Text) : Option Extraction :=
  (x.attempt context source).result

end Extractor

end Blueprints
