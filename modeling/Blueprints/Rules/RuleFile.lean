import Blueprints.Rules.Directive

/-!
# Rules files

The lines above the first line `---` are directives, those below it are blueprints; without such a
line all lines are blueprints.  Blank lines and comments are dropped.  A comment above the line starts
with `#`; below it only `#` alone or followed by a space makes a comment, as blueprints may start
with that character.
-/

namespace Blueprints

/-- The contents of a rules file. -/
structure RuleFile where
  directives : List Directive := []
  blueprints : List Text := []
deriving Repr, DecidableEq

/-- What is wrong with a rules file, and on which line. -/
structure RuleError where
  line : Nat
  cause : DirectiveError
deriving Repr, DecidableEq

namespace RuleError

def message (e : RuleError) : Text :=
  .ofString "line " ++ .ofNat e.line ++ .ofString ": " ++
    match e.cause with
    | .notADirective => .ofString "expected 'key: value'"
    | .unknownKey key => .ofString "unknown directive " ++ BlueprintError.inQuotes key
    | .invalidValue key expected =>
      .ofString "invalid value for " ++ BlueprintError.inQuotes key ++ .ofString ", expected "
        ++ expected

end RuleError

namespace RuleFile

def isDivider (line : Text) : Bool := line.trim == ['-', '-', '-']

/-- Is a line above the divider without meaning? -/
def isHeaderComment (line : Text) : Bool :=
  match line.trimFront with
  | [] => true
  | c :: _ => c == '#'

/-- Is a line below the divider without meaning? -/
def isComment (line : Text) : Bool :=
  match line.trimFront with
  | [] => true
  | ['#'] => true
  | '#' :: ' ' :: _ => true
  | _ => false

/-- The lines above and below the divider; `none` when there is no divider. -/
def splitHeader? : List Text → Option (List Text × List Text)
  | [] => none
  | line :: more =>
    if isDivider line then some ([], more)
    else (splitHeader? more).map fun (header, body) => (line :: header, body)

/-- The directives on lines, the first of which has a number. -/
def readHeader : (number : Nat) → List Text → Except RuleError (List Directive)
  | _, [] => .ok []
  | number, line :: more =>
    if isHeaderComment line then readHeader (number + 1) more
    else
      match Directive.read line with
      | .error cause => .error ⟨number, cause⟩
      | .ok d => (readHeader (number + 1) more).map (d :: ·)

def readBody (lines : List Text) : List Text := lines.filter fun line => !isComment line

def read (content : Text) : Except RuleError RuleFile :=
  match splitHeader? content.lines with
  | none => .ok { blueprints := readBody content.lines }
  | some (header, body) => (readHeader 1 header).map fun ds => ⟨ds, readBody body⟩

def settings (f : RuleFile) : List Setting :=
  f.directives.flatMap Directive.settings ++ f.blueprints.map .blueprint

/-- The text of a file: a line for each directive, the divider, and a line for each blueprint. -/
def print (f : RuleFile) : Text :=
  (f.directives.map Directive.print ++ [['-', '-', '-']] ++ f.blueprints).flatMap (· ++ ['\n'])

end RuleFile

end Blueprints
