import Blueprints.Report.Basic
import Blueprints.Rules.RuleFile
import Blueprints.Sources

/-!
# Options

What a command line asks for.  Settings of the command line are added to those of the rules file and
win over them; the blueprints of the rules file come first.
-/

namespace Blueprints

/-- What a command line asks for. -/
structure Options where
  inputs : List Text := []
  blueprints : List Text := []
  rules : Option Text := none
  /-- Values of the context, in the order in which they were given. -/
  context : List (Text × Text) := []
  skip : List Text := []
  contextKey : Option Text := none
  attachKey : Option Text := none
  delimiters : Option DelimiterChars := none
  failOnRemainder : Bool := false
  strict : Bool := false
  format : Format := .text
  matchesOnly : Bool := false
  sequential : Bool := false
  noColor : Bool := false
  verbosity : Nat := 0
deriving DecidableEq

/-- Why a command line that can be read fails. -/
inductive Failure
  | rulesNotRead (path cause : Text)
  | rulesRefused (path : Text) (e : RuleError)
  | source (e : SourceError)
  | blueprint (e : BlueprintError)
deriving DecidableEq

namespace Failure

def message : Failure → Text
  | rulesNotRead path _ => .ofString "Failed to read rules file " ++ BlueprintError.inQuotes path
  | rulesRefused path e =>
    .ofString "Failed to parse rules file " ++ BlueprintError.inQuotes path ++ [':', ' ']
      ++ e.message
  | source (.notOpened path _) =>
    .ofString "Failed to read input " ++ BlueprintError.inQuotes path
  | source (.notRead cause) => .ofString "IO error: " ++ cause
  | blueprint e => .ofString "Invalid blueprint: " ++ e.message

def cause : Failure → Text
  | rulesNotRead _ cause => cause
  | rulesRefused _ e => e.message
  | source (.notOpened _ cause) => cause
  | source (.notRead cause) => cause
  | blueprint e => e.message

/-- The failure followed by its cause, which its wording may have told already. -/
def explanation (f : Failure) : Text := f.message ++ [':', ' '] ++ f.cause

end Failure

namespace Options

def settings (o : Options) : List Setting :=
  o.blueprints.map .blueprint ++ o.skip.map .skip
    ++ (o.delimiters.map Directive.delimiters).toList.flatMap Directive.settings
    ++ (o.contextKey.map .contextKey).toList ++ (o.attachKey.map .attachKey).toList
    ++ (if o.failOnRemainder then [.failOnRemainder true] else [])
    ++ (if o.strict then [.strict true] else [])

def readRules (files : Files) (path : Text) : Except Failure RuleFile := do
  let content ← (((files.opening path).bind id).bind Sources.decode).mapError (.rulesNotRead path)
  (RuleFile.read content).mapError (.rulesRefused path)

def ruleSettings (o : Options) (files : Files) : Except Failure (List Setting) :=
  match o.rules with
  | none => .ok []
  | some path => (readRules files path).map RuleFile.settings

/-- All settings, those of the command line last. -/
def builder (o : Options) (files : Files) : Except Failure Builder :=
  (o.ruleSettings files).map fun rules => (({} : Builder).setAll rules).setAll o.settings

/-- The values of the context; of two values for one key the later counts. -/
def contextMap (o : Options) : Option Context :=
  if o.context.isEmpty then none else some (.ofList o.context)

end Options

end Blueprints
