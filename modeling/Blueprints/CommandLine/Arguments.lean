import Blueprints.CommandLine.Options

/-!
# Reading command lines

A word that starts with a hyphen names an argument, in one long word or as letters that may be
written together.  The value of an argument follows an equals sign or is the next word; it is checked
only when the argument after it has been recognised, so that an unknown argument is reported before
a value in front of it that is refused.
-/

namespace Blueprints

/-- Why a command line is refused, or what it asks for instead of a run. -/
inductive UsageError
  /-- A value is missing, empty or not among those possible. -/
  | invalidValue
  | unknownArgument
  /-- A value has not the form it should have. -/
  | refusedValue (detail : Text)
  | conflict
  | unexpectedValue
  | help
  | version
deriving Repr, DecidableEq

namespace UsageError

def exitCode : UsageError → Nat
  | help | version => 0
  | _ => 2

end UsageError

inductive Argument
  | inputs
  | blueprint
  | rules
  | context
  | skip
  | contextKey
  | attachKey
  | delimiters
  | failOnRemainder
  | strict
  | format
  | matchesOnly
  | sequential
  | noColor
  | verbose
  | help
  | version
deriving Repr, DecidableEq

namespace Argument

def ofName? (name : Text) : Option Argument :=
  match String.ofList name with
  | "blueprint" => some blueprint
  | "rules" => some rules
  | "context" => some context
  | "skip" => some skip
  | "context-key" => some contextKey
  | "attach-key" => some attachKey
  | "delimiters" => some delimiters
  | "fail-on-remainder" => some failOnRemainder
  | "strict" => some strict
  | "format" => some format
  | "matches-only" => some matchesOnly
  | "sequential" => some sequential
  | "no-color" => some noColor
  | "verbose" => some verbose
  | "help" => some help
  | "version" => some version
  | _ => none

def ofLetter? : Char → Option Argument
  | 'b' => some blueprint
  | 'r' => some rules
  | 'c' => some context
  | 's' => some skip
  | 'f' => some format
  | 'm' => some matchesOnly
  | 'v' => some verbose
  | 'h' => some help
  | 'V' => some version
  | _ => none

def takesValue : Argument → Bool
  | inputs | blueprint | rules | context | skip | contextKey | attachKey | delimiters | format => true
  | _ => false

def repeatable : Argument → Bool
  | inputs | blueprint | context | skip | verbose => true
  | _ => false

/-- A key and a value, divided by the first equals sign. -/
def readPair (t : Text) : Except UsageError (Text × Text) :=
  match Text.cut? '=' t with
  | none => .error (.refusedValue (.ofString "expected KEY=VALUE, got " ++ BlueprintError.inQuotes t))
  | some (key, value) =>
    if key.isEmpty then
      .error (.refusedValue (.ofString "empty key in " ++ BlueprintError.inQuotes t))
    else .ok (key, value)

def readChars (t : Text) : Except UsageError DelimiterChars :=
  match DelimiterChars.ofText? t with
  | some c => .ok c
  | none => .error (.refusedValue (.ofString "expected 4 characters, got " ++ .ofNat t.length))

def readFormat (t : Text) : Except UsageError Format :=
  match String.ofList t with
  | "text" => .ok .text
  | "json" => .ok .json
  | _ => .error .invalidValue

/-- A path, which must not be empty. -/
def readPath (t : Text) : Except UsageError Text := if t.isEmpty then .error .invalidValue else .ok t

def giveValue (o : Options) (value : Text) : Argument → Except UsageError Options
  | inputs => do .ok { o with inputs := o.inputs ++ [← readPath value] }
  | blueprint => .ok { o with blueprints := o.blueprints ++ [value] }
  | rules => do .ok { o with rules := some (← readPath value) }
  | context => do .ok { o with context := o.context ++ [← readPair value] }
  | skip => .ok { o with skip := o.skip ++ [value] }
  | contextKey => .ok { o with contextKey := some value }
  | attachKey => .ok { o with attachKey := some value }
  | delimiters => do .ok { o with delimiters := some (← readChars value) }
  | format => do .ok { o with format := ← readFormat value }
  | _ => .ok o

/-- The greatest number of requests for more detail that is counted. -/
def greatestVerbosity : Nat := 255

def switchOn (o : Options) : Argument → Except UsageError Options
  | failOnRemainder => .ok { o with failOnRemainder := true }
  | strict => .ok { o with strict := true }
  | matchesOnly => .ok { o with matchesOnly := true }
  | sequential => .ok { o with sequential := true }
  | noColor => .ok { o with noColor := true }
  | verbose => .ok { o with verbosity := min (o.verbosity + 1) greatestVerbosity }
  | help => .error .help
  | version => .error .version
  | _ => .ok o

end Argument

/-- What has been read of a command line. -/
structure ArgumentReader where
  options : Options := {}
  given : List Argument := []
  /-- The last argument with its values, as long as they have not been checked. -/
  pending : Option (Argument × List Text) := none
  /-- Is the next word the value of the pending argument? -/
  awaiting : Bool := false
  onlyInputs : Bool := false

namespace ArgumentReader

def accept (r : ArgumentReader) (a : Argument) (values : List Text) :
    Except UsageError ArgumentReader := do
  if a.takesValue && values.isEmpty then throw .invalidValue
  if !a.repeatable && r.given.contains a then throw .conflict
  let options ←
    if a.takesValue then values.foldlM (fun o v => a.giveValue o v) r.options
    else a.switchOn r.options
  return { r with options := options, given := a :: r.given }

/-- Checks the pending argument. -/
def settle (r : ArgumentReader) : Except UsageError ArgumentReader :=
  match r.pending with
  | none => .ok r
  | some (a, values) => { r with pending := none }.accept a values

/-- Reads an argument that is complete. -/
def give (r : ArgumentReader) (a : Argument) (values : List Text) :
    Except UsageError ArgumentReader := do
  let r ← (← r.settle).accept a values
  return { r with awaiting := false }

/-- Reads an argument whose value is the next word. -/
def await (r : ArgumentReader) (a : Argument) : Except UsageError ArgumentReader := do
  let r ← r.settle
  return { r with pending := some (a, []), awaiting := true }

/-- Reads an argument by its long name, with the value after an equals sign. -/
def readLong (r : ArgumentReader) (t : Text) : Except UsageError ArgumentReader :=
  let (name, value) := match Text.cut? '=' t with
    | some (name, value) => (name, some value)
    | none => (t, none)
  match Argument.ofName? name, value with
  | none, _ => .error .unknownArgument
  | some a, some value => if a.takesValue then r.give a [value] else .error .unexpectedValue
  | some a, none => if a.takesValue then r.await a else r.give a []

/-- Reads arguments by their letters.  A value takes up the rest of the word, without an equals sign
at its front. -/
def readLetters (r : ArgumentReader) : Text → Except UsageError ArgumentReader
  | [] => .ok r
  | c :: rest =>
    match Argument.ofLetter? c with
    | none => .error .unknownArgument
    | some a =>
      if !a.takesValue then do readLetters (← r.give a []) rest
      else
        match rest with
        | [] => r.await a
        | '=' :: value => r.give a [value]
        | value => r.give a [value]

def readInput (r : ArgumentReader) (word : Text) : Except UsageError ArgumentReader :=
  match r.pending with
  | some (.inputs, words) => .ok { r with pending := some (.inputs, words ++ [word]) }
  | _ => do
    let r ← r.settle
    return { r with pending := some (.inputs, [word]), awaiting := false }

def readValue (r : ArgumentReader) (word : Text) : ArgumentReader :=
  { r with
    pending := r.pending.map fun (a, values) => (a, values ++ [word])
    awaiting := false }

def readWord (r : ArgumentReader) (word : Text) : Except UsageError ArgumentReader :=
  if r.onlyInputs then r.readInput word
  else
    match word with
    | ['-', '-'] => .ok { r with onlyInputs := true }
    | '-' :: '-' :: t => r.readLong t
    | '-' :: c :: t => r.readLetters (c :: t)
    | word => if r.awaiting then .ok (r.readValue word) else r.readInput word

end ArgumentReader

/-- The options of a command line, given without the name of the program. -/
def Options.read (words : List Text) : Except UsageError Options := do
  let r ← words.foldlM (fun r word => r.readWord word) ({} : ArgumentReader)
  return (← r.settle).options

end Blueprints
