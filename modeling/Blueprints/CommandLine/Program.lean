import Blueprints.CommandLine.Options
import Blueprints.Log.Filter

/-!
# The program

A run compiles the blueprints, reads the sources, takes them apart and reports.  Whatever fails on
the way ends it with a message and nothing reported.
-/

namespace Blueprints

structure Environment where
  files : Files
  /-- The directives of the log filter, if any were set. -/
  logDirectives : Option Text := none

/-- What a run writes beside the report. -/
inductive Message
  | log (e : LogEntry)
  /-- The log entry at the end of a run over a number of lines, which also tells how long it took. -/
  | finished (lines : Nat)
  | failure (f : Failure)
  | summary (r : Results)

structure Outcome where
  exitCode : Nat
  report : Text
  messages : List Message

namespace Failure

def line (f : Failure) : Text :=
  let place := match f with
    | source _ => Text.ofString "failed to read input: "
    | _ => []
  .ofString "error: " ++ place ++ f.explanation

end Failure

/-- The text of a message after a run that took a number of nanoseconds. -/
def Message.render (color : Bool) (nanoseconds : Nat) : Message → Text
  | log e => e.print ++ ['\n']
  | finished lines =>
    (LogEntry.finished lines).print ++ .ofString " elapsed=" ++ Duration.printExactly nanoseconds
      ++ ['\n']
  | failure f => f.line ++ ['\n']
  | summary r => Piece.renderAll color (r.summaryPieces nanoseconds)

namespace Program

variable {P : Type} [PatternLanguage P]

def compile (o : Options) (files : Files) : List Note × Except Failure (Extractor P) :=
  match o.builder files with
  | .error f => ([], .error f)
  | .ok b =>
    let built : Noted (Extractor P) := b.build
    (built.notes, built.outcome.mapError .blueprint)

def refusalEntries (r : Results) : List LogEntry :=
  r.lines.flatMap fun l => l.attempt.refusals.map .ofRefusal

def admitted (filter : LogFilter) (messages : List Message) : List Message :=
  messages.filter fun m =>
    match m with
    | .log e => filter.admits e
    | .finished lines => filter.admits (.finished lines)
    | _ => true

def failureCode : Nat := 2

/-- The outcome of a run over sources that have been read. -/
def finish (collect : Collector) (o : Options) (color : Bool) (x : Extractor P)
    (sources : List Text) (before : List Message) : Outcome :=
  let results := x.runWith collect o.sequential o.contextMap sources
  { exitCode := if results.allMatched then 0 else 1
    report := results.report o.format color o.matchesOnly
    messages := before ++ [.log (.sourcesRead sources.length)]
      ++ (refusalEntries results).map .log
      ++ [.finished sources.length]
      ++ (match o.format with | .text => [.summary results] | .json => []) }

/-- A run, with all its messages. -/
def runAll (collect : Collector) (P : Type) [PatternLanguage P] (o : Options) (color : Bool)
    (files : Files) : Outcome :=
  let (notes, extractor?) := compile (P := P) o files
  let before := notes.map fun n => Message.log (.ofNote n)
  let fail (f : Failure) : Outcome := ⟨failureCode, [], before ++ [.failure f]⟩
  match extractor? with
  | .error f => fail f
  | .ok x =>
    match Sources.read files o.inputs with
    | .error e => fail (.source e)
    | .ok sources => finish collect o color x sources before

/-- A run, with the messages that the log filter lets through. -/
def runWith (collect : Collector) (P : Type) [PatternLanguage P] (o : Options) (color : Bool)
    (env : Environment) : Outcome :=
  let filter := LogFilter.choose env.logDirectives o.verbosity
  let outcome := runAll collect P o color env.files
  { outcome with messages := admitted filter outcome.messages }

/-- A run that takes one source apart after the other. -/
def run (P : Type) [PatternLanguage P] (o : Options) (color : Bool) (env : Environment) : Outcome :=
  runWith Collector.inOrder P o color env

end Program

end Blueprints
