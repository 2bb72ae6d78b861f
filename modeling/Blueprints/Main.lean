import Blueprints.CommandLine.Arguments
import Blueprints.CommandLine.Program
import Blueprints.Pattern.Basic

/-!
# The command line

Reads the files that a command line names, runs the program on them, and writes what comes of it.
-/

namespace Blueprints.Main

/-- The words of the operating system for an error. -/
def describe (e : IO.Error) : Text :=
  match e with
  | .noFileOrDirectory _ code details | .interrupted _ code details
  | .inappropriateType (some _) code details | .permissionDenied (some _) code details
  | .invalidArgument (some _) code details | .resourceExhausted (some _) code details
  | .alreadyExists (some _) code details | .noSuchThing (some _) code details =>
    numbered code details
  | .alreadyExists none code details | .otherError code details | .resourceBusy code details
  | .resourceVanished code details | .unsupportedOperation code details
  | .hardwareFault code details | .unsatisfiedConstraints code details
  | .illegalOperation code details | .protocolError code details | .timeExpired code details
  | .invalidArgument none code details | .permissionDenied none code details
  | .resourceExhausted none code details | .inappropriateType none code details
  | .noSuchThing none code details => numbered code details
  | .unexpectedEof => .ofString "unexpected end of file"
  | .userError message => .ofString message
where
  numbered (code : UInt32) (details : String) : Text :=
    .ofString details ++ .ofString " (os error " ++ .ofNat code.toNat ++ [')']

/-- The error of an action in the words of the operating system. -/
def attempt {α : Type} (action : IO α) : IO (Except Text α) := do
  match ← action.toBaseIO with
  | .ok a => return .ok a
  | .error e => return .error (describe e)

def readFile (path : Text) : IO (Except Text (Except Text ByteArray)) := do
  match ← attempt (IO.FS.Handle.mk (String.ofList path) .read) with
  | .error cause => return .error cause
  | .ok handle => return .ok (← attempt handle.readBinToEnd)

/-- Reads the files that options name, and the standard input if it is one of the inputs. -/
def readFiles (o : Options) : IO Files := do
  let fromInput := o.inputs.isEmpty || o.inputs.any Sources.isStandardInput
  let paths := o.rules.toList ++ o.inputs.filter (!Sources.isStandardInput ·)
  let contents ← paths.mapM fun path => do return (path, ← readFile path)
  let missing : Text := .ofString "No such file or directory (os error 2)"
  return {
    opening := fun path => (contents.lookup path).getD (.error missing)
    standardInput := ←
      if fromInput then do attempt (← IO.getStdin).readBinToEnd else pure (.ok .empty) }

/-- Do styles show on the standard output? -/
def showsStyles : IO Bool := do
  let plain := (← IO.getEnv "NO_COLOR").isSome || (← IO.getEnv "TERM").all (· == "dumb")
  return !plain && (← (← IO.getStdout).isTty)

def usage : List String := [
  "Extract named fragments from structured strings using blueprints",
  "",
  "Usage: strex [OPTIONS] [INPUTS]...",
  "",
  "Options:",
  "  -b, --blueprint <BLUEPRINT>  Blueprint to extract with (repeatable; tried in order)",
  "  -r, --rules <FILE>           Rules file with settings and blueprints",
  "  -c, --context <KEY=VALUE>    Context value for context-mapped variables",
  "  -s, --skip <NAME>            Capture name to keep inline instead of extracting",
  "      --context-key <NAME>     Placeholder name marking context-mapped variables",
  "      --attach-key <NAME>      Placeholder name marking static-attach variables",
  "      --delimiters <CHARS>     Start, prefix, separator and suffix characters",
  "      --fail-on-remainder      Treat leftover input as a failed match",
  "      --strict                 Reject invalid regexes instead of matching them literally",
  "  -f, --format <FORMAT>        Output format: text or json",
  "  -m, --matches-only           Only print lines that matched",
  "      --sequential             Process lines on a single thread",
  "      --no-color               Disable colored output",
  "  -v, --verbose...             Increase log verbosity",
  "  -h, --help                   Print help",
  "  -V, --version                Print version"]

def answer (e : UsageError) : IO UInt32 := do
  match e with
  | .help => usage.forM IO.println
  | .version => IO.println "strex 0.1.0"
  | .invalidValue => IO.eprintln "error: a value is missing or not possible"
  | .unknownArgument => IO.eprintln "error: unexpected argument found"
  | .refusedValue detail => IO.eprintln s!"error: invalid value: {String.ofList detail}"
  | .conflict => IO.eprintln "error: an argument cannot be used multiple times"
  | .unexpectedValue => IO.eprintln "error: unexpected value for an argument"
  return e.exitCode.toUInt32

def execute (o : Options) : IO UInt32 := do
  let color := !o.noColor && (← showsStyles)
  let env : Environment :=
    { files := ← readFiles o
      logDirectives := (← IO.getEnv "STREX_LOG").map Text.ofString }
  let start ← IO.monoNanosNow
  let outcome ← IO.lazyPure fun _ => Program.run Pattern o color env
  let stop ← IO.monoNanosNow
  IO.print (String.ofList outcome.report)
  (← IO.getStdout).flush
  for m in outcome.messages do
    IO.eprint (String.ofList (m.render color (stop - start)))
  return outcome.exitCode.toUInt32

end Blueprints.Main

/-- Runs the program with the words of a command line. -/
def main (words : List String) : IO UInt32 :=
  match Blueprints.Options.read (words.map String.toList) with
  | .error e => Blueprints.Main.answer e
  | .ok o => Blueprints.Main.execute o
